import Scratchpad.Proofs.Controller.Calls
import Scratchpad.Proofs.Session.Loading

/-!
# Runs take turns

A run asks for the turn, looks at the session when it has it, has the evaluator work on what it
saw, puts the outcome into the session and gives the turn up, each by an action of its own with
anything in between. Because only one run has the turn, invocations of the evaluator follow one
another, and each is completed before the next one begins. None of this depends on the session
with which a controller starts.
-/

set_option autoImplicit false

namespace Scratchpad.Controller

open Evaluator (Evaluation)
open Session (Event Notice Time)

variable {μ : Type}

/-! ## The turn -/

/-- The activity at a place is a run that has the turn. -/
def HasTurn (controller : Controller μ) (place : Nat) : Prop :=
  ∃ phase, controller.phase? place = some phase ∧ phase.hasTurn = true

/-- Only one run has the turn, and an evaluator that is at work is the one of the session. -/
structure TurnInvariant (controller : Controller μ) : Prop where
  exclusive : ∀ {place other}, controller.HasTurn place → controller.HasTurn other →
    place = other
  ready : ∀ {place handle program},
    controller.phase? place = some (.evaluating handle program) →
      controller.session.evaluator = .ready handle

theorem hasTurn_of_evaluating {controller : Controller μ} {place : Nat} {handle : μ}
    {program : String} (found : controller.phase? place = some (.evaluating handle program)) :
    controller.HasTurn place :=
  ⟨_, found, rfl⟩

theorem TurnInvariant.fresh (session : Session μ) :
    TurnInvariant ({ session } : Controller μ) := by
  constructor
  · rintro place other ⟨phase, found, _⟩
    simp [phase?] at found
  · intro place handle program found
    simp [phase?] at found

theorem ready_step {controller : Controller μ} {handle : μ}
    (loaded : controller.session.evaluator = .ready handle) (action : Action μ) :
    (controller.step action).session.evaluator = .ready handle := by
  cases told : controller.event? action with
  | some event =>
    rw [session_step told]
    exact Session.ready_apply loaded event
  | none =>
    rcases session_step_of_silent told with same | claimed
    · rw [same, loaded]
    · obtain ⟨free, _⟩ := Session.of_beginLoad? claimed
      rw [loaded] at free
      cases free

theorem not_hasTurn_first {operation : Operation} {phase : Phase μ}
    (first : phase ∈ operation.phases) : phase.hasTurn = false := by
  cases Operation.isFirst first <;> rfl

/-- A run has the turn after an action only if it had it before, or nobody had it. -/
theorem hasTurn_of_step {controller : Controller μ} {action : Action μ} {place : Nat}
    (turn : (controller.step action).HasTurn place) :
    controller.HasTurn place ∨ controller.turnTaken = false := by
  obtain ⟨phase, reached, has⟩ := turn
  have stepped := step_phase controller action place
  rw [reached] at stepped
  generalize found : controller.phase? place = before at stepped
  cases stepped with
  | same => exact .inl ⟨phase, found, has⟩
  | first first =>
    rw [not_hasTurn_first first] at has
    cases has
  | @told previous event _ =>
    rcases previous.afterEvent_cases (controller.noticeOf event) event with
      ⟨_, _, next⟩ | ⟨had, _⟩ | next
    · rw [next] at has
      cases has
    · exact .inl ⟨previous, found, had⟩
    · rw [next] at has
      cases has
  | moved moved =>
    cases moved with
    | granted free => exact .inr free
    | invoked _ => exact .inl ⟨_, found, rfl⟩
    | turnedDown _ => exact .inl ⟨_, found, rfl⟩
    | _ => cases has

/-- An evaluator at work was at work before, or was just invoked by a run that had the turn, with
what the session holds. -/
theorem evaluating_of_step {controller : Controller μ} {action : Action μ} {place : Nat}
    {handle : μ} {program : String}
    (working : (controller.step action).phase? place = some (.evaluating handle program)) :
    controller.phase? place = some (.evaluating handle program) ∨
      action = .proceed place ∧ controller.phase? place = some .onTurn ∧
        controller.session.evaluator = .ready handle ∧ controller.session.program = program := by
  have stepped := step_phase controller action place
  generalize found : controller.phase? place = before at stepped
  generalize reached : (controller.step action).phase? place = after at stepped
  rw [reached] at working
  cases stepped with
  | same => exact .inl working
  | @first operation phase first =>
    cases working
    cases Operation.isFirst first
  | @told previous event _ =>
    rcases previous.afterEvent_cases (controller.noticeOf event) event with
      ⟨_, _, next⟩ | ⟨_, next⟩ | next <;>
    · rw [next] at working
      cases working
  | moved moved =>
    cases moved with
    | invoked loaded =>
      cases working
      exact .inr ⟨rfl, rfl, loaded, rfl⟩
    | _ => cases working

theorem TurnInvariant.step {controller : Controller μ} (valid : TurnInvariant controller)
    (action : Action μ) : TurnInvariant (controller.step action) := by
  obtain ⟨mover, still⟩ := step_others controller action
  have had : ∀ place, place ≠ mover → (controller.step action).HasTurn place →
      controller.HasTurn place := by
    rintro place stays ⟨phase, reached, has⟩
    rcases still place stays with same | ⟨operation, begun, first, added⟩
    · exact ⟨phase, same ▸ reached, has⟩
    · rw [added] at reached
      cases reached
      rw [not_hasTurn_first first] at has
      cases has
  have alone : ∀ place other, other ≠ mover → (controller.step action).HasTurn place →
      (controller.step action).HasTurn other → place = other := by
    intro place other stays first second
    have before := had other stays second
    rcases hasTurn_of_step first with kept | free
    · exact valid.exclusive kept before
    · rw [Bool.eq_false_iff] at free
      exact absurd ((turnTaken_iff controller).mpr ⟨other, before⟩) free
  constructor
  · -- Of two runs with the turn, one did not move. It had the turn before, so that the other one
    -- cannot have got it now.
    intro place other first second
    by_cases moves : other = mover
    · by_cases both : place = mover
      · exact both.trans moves.symm
      · exact (alone other place both second first).symm
    · exact alone place other moves first second
  · intro place handle program working
    apply ready_step
    rcases evaluating_of_step working with before | ⟨_, _, loaded, _⟩
    · exact valid.ready before
    · exact loaded

/-! ## Invocations -/

/-- A run that was completed: its place, what the evaluator was invoked with, and what it came
to. -/
structure CompletedRun (μ : Type) where
  invocation : Nat × μ × String
  evaluation : Evaluation
  time : Time

/-- The run that a completion is about, if it is about one. -/
def Completion.run? (completion : Completion μ) : Option (CompletedRun μ) :=
  match completion.call, completion.event with
  | .evaluate handle program, .runCompleted evaluation time =>
    some ⟨(completion.place, handle, program), evaluation, time⟩
  | _, _ => none

/-- The runs that are completed in the course of actions, in order. -/
def completedRuns (controller : Controller μ) (actions : List (Action μ)) :
    List (CompletedRun μ) :=
  (controller.completions actions).filterMap (·.run?)

/-- What an event says that a run came to. -/
def outcome? : Event μ → Option (Evaluation × Time)
  | .runCompleted evaluation time => some (evaluation, time)
  | _ => none

/-- What an action can do to the invocations of the evaluator: nothing, make one, or complete
one. -/
inductive RunStep (before after : Controller μ) :
    Option (Completion μ) → Option (Event μ) → Prop where
  | quiet {completion event} :
      (∀ place, after.callAt Call.evaluation? place = before.callAt Call.evaluation? place) →
      completion.bind Completion.run? = none → event.bind outcome? = none →
      RunStep before after completion event
  | invoked {place handle} : before.phase? place = some .onTurn →
      after.callAt Call.evaluation? place = some (handle, before.session.program) →
      (∀ other, other ≠ place →
        after.callAt Call.evaluation? other = before.callAt Call.evaluation? other) →
      RunStep before after none none
  | completed {place handle program evaluation time} :
      before.callAt Call.evaluation? place = some (handle, program) →
      after.callAt Call.evaluation? place = none →
      (∀ other, other ≠ place →
        after.callAt Call.evaluation? other = before.callAt Call.evaluation? other) →
      RunStep before after
        (some ⟨place, .evaluate handle program, .runCompleted evaluation time⟩)
        (some (.runCompleted evaluation time))

theorem evaluation_eq_some_iff {controller : Controller μ} {place : Nat} {handle : μ}
    {program : String} :
    controller.callAt Call.evaluation? place = some (handle, program) ↔
      controller.phase? place = some (.evaluating handle program) := by
  simp only [callAt, Option.bind_eq_some_iff]
  constructor
  · rintro ⟨phase, found, asked⟩
    cases phase <;> simp [Phase.callOf, Phase.call?, Call.evaluation?] at asked
    obtain ⟨rfl, rfl⟩ := asked
    exact found
  · intro found
    exact ⟨_, found, rfl⟩

theorem RunStep.of_told {controller : Controller μ} {action : Action μ} {place : Nat}
    {phase : Phase μ} {event : Event μ} (found : controller.phase? place = some phase)
    (told : controller.event? action = some event)
    (idle : phase.callOf Call.evaluation? = none) (other : outcome? event = none) :
    RunStep controller (controller.conclude place phase event) (controller.completion? action)
      (some event) := by
  refine .quiet ?_ ?_ other
  · apply callAt_enter_same (controller.apply event) found
    rw [idle]
    rcases phase.afterEvent_cases (controller.noticeOf event) event with
      ⟨_, _, next⟩ | ⟨_, next⟩ | next <;>
    · rw [next]
      rfl
  · cases completed : controller.completion? action with
    | none => rfl
    | some completion =>
      have same := event?_of_completion? completed
      rw [told] at same
      cases same
      cases event : completion.event <;> simp_all [Completion.run?, outcome?]

theorem RunStep.of_moved {controller between : Controller μ} {place : Nat} {action : Action μ}
    {phase next : Phase μ} (found : controller.phase? place = some phase)
    (moved : Moved controller place action phase between next) :
    RunStep controller (between.enter place next) none none := by
  cases moved with
  | invoked loaded =>
    refine .invoked found (callAt_enter_self controller found Call.evaluation? _) ?_
    intro other different
    exact callAt_enter_other controller different Call.evaluation? _
  | claimed claimed =>
    exact .quiet (callAt_enter_same _ found rfl) rfl rfl
  | _ => exact .quiet (callAt_enter_same controller found rfl) rfl rfl

theorem step_runStep (controller : Controller μ) (action : Action μ) :
    RunStep controller (controller.step action) (controller.completion? action)
      (controller.event? action) := by
  generalize reached : controller.step action = after
  have stepped := step_stepped controller action
  rw [reached] at stepped
  cases stepped with
  | ignored silent =>
    rw [completion?_eq_none silent, silent]
    exact .quiet (fun _ => rfl) rfl rfl
  | begun =>
    exact .quiet (callAt_begin (fun _ => callOf_evaluation_first) controller) rfl rfl
  | edited => exact .quiet (fun _ => rfl) rfl rfl
  | cleared => exact .quiet (fun _ => rfl) rfl rfl
  | @told _ place phase event found tells told =>
    cases tells with
    | @evaluated handle program evaluation time =>
      have completes : controller.completion? (.answer place (.evaluated evaluation time)) =
          some ⟨place, .evaluate handle program, .runCompleted evaluation time⟩ := by
        simp [completion?, found, Phase.call?, Phase.eventOn]
      rw [completes, told]
      refine .completed (callAt_of_phase? found _) ?_ ?_
      · exact callAt_enter_self (controller.apply _) found Call.evaluation? _
      · intro other different
        exact callAt_enter_other (controller.apply _) different Call.evaluation? _
    | @manifest result =>
      rw [told]
      refine .of_told found told rfl ?_
      cases Catalog.ofManifest result <;> rfl
    | _ =>
      rw [told]
      exact .of_told found told rfl rfl
  | moved found moved silent =>
    rw [completion?_eq_none silent, silent]
    exact .of_moved found moved

theorem TurnInvariant.alone {controller : Controller μ} (valid : TurnInvariant controller)
    {place other : Nat} (turn : controller.HasTurn place) (different : other ≠ place) :
    controller.callAt Call.evaluation? other = none := by
  cases working : controller.callAt Call.evaluation? other with
  | none => rfl
  | some invocation =>
    have found := evaluation_eq_some_iff.mp working
    exact absurd (valid.exclusive (hasTurn_of_evaluating found) turn) different

theorem TurnInvariant.inFlight_length {controller : Controller μ}
    (valid : TurnInvariant controller) :
    (controller.inFlight Call.evaluation?).length ≤ 1 := by
  by_cases working : ∃ place invocation,
      controller.callAt Call.evaluation? place = some invocation
  · obtain ⟨place, invocation, working⟩ := working
    have turn := hasTurn_of_evaluating (evaluation_eq_some_iff.mp working)
    rw [inFlight_eq_singleton working fun _ different => valid.alone turn different]
    exact Nat.le_refl 1
  · have none : ∀ place, controller.callAt Call.evaluation? place = none := by
      intro place
      cases found : controller.callAt Call.evaluation? place with
      | none => rfl
      | some invocation => exact absurd ⟨place, invocation, found⟩ working
    rw [inFlight_eq_nil none]
    exact Nat.zero_le 1

/-- The invocations in flight and those that an action begins are those that it completes and
those in flight after it, in this order. -/
theorem RunStep.flow {before after : Controller μ} {completion : Option (Completion μ)}
    {event : Option (Event μ)} (valid : TurnInvariant before)
    (step : RunStep before after completion event) :
    before.inFlight Call.evaluation? ++ begunBetween Call.evaluation? before after =
      (completion.bind Completion.run?).toList.map (·.invocation) ++
        after.inFlight Call.evaluation? := by
  cases step with
  | quiet same silent _ =>
    have none : begunBetween Call.evaluation? before after = [] :=
      begunBetween_eq_nil fun place => .inl (same place)
    rw [none, silent, inFlight_congr same]
    simp
  | @invoked place handle found working others =>
    have idle : ∀ other, before.callAt Call.evaluation? other = none := by
      intro other
      by_cases here : other = place
      · rw [here]
        exact callAt_of_phase? found Call.evaluation?
      · exact valid.alone ⟨_, found, rfl⟩ here
    have only : ∀ other, other ≠ place → after.callAt Call.evaluation? other = none := by
      intro other different
      rw [others other different, idle other]
    rw [inFlight_eq_nil idle, begunBetween_eq_singleton (idle place) working only,
      inFlight_eq_singleton working only]
    rfl
  | @completed place handle program evaluation time working ended others =>
    have turn := hasTurn_of_evaluating (evaluation_eq_some_iff.mp working)
    have only : ∀ other, other ≠ place → before.callAt Call.evaluation? other = none :=
      fun _ different => valid.alone turn different
    have idle : ∀ other, after.callAt Call.evaluation? other = none := by
      intro other
      by_cases here : other = place
      · rw [here, ended]
      · rw [others other here, only other here]
    have none : begunBetween Call.evaluation? before after = [] :=
      begunBetween_eq_nil fun other => .inr (idle other)
    rw [inFlight_eq_singleton working only, none, inFlight_eq_nil idle]
    rfl

theorem RunStep.outcome {before after : Controller μ} {completion : Option (Completion μ)}
    {event : Option (Event μ)} (step : RunStep before after completion event) :
    event.bind outcome? =
      (completion.bind Completion.run?).map fun run => (run.evaluation, run.time) := by
  cases step with
  | quiet _ silent other => rw [silent, other]; rfl
  | invoked => rfl
  | completed => rfl

theorem completedRuns_cons (controller : Controller μ) (action : Action μ)
    (actions : List (Action μ)) :
    controller.completedRuns (action :: actions) =
      ((controller.completion? action).bind Completion.run?).toList ++
        (controller.step action).completedRuns actions := by
  rw [completedRuns, completions, List.filterMap_append]
  cases controller.completion? action <;> rfl

theorem TurnInvariant.flow {controller : Controller μ} (valid : TurnInvariant controller)
    (actions : List (Action μ)) :
    controller.inFlight Call.evaluation? ++ controller.begunCalls Call.evaluation? actions =
      (controller.completedRuns actions).map (·.invocation) ++
        (controller.run actions).inFlight Call.evaluation? := by
  induction actions generalizing controller with
  | nil => simp [begunCalls, completedRuns, completions]
  | cons action actions ih =>
    have first := (step_runStep controller action).flow valid
    have rest := ih (valid.step action)
    calc controller.inFlight Call.evaluation? ++
          controller.begunCalls Call.evaluation? (action :: actions)
        = (controller.inFlight Call.evaluation? ++
            begunBetween Call.evaluation? controller (controller.step action)) ++
              (controller.step action).begunCalls Call.evaluation? actions := by
          rw [begunCalls, List.append_assoc]
      _ = ((controller.completion? action).bind Completion.run?).toList.map (·.invocation) ++
            ((controller.step action).inFlight Call.evaluation? ++
              (controller.step action).begunCalls Call.evaluation? actions) := by
          rw [first, List.append_assoc]
      _ = (controller.completedRuns (action :: actions)).map (·.invocation) ++
            (controller.run (action :: actions)).inFlight Call.evaluation? := by
          rw [rest, completedRuns_cons, List.map_append, List.append_assoc, run_cons]

theorem outcomes_eq (controller : Controller μ) (actions : List (Action μ)) :
    (controller.events actions).filterMap outcome? =
      (controller.completedRuns actions).map fun run => (run.evaluation, run.time) := by
  induction actions generalizing controller with
  | nil => rfl
  | cons action actions ih =>
    have first := (step_runStep controller action).outcome
    have split : ∀ (event : Option (Event μ)), event.toList.filterMap outcome? =
        (event.bind outcome?).toList := by
      intro event
      cases event <;> rfl
    rw [events, List.filterMap_append, ih, split, first, completedRuns_cons, List.map_append]
    cases (controller.completion? action).bind Completion.run? <;> rfl

/-! ## Each run invokes once -/

theorem look_declined {controller : Controller μ} {place : Nat}
    (found : controller.phase? place = some .onTurn)
    (missing : ∀ handle, controller.session.evaluator ≠ .ready handle) :
    controller.step (.proceed place) = controller.enter place .turnedDown := by
  simp only [step, proceed, found, Phase.eventDue, goOn, look]
  cases state : controller.session.evaluator with
  | ready handle => exact absurd state (missing handle)
  | _ => rfl

theorem look_invokes {controller : Controller μ} {place : Nat} {handle : μ}
    (found : controller.phase? place = some .onTurn)
    (loaded : controller.session.evaluator = .ready handle) :
    controller.step (.proceed place) =
      controller.enter place (.evaluating handle controller.session.program) := by
  simp only [step, proceed, found, Phase.eventDue, goOn, look, loaded, Evaluator.State.require]

theorem answer_evaluating {controller : Controller μ} {place : Nat} {handle : μ}
    {program : String} (found : controller.phase? place = some (.evaluating handle program))
    (evaluation : Evaluation) (time : Time) :
    (controller.step (.answer place (.evaluated evaluation time))).phase? place =
      some (.yielding (controller.session.apply (.runCompleted evaluation time)).notice) := by
  simp only [step, answer, found, Phase.eventOn, conclude]
  exact phase?_enter_self (controller.apply _) found _

/-- A run that has looked at the session does not look again. -/
def Phase.hasLooked : Phase μ → Bool
  | .turnedDown | .evaluating _ _ | .yielding _ | .finished _ => true
  | _ => false

theorem hasLooked_step {controller : Controller μ} {place : Nat}
    (looked : (controller.phase? place).any (·.hasLooked) = true) (action : Action μ) :
    ((controller.step action).phase? place).any (·.hasLooked) = true := by
  have stepped := step_phase controller action place
  generalize controller.phase? place = before at looked stepped
  generalize (controller.step action).phase? place = after at stepped
  cases stepped with
  | same => exact looked
  | first => cases looked
  | @told phase event _ =>
    rcases phase.afterEvent_cases (controller.noticeOf event) event with
      ⟨_, rfl, _⟩ | ⟨_, next⟩ | next
    · cases looked
    · rw [next]
      rfl
    · rw [next]
      rfl
  | moved moved =>
    cases moved with
    | yielded => rfl
    | _ => cases looked

/-- Whoever invokes the evaluator has not looked before, and has looked then. -/
theorem looks_of_begun {controller : Controller μ} {action : Action μ} {place : Nat}
    {handle : μ} {program : String}
    (begun : (place, handle, program) ∈
      begunBetween Call.evaluation? controller (controller.step action)) :
    (controller.phase? place).any (·.hasLooked) = false ∧
      ((controller.step action).phase? place).any (·.hasLooked) = true := by
  obtain ⟨free, working⟩ := mem_begunBetween_iff.mp begun
  have reached := evaluation_eq_some_iff.mp working
  rcases evaluating_of_step reached with before | ⟨_, found, _, _⟩
  · rw [evaluation_eq_some_iff.mpr before] at free
    cases free
  · exact ⟨by rw [found]; rfl, by rw [reached]; rfl⟩

theorem not_begun_of_hasLooked {controller : Controller μ} {place : Nat}
    (looked : (controller.phase? place).any (·.hasLooked) = true) (actions : List (Action μ))
    (invocation : μ × String) :
    (place, invocation) ∉ controller.begunCalls Call.evaluation? actions := by
  induction actions generalizing controller with
  | nil => simp [begunCalls]
  | cons action actions ih =>
    intro member
    rcases List.mem_append.mp member with now | later
    · rw [(looks_of_begun now).1] at looked
      cases looked
    · exact ih (hasLooked_step looked action) later

theorem nodup_begunCalls (controller : Controller μ) (actions : List (Action μ)) :
    ((controller.begunCalls Call.evaluation? actions).map Prod.fst).Nodup := by
  induction actions generalizing controller with
  | nil => simp [begunCalls]
  | cons action actions ih =>
    rw [begunCalls, List.map_append, List.nodup_append]
    refine ⟨nodup_begunBetween _ _ _, ih _, ?_⟩
    rintro place now other later rfl
    obtain ⟨⟨_, handle, program⟩, begun, rfl⟩ := List.mem_map.mp now
    obtain ⟨⟨_, invocation⟩, again, same⟩ := List.mem_map.mp later
    cases same
    exact not_begun_of_hasLooked (looks_of_begun begun).2 actions invocation again

/-! ## Runs without an evaluator -/

/-- The phases of a run that found no evaluator. -/
inductive Phase.Declined : Phase μ → Prop where
  | turnedDown : Declined .turnedDown
  | yielding : Declined (.yielding (some .moduleNotReady))
  | finished : Declined (.finished (some .moduleNotReady))

/-- The activity whose action it is. -/
def Action.place? : Action μ → Option Nat
  | .answer place _ | .proceed place => some place
  | _ => none

theorem proceed_turnedDown {controller : Controller μ} {place : Nat}
    (found : controller.phase? place = some .turnedDown) :
    (controller.step (.proceed place)).phase? place =
      some (.yielding (some .moduleNotReady)) := by
  simp only [step, proceed, found, Phase.eventDue, conclude]
  exact phase?_enter_self (controller.apply .runRejected) found _

theorem proceed_yielding {controller : Controller μ} {place : Nat} {notice : Option Notice}
    (found : controller.phase? place = some (.yielding notice)) :
    (controller.step (.proceed place)).phase? place = some (.finished notice) := by
  simp only [step, proceed, found, Phase.eventDue, goOn]
  exact phase?_enter_self controller found _

theorem proceed_finished {controller : Controller μ} {place : Nat} {notice : Option Notice}
    (found : controller.phase? place = some (.finished notice)) :
    (controller.step (.proceed place)).phase? place = some (.finished notice) := by
  simp only [step, proceed, found, Phase.eventDue, goOn]

theorem declined_finishes {controller : Controller μ} {place : Nat} {phase : Phase μ}
    (found : controller.phase? place = some phase) (declined : phase.Declined) :
    ((controller.step (.proceed place)).step (.proceed place)).phase? place =
      some (.finished (some .moduleNotReady)) := by
  cases declined with
  | turnedDown => exact proceed_yielding (proceed_turnedDown found)
  | yielding => exact proceed_finished (proceed_yielding found)
  | finished => exact proceed_finished (proceed_finished found)

theorem declined_step {controller : Controller μ} {place : Nat} {phase : Phase μ}
    (found : controller.phase? place = some phase) (declined : phase.Declined)
    (action : Action μ) :
    ∃ next, (controller.step action).phase? place = some next ∧ next.Declined := by
  have stepped := step_phase controller action place
  rw [found] at stepped
  generalize (controller.step action).phase? place = after at stepped
  cases stepped with
  | same => exact ⟨phase, rfl, declined⟩
  | told tells =>
    cases declined with
    | turnedDown => cases tells; exact ⟨_, rfl, .yielding⟩
    | yielding => cases tells
    | finished => cases tells
  | moved moved =>
    cases declined with
    | turnedDown => cases moved
    | yielding => cases moved; exact ⟨_, rfl, .finished⟩
    | finished => cases moved

theorem declined_run {controller : Controller μ} {place : Nat} {phase : Phase μ}
    (found : controller.phase? place = some phase) (declined : phase.Declined)
    (actions : List (Action μ)) :
    ∃ next, (controller.run actions).phase? place = some next ∧ next.Declined := by
  induction actions generalizing controller phase with
  | nil => exact ⟨phase, found, declined⟩
  | cons action actions ih =>
    obtain ⟨next, reached, still⟩ := declined_step found declined action
    exact ih reached still

theorem declined_session {controller : Controller μ} {place : Nat} {phase : Phase μ}
    (found : controller.phase? place = some phase) (declined : phase.Declined)
    {action : Action μ} (own : action.place? = some place) :
    (controller.step action).session = controller.session := by
  cases action with
  | answer other answer =>
    cases own
    cases declined <;> simp [step, Controller.answer, found, Phase.eventOn]
  | proceed other =>
    cases own
    cases declined <;> simp only [step, proceed, found, Phase.eventDue, goOn] <;> rfl
  | _ => cases own

/-! ## The life of a run -/

/-- What holds of runs in a state of a controller, whatever happens next. -/
structure TurnsKept (controller : Controller μ) : Prop where
  /-- At most one invocation of the evaluator is in flight. -/
  single : (controller.inFlight Call.evaluation?).length ≤ 1
  /-- Whoever invokes the evaluator is a run that alone has the turn and goes on. It passes the
  program of the session, as it is then, to the evaluator of the session. -/
  invoked : ∀ {action place handle program},
    (place, handle, program) ∈
      begunBetween Call.evaluation? controller (controller.step action) →
    action = .proceed place ∧ controller.phase? place = some .onTurn ∧
      (∀ other, controller.HasTurn other → other = place) ∧
      controller.session.evaluator = .ready handle ∧ controller.session.program = program
  /-- A run that has the turn and goes on does invoke the evaluator, once there is one. -/
  invokes : ∀ {place handle}, controller.phase? place = some .onTurn →
    controller.session.evaluator = .ready handle →
    (place, handle, controller.session.program) ∈
      begunBetween Call.evaluation? controller (controller.step (.proceed place))
  /-- What the evaluator answers is the outcome that its run puts into the session, unchanged.
  The evaluator is still the one of the session, and the run still has the turn afterwards. -/
  completed : ∀ {place handle program},
    controller.phase? place = some (.evaluating handle program) →
    controller.session.evaluator = .ready handle ∧ ∀ evaluation time,
      controller.event? (.answer place (.evaluated evaluation time)) =
        some (.runCompleted evaluation time) ∧
      (controller.step (.answer place (.evaluated evaluation time))).session =
        (controller.session.apply (.runCompleted evaluation time)).session ∧
      (controller.step (.answer place (.evaluated evaluation time))).phase? place =
        some (.yielding (controller.session.apply (.runCompleted evaluation time)).notice)
  /-- A run that finds no evaluator invokes nothing, leaves the session alone by all it does, and
  ends with the notice that says so. -/
  declined : ∀ {place}, controller.phase? place = some .onTurn →
    (∀ handle, controller.session.evaluator ≠ .ready handle) →
    (controller.step (.proceed place)).session = controller.session ∧ ∀ later,
      (∀ invocation, (place, invocation) ∉
        controller.begunCalls Call.evaluation? (.proceed place :: later)) ∧
      (∀ action, action.place? = some place →
        ((controller.run (.proceed place :: later)).step action).session =
          (controller.run (.proceed place :: later)).session) ∧
      (∃ phase, (controller.run (.proceed place :: later)).phase? place = some phase ∧
        phase.Declined) ∧
      (controller.run (.proceed place :: (later ++ [.proceed place, .proceed place]))).phase?
        place = some (.finished (some .moduleNotReady))

/-- How programs are run in the course of actions. -/
structure RunInTurns (start : Controller μ) (actions : List (Action μ)) : Prop where
  kept : TurnsKept (start.run actions)
  /-- Runs are completed in the order in which they invoked the evaluator, and all are but the
  one in flight. -/
  ordered : start.begunCalls Call.evaluation? actions =
    (start.completedRuns actions).map (·.invocation) ++
      (start.run actions).inFlight Call.evaluation?
  /-- No run invokes the evaluator twice. -/
  once : ((start.begunCalls Call.evaluation? actions).map Prod.fst).Nodup
  /-- The outcomes that are put into the session are those of the completed runs, in order. -/
  outcomes : (start.events actions).filterMap outcome? =
    (start.completedRuns actions).map fun run => (run.evaluation, run.time)

theorem TurnInvariant.turnsKept {controller : Controller μ} (valid : TurnInvariant controller) :
    TurnsKept controller := by
  constructor
  case single => exact valid.inFlight_length
  case invoked =>
    intro action place handle program begun
    obtain ⟨free, working⟩ := mem_begunBetween_iff.mp begun
    rcases evaluating_of_step (evaluation_eq_some_iff.mp working) with before | now
    · rw [evaluation_eq_some_iff.mpr before] at free
      cases free
    · obtain ⟨goes, found, loaded, program⟩ := now
      exact ⟨goes, found, fun other turn => valid.exclusive turn ⟨_, found, rfl⟩, loaded, program⟩
  case invokes =>
    intro place handle found loaded
    rw [look_invokes found loaded]
    exact mem_begunBetween_iff.mpr
      ⟨callAt_of_phase? found _, callAt_enter_self controller found _ _⟩
  case completed =>
    intro place handle program found
    refine ⟨valid.ready found, fun evaluation time => ?_⟩
    have told : controller.event? (.answer place (.evaluated evaluation time)) =
        some (.runCompleted evaluation time) := by
      simp [event?, found, Phase.eventOn]
    exact ⟨told, session_step told, answer_evaluating found evaluation time⟩
  case declined =>
    intro place found missing
    have looked := look_declined found missing
    have reached : (controller.step (.proceed place)).phase? place = some .turnedDown := by
      rw [looked]
      exact phase?_enter_self controller found _
    refine ⟨by rw [looked]; rfl, fun later => ?_⟩
    obtain ⟨phase, ends, still⟩ := declined_run reached .turnedDown later
    refine ⟨?_, fun _ own => declined_session ends still own, ⟨phase, ends, still⟩, ?_⟩
    · intro invocation member
      rcases List.mem_append.mp member with now | afterwards
      · have working := evaluation_eq_some_iff.mp (mem_begunBetween_iff.mp now).2
        rw [reached] at working
        cases working
      · exact not_begun_of_hasLooked (by rw [reached]; rfl) later invocation afterwards
    · rw [run_cons, run_append]
      exact declined_finishes ends still

/-- In every interleaving of runs with anything else, runs never overlap: each evaluates the
program that it saw when its turn came, and its outcome is in the session before the next run
looks. -/
theorem programs_run_in_turns (session : Session μ) (actions : List (Action μ)) :
    RunInTurns ({ session } : Controller μ) actions := by
  have fresh := TurnInvariant.fresh session
  have valid : TurnInvariant (({ session } : Controller μ).run actions) :=
    run_preserves (fun _ action valid => valid.step action) fresh actions
  have flow := fresh.flow actions
  have idle : ({ session } : Controller μ).inFlight Call.evaluation? = [] := rfl
  constructor
  case kept => exact valid.turnsKept
  case ordered => rwa [idle, List.nil_append] at flow
  case once => exact nodup_begunCalls _ actions
  case outcomes => exact outcomes_eq _ actions

/-- Two runs, with an edit between the look of the first one and its outcome. The second one looks
when the first one has given up its turn. -/
theorem programs_run_in_turns_while_edited :
    let start : Controller String :=
      { session := { id := "id", program := "first", evaluator := .ready "evaluator" } }
    let actions : List (Action String) :=
      [.begin .run, .begin .run, .grant, .proceed 0, .grant, .edit "second", .proceed 1,
        .answer 0 (.evaluated (.ok "1") ⟨"now"⟩), .grant, .proceed 0, .grant, .proceed 1]
    start.begunCalls Call.evaluation? actions =
        [(0, "evaluator", "first"), (1, "evaluator", "second")] ∧
      RunInTurns start actions :=
  ⟨by decide, programs_run_in_turns _ _⟩

end Scratchpad.Controller
