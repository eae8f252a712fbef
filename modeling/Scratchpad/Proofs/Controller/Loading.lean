import Scratchpad.Proofs.Controller.Calls
import Scratchpad.Proofs.Session.Loading

/-!
# The evaluator is loaded once

An activity loads the evaluator only after it has claimed the load from the session, and the claim
and the answer are two actions with anything in between. The invariant that ties them together is
that a load is in flight exactly while the session says so. It follows that no answer to a load
is ever turned away, that a load is tried again only after a failure, and that a loaded evaluator
stays.
-/

set_option autoImplicit false

namespace Scratchpad

open Evaluator (LoadError)
open Session (Event)

variable {μ : Type}

/-! ## What an action does to the loading -/

namespace Controller

/-- What an action can do to the loading of the evaluator: nothing, claim a load, or complete
one. -/
inductive LoadStep (before after : Controller μ) : Option (Completion μ) → Prop where
  | quiet {completion} :
      (∀ place, after.callAt Call.load? place = before.callAt Call.load? place) →
      after.session.evaluator = before.session.evaluator →
      (∃ entries, after.log = before.log ++ entries ∧
        ∀ entry ∈ entries, entry.isStray = false) →
      (∀ completed ∈ completion, completed.event.isModuleEvent = false) →
      LoadStep before after completion
  | claimed {place number} :
      before.session.evaluator.isClaimed = false →
      before.callAt Call.load? place = none → after.callAt Call.load? place = some number →
      (∀ other, other ≠ place → after.callAt Call.load? other = before.callAt Call.load? other) →
      after.session.evaluator = .loading → after.log = before.log →
      LoadStep before after none
  | completed {place number result} :
      before.callAt Call.load? place = some number → after.callAt Call.load? place = none →
      (∀ other, other ≠ place → after.callAt Call.load? other = before.callAt Call.load? other) →
      after.session = (before.session.apply (.ofLoad result)).session →
      after.log = before.log ++ (before.session.apply (.ofLoad result)).log →
      LoadStep before after (some ⟨place, .load number, .ofLoad result⟩)

theorem LoadStep.of_told {controller : Controller μ} {place : Nat} {phase : Phase μ}
    {event : Event μ} {completion : Option (Completion μ)}
    (found : controller.phase? place = some phase)
    (idle : phase.callOf Call.load? = none)
    (other : event.isModuleEvent = false)
    (same : ∀ completed ∈ completion, completed.event = event) :
    LoadStep controller (controller.conclude place phase event) completion := by
  refine .quiet ?_ (controller.session.evaluator_apply other)
    ⟨_, rfl, controller.session.not_isStray_apply other⟩ ?_
  · apply callAt_enter_same (controller.apply event) found
    rw [idle]
    unfold Phase.afterEvent
    split <;> rfl
  · intro completed member
    rw [same completed member]
    exact other

theorem LoadStep.of_moved {controller between : Controller μ} {place : Nat} {action : Action μ}
    {phase next : Phase μ} (found : controller.phase? place = some phase)
    (moved : Moved controller place action phase between next) :
    LoadStep controller (between.enter place next) none := by
  cases moved with
  | claimed claimed =>
    obtain ⟨free, rfl⟩ := Session.of_beginLoad? claimed
    exact .claimed free (callAt_of_phase? found Call.load?)
      (callAt_enter_self _ found Call.load? _)
      (fun _ different => callAt_enter_other _ different Call.load? _) rfl rfl
  | _ =>
    exact .quiet (callAt_enter_same controller found rfl) rfl ⟨[], by simp [enter], by simp⟩
      (by simp)

theorem LoadStep.of_loaded {controller : Controller μ} {place number : Nat}
    (found : controller.phase? place = some (.loading number)) (result : Except LoadError μ) :
    LoadStep controller (controller.conclude place (.loading number) (.ofLoad result))
      (some ⟨place, .load number, .ofLoad result⟩) := by
  refine .completed (callAt_of_phase? found Call.load?) ?_ ?_ rfl rfl
  · exact callAt_enter_self (controller.apply (.ofLoad result)) found Call.load? _
  · intro other different
    exact callAt_enter_other (controller.apply (.ofLoad result)) different Call.load? _

theorem step_loadStep (controller : Controller μ) (action : Action μ) :
    LoadStep controller (controller.step action) (controller.completion? action) := by
  have quietly : ∀ event, event.isModuleEvent = false → controller.completion? action = none →
      LoadStep controller (controller.apply event) (controller.completion? action) := by
    intro event other silent
    rw [silent]
    exact .quiet (fun _ => rfl) (controller.session.evaluator_apply other)
      ⟨_, rfl, controller.session.not_isStray_apply other⟩ (by simp)
  generalize reached : controller.step action = after
  have stepped := step_stepped controller action
  rw [reached] at stepped
  cases stepped with
  | ignored silent =>
    rw [completion?_eq_none silent]
    exact .quiet (fun _ => rfl) rfl ⟨[], by simp, by simp⟩ (by simp)
  | @begun operation =>
    exact .quiet (callAt_begin (fun _ => callOf_load_first) controller) rfl
      ⟨[], by simp [begin], by simp⟩ (by simp [completion?])
  | edited => exact quietly _ rfl rfl
  | cleared => exact quietly _ rfl rfl
  | @told _ place phase event found tells told =>
    have same : ∀ completed ∈ controller.completion? action, completed.event = event := by
      intro completed member
      have applied := event?_of_completion? member
      rw [told] at applied
      cases applied
      rfl
    cases tells with
    | @loaded number handle =>
      have completes : controller.completion? (.answer place (.loaded (.ok handle))) =
          some ⟨place, .load number, .ofLoad (.ok handle)⟩ := by
        simp [completion?, found, Phase.call?, Phase.eventOn, Event.ofLoad]
      rw [completes]
      exact .of_loaded found (.ok handle)
    | @loadFailed number error =>
      have completes : controller.completion? (.answer place (.loaded (.error error))) =
          some ⟨place, .load number, .ofLoad (.error error)⟩ := by
        simp [completion?, found, Phase.call?, Phase.eventOn, Event.ofLoad]
      rw [completes]
      exact .of_loaded found (.error error)
    | @manifest result =>
      refine .of_told found rfl ?_ same
      cases Catalog.ofManifest result <;> rfl
    | _ => exact .of_told found rfl rfl same
  | moved found moved silent =>
    rw [completion?_eq_none silent]
    exact .of_moved found moved

/-! ## The invariant -/

/-- At most one load is in flight, and one is exactly while the session says so. -/
structure LoadInvariant (controller : Controller μ) : Prop where
  exclusive : ∀ {place other}, (controller.callAt Call.load? place).isSome = true →
    (controller.callAt Call.load? other).isSome = true → place = other
  loading : (∃ place, (controller.callAt Call.load? place).isSome = true) ↔
    controller.session.evaluator = .loading

theorem LoadInvariant.idle {controller : Controller μ} (valid : LoadInvariant controller)
    (free : controller.session.evaluator.isClaimed = false) (place : Nat) :
    controller.callAt Call.load? place = none := by
  cases busy : controller.callAt Call.load? place with
  | none => rfl
  | some number =>
    have loading := valid.loading.mp ⟨place, by simp [busy]⟩
    simp [loading, Evaluator.State.isClaimed] at free

theorem LoadInvariant.alone {controller : Controller μ} (valid : LoadInvariant controller)
    {place other number : Nat} (busy : controller.callAt Call.load? place = some number)
    (different : other ≠ place) : controller.callAt Call.load? other = none := by
  cases second : controller.callAt Call.load? other with
  | none => rfl
  | some _ => exact absurd (valid.exclusive (by simp [second]) (by simp [busy])) different

theorem LoadInvariant.next {before after : Controller μ} {completion : Option (Completion μ)}
    (valid : LoadInvariant before) (step : LoadStep before after completion) :
    LoadInvariant after := by
  cases step with
  | quiet loads state _ _ =>
    constructor
    · intro place other first second
      rw [loads] at first second
      exact valid.exclusive first second
    · simp only [loads, state]
      exact valid.loading
  | @claimed place number free _ begun others state _ =>
    -- The claim is granted only while nothing is in flight.
    have idle := valid.idle free
    have only : ∀ other, (after.callAt Call.load? other).isSome = true → other = place := by
      intro other busy
      by_cases same : other = place
      · exact same
      · rw [others other same, idle other] at busy
        cases busy
    exact ⟨fun first second => (only _ first).trans (only _ second).symm,
      fun _ => state, fun _ => ⟨place, by simp [begun]⟩⟩
  | @completed place number result inFlight ended others state _ =>
    have loading := valid.loading.mp ⟨place, by simp [inFlight]⟩
    have idle : ∀ other, after.callAt Call.load? other = none := by
      intro other
      by_cases same : other = place
      · rw [same, ended]
      · rw [others other same, valid.alone inFlight same]
    have settled : after.session.evaluator = .ofLoad result := by
      rw [state, Session.apply_ofLoad loading]
    constructor
    · intro place other first
      simp [idle] at first
    · simp only [idle, settled]
      cases result <;> simp [Evaluator.State.ofLoad]

theorem LoadInvariant.step {controller : Controller μ} (valid : LoadInvariant controller)
    (action : Action μ) : LoadInvariant (controller.step action) :=
  valid.next (step_loadStep controller action)

theorem LoadInvariant.fresh {session : Session μ} (free : session.evaluator.isClaimed = false) :
    LoadInvariant ({ session } : Controller μ) := by
  have settled : session.evaluator ≠ .loading := by
    intro loading
    rw [loading] at free
    cases free
  constructor
  · intro place other busy
    simp [callAt, phase?] at busy
  · simp [callAt, phase?, settled]

theorem LoadInvariant.inFlight_length {controller : Controller μ}
    (valid : LoadInvariant controller) :
    (controller.inFlight Call.load?).length =
      if controller.session.evaluator.status = .loading then 1 else 0 := by
  by_cases loading : controller.session.evaluator = .loading
  · obtain ⟨place, busy⟩ := valid.loading.mpr loading
    obtain ⟨number, inFlight⟩ := Option.isSome_iff_exists.mp busy
    rw [inFlight_eq_singleton inFlight fun _ different => valid.alone inFlight different]
    simp [loading, Evaluator.State.status]
  · have idle : ∀ place, controller.callAt Call.load? place = none := by
      intro place
      cases busy : controller.callAt Call.load? place with
      | none => rfl
      | some _ => exact absurd (valid.loading.mp ⟨place, by simp [busy]⟩) loading
    rw [inFlight_eq_nil idle]
    simp [Evaluator.State.status_eq_loading_iff, loading]

/-! ## Counting -/

/-- One for a load that was claimed and has not failed. -/
def claims (controller : Controller μ) : Nat :=
  if controller.session.evaluator.isClaimed then 1 else 0

/-- The completions of loads that failed. -/
def failures (completions : List (Completion μ)) : List (Completion μ) :=
  completions.filter (·.event.isLoadFailure)

/-- An action begins as many loads as it ends by failure, up to the change in the session. -/
theorem LoadStep.balance {before after : Controller μ} {completion : Option (Completion μ)}
    (valid : LoadInvariant before) (step : LoadStep before after completion) :
    (begunBetween Call.load? before after).length + before.claims =
      (failures completion.toList).length + after.claims := by
  cases step with
  | quiet loads state _ others =>
    have none : begunBetween Call.load? before after = [] :=
      begunBetween_eq_nil fun place => .inl (loads place)
    have fine : failures completion.toList = [] := by
      cases completion with
      | none => rfl
      | some completed =>
        have other := others completed rfl
        cases event : completed.event <;>
          simp_all [failures, Event.isModuleEvent, Event.isLoadFailure]
    simp [none, fine, claims, state]
  | @claimed place number free idle begun others state _ =>
    have one : begunBetween Call.load? before after = [(place, number)] := by
      apply begunBetween_eq_singleton idle begun
      intro other different
      rw [others other different]
      exact valid.idle free other
    have unclaimed : before.claims = 0 := by simp [claims, free]
    have claimed : after.claims = 1 := by simp [claims, state, Evaluator.State.isClaimed]
    simp [one, failures, unclaimed, claimed]
  | @completed place number result inFlight ended others state _ =>
    have none : begunBetween Call.load? before after = [] := by
      apply begunBetween_eq_nil
      intro other
      by_cases same : other = place
      · exact .inr (same ▸ ended)
      · exact .inl (others other same)
    have loading := valid.loading.mp ⟨place, by simp [inFlight]⟩
    have settled : after.session.evaluator = .ofLoad result := by
      rw [state, Session.apply_ofLoad loading]
    cases result <;>
      simp [none, claims, failures, loading, settled, Evaluator.State.ofLoad, Event.ofLoad,
        Event.isLoadFailure, Evaluator.State.isClaimed]

theorem LoadInvariant.balance {controller : Controller μ} (valid : LoadInvariant controller)
    (actions : List (Action μ)) :
    (controller.begunCalls Call.load? actions).length + controller.claims =
      (failures (controller.completions actions)).length + (controller.run actions).claims := by
  induction actions generalizing controller with
  | nil => simp [begunCalls, completions, failures]
  | cons action actions ih =>
    have first := (step_loadStep controller action).balance valid
    have rest := ih (valid.step action)
    simp only [begunCalls, completions, List.length_append, run_cons, failures,
      List.filter_append] at first rest ⊢
    omega

/-! ## A loaded evaluator -/

theorem LoadStep.ready {before after : Controller μ} {completion : Option (Completion μ)}
    {handle : μ} (valid : LoadInvariant before) (step : LoadStep before after completion)
    (loaded : before.session.evaluator = .ready handle) :
    after.session.evaluator = .ready handle ∧ begunBetween Call.load? before after = [] := by
  cases step with
  | quiet loads state _ _ =>
    exact ⟨state.trans loaded, begunBetween_eq_nil fun place => .inl (loads place)⟩
  | claimed free =>
    simp [loaded, Evaluator.State.isClaimed] at free
  | @completed place _ _ inFlight =>
    have loading := valid.loading.mp ⟨place, by simp [inFlight]⟩
    rw [loaded] at loading
    cases loading

theorem LoadInvariant.ready {controller : Controller μ} {handle : μ}
    (valid : LoadInvariant controller) (loaded : controller.session.evaluator = .ready handle)
    (actions : List (Action μ)) :
    (controller.run actions).session.evaluator = .ready handle ∧
      controller.begunCalls Call.load? actions = [] := by
  induction actions generalizing controller with
  | nil => exact ⟨loaded, rfl⟩
  | cons action actions ih =>
    obtain ⟨kept, none⟩ := (step_loadStep controller action).ready valid loaded
    obtain ⟨stays, never⟩ := ih (valid.step action) kept
    exact ⟨stays, by rw [begunCalls, none, never]; rfl⟩

/-! ## Nothing is turned away -/

/-- An event that reports on a load is the answer to a load in flight. -/
theorem load_of_event? {controller : Controller μ} {action : Action μ} {event : Event μ}
    (applied : controller.event? action = some event) (reports : event.isModuleEvent = true) :
    ∃ place number result, action = .answer place (.loaded result) ∧ event = .ofLoad result ∧
      controller.phase? place = some (.loading number) := by
  cases action with
  | answer place answer =>
    obtain ⟨phase, found, meant⟩ := Option.bind_eq_some_iff.mp applied
    cases Phase.tells_of_eventOn place meant with
    | @loaded number handle => exact ⟨place, number, .ok handle, rfl, rfl, found⟩
    | @loadFailed number error => exact ⟨place, number, .error error, rfl, rfl, found⟩
    | @manifest result => cases listed : Catalog.ofManifest result <;> simp [listed,
        manifestEvent, Event.isModuleEvent] at reports
    | _ => cases reports
  | proceed place =>
    obtain ⟨phase, found, due⟩ := Option.bind_eq_some_iff.mp applied
    cases Phase.tells_of_eventDue place due <;> cases reports
  | edit program => cases applied; cases reports
  | clear => cases applied; cases reports
  | begin operation => cases applied
  | grant => cases applied

theorem LoadInvariant.waits {controller : Controller μ} (valid : LoadInvariant controller)
    {place number : Nat} (found : controller.phase? place = some (.loading number)) :
    controller.session.evaluator = .loading := by
  have busy : controller.callAt Call.load? place = some number := callAt_of_phase? found _
  exact valid.loading.mp ⟨place, by simp [busy]⟩

theorem LoadInvariant.not_isStray {controller : Controller μ} (valid : LoadInvariant controller)
    (none : ∀ entry ∈ controller.log, entry.isStray = false) (actions : List (Action μ)) :
    ∀ entry ∈ (controller.run actions).log, entry.isStray = false := by
  induction actions generalizing controller with
  | nil => exact none
  | cons action actions ih =>
    refine ih (valid.step action) ?_
    have stepped := step_loadStep controller action
    generalize controller.completion? action = completion at stepped
    intro entry member
    cases stepped with
    | quiet _ _ logged _ =>
      obtain ⟨entries, extended, fine⟩ := logged
      rw [extended] at member
      exact (List.mem_append.mp member).elim (none entry) (fine entry)
    | claimed _ _ _ _ _ same =>
      rw [same] at member
      exact none entry member
    | @completed place _ result inFlight _ _ _ logged =>
      have loading := valid.loading.mp ⟨place, by simp [inFlight]⟩
      rw [logged] at member
      exact (List.mem_append.mp member).elim (none entry)
        (controller.session.not_isStray_apply_ofLoad loading result entry)

/-! ## The life of a load -/

/-- What holds of loads in a state of a controller, whatever happens next. -/
structure LoadsKept (controller : Controller μ) : Prop where
  /-- At most one load is in flight. -/
  single : (controller.inFlight Call.load?).length ≤ 1
  /-- One is in flight exactly while the session says so. -/
  loading : (controller.inFlight Call.load?).length = 1 ↔
    controller.session.evaluator.status = .loading
  /-- An answer to a load reaches the session. -/
  reported : ∀ {place number}, controller.phase? place = some (.loading number) →
    ∀ result, controller.event? (.answer place (.loaded result)) = some (.ofLoad result)
  /-- Whatever reaches the session about a load is taken as a change of its load state. -/
  accepted : ∀ {action event}, controller.event? action = some event →
    event.isModuleEvent = true → ∃ result, event = .ofLoad result ∧
      controller.session.evaluator.advance (.ofLoad result) = .ok (some (.ofLoad result)) ∧
      (controller.step action).session =
        { controller.session with evaluator := .ofLoad result }
  /-- Nothing about a load was ever ignored. -/
  heeded : ∀ entry ∈ controller.log,
    entry.message ≠ "Ignoring loaded module" ∧ entry.message ≠ "Ignoring module failure"
  /-- A loaded evaluator stays, and no load begins after it. -/
  final : ∀ {handle}, controller.session.evaluator = .ready handle → ∀ later,
    (controller.run later).session.evaluator = .ready handle ∧
      controller.begunCalls Call.load? later = []

/-- How the evaluator is loaded in the course of actions. -/
structure LoadedOnce (start : Controller μ) (actions : List (Action μ)) : Prop where
  kept : LoadsKept (start.run actions)
  /-- Every load that was begun has failed, but the one that is in flight or has succeeded. -/
  counted : (start.begunCalls Call.load? actions).length =
    (failures (start.completions actions)).length +
      if (start.run actions).session.evaluator.status = .loading ∨
        (start.run actions).session.evaluator.status = .ready then 1 else 0

theorem LoadInvariant.loadsKept {controller : Controller μ} (valid : LoadInvariant controller)
    (fine : ∀ entry ∈ controller.log, entry.isStray = false) : LoadsKept controller := by
  constructor
  case single => rw [valid.inFlight_length]; split <;> omega
  case loading => rw [valid.inFlight_length]; split <;> simp [*]
  case reported =>
    intro place number found result
    cases result <;> simp [event?, found, Phase.eventOn, Event.ofLoad]
  case accepted =>
    intro action event applied reports
    obtain ⟨place, number, result, rfl, rfl, found⟩ := load_of_event? applied reports
    have loading := valid.waits found
    refine ⟨result, rfl, ?_, ?_⟩
    · rw [loading]
      exact Evaluator.State.advance_ofLoad result
    · rw [session_step applied]
      exact Session.apply_ofLoad loading result
  case heeded =>
    intro entry member
    have unlike := mt (Log.Entry.isStray_iff_message entry).mpr (by simp [fine entry member])
    exact ⟨fun same => unlike (.inl same), fun same => unlike (.inr same)⟩
  case final => exact fun loaded later => valid.ready loaded later

/-- A controller starts with a session that nobody has claimed a load of, as every new session is.
In every interleaving of loads with anything else, loads never overlap, each is answered for by
the session, and the first that succeeds is the last. -/
theorem evaluator_loaded_once {session : Session μ}
    (free : session.evaluator.isClaimed = false) (actions : List (Action μ)) :
    LoadedOnce { session } actions := by
  have fresh := LoadInvariant.fresh free
  have valid : LoadInvariant (({ session } : Controller μ).run actions) :=
    run_preserves (fun _ action valid => valid.step action) fresh actions
  have balance := fresh.balance actions
  have unclaimed : claims ({ session } : Controller μ) = 0 := by
    simp [claims, free]
  constructor
  case kept => exact valid.loadsKept (fresh.not_isStray (by simp) actions)
  case counted =>
    rw [unclaimed, Nat.add_zero] at balance
    simpa only [claims, Evaluator.State.isClaimed_iff_status] using balance

/-- Two activities ask for the evaluator at once, the load fails, and a third one tries again. -/
theorem evaluator_loaded_once_after_failure :
    let start : Controller String := { session := Session.new "id" "program" }
    let actions : List (Action String) :=
      [.begin .loadModule, .begin .loadModule, .proceed 0, .edit "edited", .proceed 1,
        .answer 0 (.loaded (.error .notReady)), .begin .loadModule, .proceed 2,
        .answer 2 (.loaded (.ok "evaluator"))]
    start.begunCalls Call.load? actions = [(0, 1), (2, 2)] ∧ LoadedOnce start actions :=
  ⟨by decide, evaluator_loaded_once rfl _⟩

end Controller

end Scratchpad
