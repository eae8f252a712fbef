import Scratchpad.Controller.Basic

/-!
# What one action can do

Every action of a controller leaves it alone, begins an operation, applies an event of the user,
or moves one activity from one phase to the next. `Moved` lists the moves, each with all that has
to hold for it and all that it does, so that an invariant is shown once for each move and never
by looking into the controller again. Nothing here depends on how the controller was reached.
-/

set_option autoImplicit false

namespace Scratchpad.Controller

open Catalog (Example)
open Session (Event Notice UnknownExample)

variable {μ : Type}

/-! ## Phases at places -/

theorem phase?_enter (controller : Controller μ) (place other : Nat) (next : Phase μ) :
    (controller.enter place next).phase? other =
      if other = place then (controller.phase? place).map (fun _ => next)
      else controller.phase? other := by
  simp only [phase?, enter, List.getElem?_modify]
  by_cases same : other = place
  · subst other
    cases controller.activities[place]? <;> simp
  · have different : ¬ place = other := fun equal => same equal.symm
    simp [same, different]

theorem phase?_enter_self (controller : Controller μ) {place : Nat} {phase : Phase μ}
    (found : controller.phase? place = some phase) (next : Phase μ) :
    (controller.enter place next).phase? place = some next := by
  simp [phase?_enter, found]

theorem phase?_enter_other (controller : Controller μ) {place other : Nat}
    (different : other ≠ place) (next : Phase μ) :
    (controller.enter place next).phase? other = controller.phase? other := by
  simp [phase?_enter, different]

theorem phase?_begin_of_lt (controller : Controller μ) (operation : Operation) {place : Nat}
    (old : place < controller.activities.length) :
    (controller.begin operation).phase? place = controller.phase? place := by
  simp only [phase?, begin, List.getElem?_append_left old]

/-- The phases in which activities begin. -/
inductive Phase.IsFirst : Phase μ → Prop where
  | manifest : IsFirst .manifest
  | claiming : IsFirst .claiming
  | chosenExample {entry} : IsFirst (.chosenExample entry)
  | selecting {file} : IsFirst (.selecting file)
  | queued : IsFirst .queued

theorem Operation.isFirst {operation : Operation} {phase : Phase μ}
    (first : phase ∈ operation.phases) : phase.IsFirst := by
  cases operation with
  | start =>
    rcases List.mem_cons.mp first with rfl | later
    · exact .manifest
    · exact List.mem_singleton.mp later ▸ .claiming
  | loadModule => exact List.mem_singleton.mp first ▸ .claiming
  | loadCatalog => exact List.mem_singleton.mp first ▸ .manifest
  | loadExample entry => exact List.mem_singleton.mp first ▸ .chosenExample
  | selectExample file => exact List.mem_singleton.mp first ▸ .selecting
  | run => exact List.mem_singleton.mp first ▸ .queued

theorem phase?_begin_of_le {controller : Controller μ} {operation : Operation} {place : Nat}
    {phase : Phase μ} (new : controller.activities.length ≤ place)
    (found : (controller.begin operation).phase? place = some phase) :
    phase ∈ operation.phases := by
  simp only [phase?, begin, List.getElem?_append_right new, List.getElem?_map,
    Option.map_map] at found
  obtain ⟨added, present, same⟩ := Option.map_eq_some_iff.mp found
  have equal : added = phase := same
  exact equal ▸ List.mem_of_getElem? present

theorem phase?_eq_none_of_le (controller : Controller μ) {place : Nat}
    (beyond : controller.activities.length ≤ place) : controller.phase? place = none := by
  simp [phase?, List.getElem?_eq_none beyond]

theorem lt_of_phase? {controller : Controller μ} {place : Nat} {phase : Phase μ}
    (found : controller.phase? place = some phase) : place < controller.activities.length := by
  cases Nat.lt_or_ge place controller.activities.length with
  | inl inside => exact inside
  | inr beyond =>
    rw [phase?_eq_none_of_le controller beyond] at found
    cases found

theorem turnTaken_iff (controller : Controller μ) :
    controller.turnTaken = true ↔
      ∃ place phase, controller.phase? place = some phase ∧ phase.hasTurn = true := by
  simp only [turnTaken, List.any_eq_true, List.mem_iff_getElem?, phase?, Option.map_eq_some_iff]
  constructor
  · rintro ⟨activity, ⟨place, present⟩, turn⟩
    exact ⟨place, activity.phase, ⟨activity, present, rfl⟩, turn⟩
  · rintro ⟨place, phase, ⟨activity, present, rfl⟩, turn⟩
    exact ⟨activity, ⟨place, present⟩, turn⟩

/-! ## Moves of an activity -/

/-- The event that an action applies to the session, if any. -/
def event? (controller : Controller μ) : Action μ → Option (Event μ)
  | .begin _ | .grant => none
  | .edit program => some (.programEdited program)
  | .clear => some .outputCleared
  | .answer place answer => (controller.phase? place).bind (·.eventOn answer)
  | .proceed place => (controller.phase? place).bind (·.eventDue)

/-- By which action an activity in a phase tells the session of an event. -/
inductive Phase.Tells (place : Nat) : Phase μ → Action μ → Event μ → Prop where
  | manifest {result} :
      Tells place .manifest (.answer place (.fetched result))
        (manifestEvent (Catalog.ofManifest result))
  | firstFetched {entry base program} :
      Tells place (.firstExample entry base) (.answer place (.fetched (.ok program)))
        (.defaultExampleLoaded entry.file program base)
  | firstFailed {entry base error} :
      Tells place (.firstExample entry base) (.answer place (.fetched (.error error)))
        (.exampleLoadFailed entry.file error.message)
  | chosenFetched {entry program} :
      Tells place (.chosenExample entry) (.answer place (.fetched (.ok program)))
        (.exampleLoaded entry.file program)
  | chosenFailed {entry error} :
      Tells place (.chosenExample entry) (.answer place (.fetched (.error error)))
        (.exampleLoadFailed entry.file error.message)
  | unlisted {unknown} :
      Tells place (.unlisted unknown) (.proceed place)
        (.exampleLoadFailed unknown.file unknown.message)
  | loaded {number handle} :
      Tells place (.loading number) (.answer place (.loaded (.ok handle))) (.moduleLoaded handle)
  | loadFailed {number error} :
      Tells place (.loading number) (.answer place (.loaded (.error error)))
        (.moduleLoadFailed error.message)
  | evaluated {handle program evaluation time} :
      Tells place (.evaluating handle program) (.answer place (.evaluated evaluation time))
        (.runCompleted evaluation time)
  | turnedDown : Tells place .turnedDown (.proceed place) .runRejected

/-- By which action an activity without an event gets from one phase to another. In between stands
the controller with what the move did to the session; only the phase has still to be entered. -/
inductive Moved (controller : Controller μ) (place : Nat) :
    Action μ → Phase μ → Controller μ → Phase μ → Prop where
  | listed {first} :
      Moved controller place (.proceed place) (.listed first) controller
        (.firstExample first controller.session.program)
  | found {file entry} : controller.session.entry file = .ok entry →
      Moved controller place (.proceed place) (.selecting file) controller (.chosenExample entry)
  | missing {file unknown} : controller.session.entry file = .error unknown →
      Moved controller place (.proceed place) (.selecting file) controller (.unlisted unknown)
  | claimed {session} : controller.session.beginLoad? = some session →
      Moved controller place (.proceed place) .claiming
        { controller with session, loads := controller.loads + 1 }
        (.loading (controller.loads + 1))
  | refused : controller.session.beginLoad? = none →
      Moved controller place (.proceed place) .claiming controller (.finished none)
  | granted : controller.turnTaken = false →
      Moved controller place .grant .queued controller .onTurn
  | invoked {handle} : controller.session.evaluator = .ready handle →
      Moved controller place (.proceed place) .onTurn controller
        (.evaluating handle controller.session.program)
  | turnedDown : (∀ handle, controller.session.evaluator ≠ .ready handle) →
      Moved controller place (.proceed place) .onTurn controller .turnedDown
  | yielded {notice} :
      Moved controller place (.proceed place) (.yielding notice) controller (.finished notice)

/-- What an action can make of a controller. -/
inductive Stepped (controller : Controller μ) : Action μ → Controller μ → Prop where
  | ignored {action} : controller.event? action = none → Stepped controller action controller
  | begun {operation} : Stepped controller (.begin operation) (controller.begin operation)
  | edited {program} :
      Stepped controller (.edit program) (controller.apply (.programEdited program))
  | cleared : Stepped controller .clear (controller.apply .outputCleared)
  | told {action place phase event} : controller.phase? place = some phase →
      phase.Tells place action event → controller.event? action = some event →
      Stepped controller action (controller.conclude place phase event)
  | moved {action place phase between next} : controller.phase? place = some phase →
      Moved controller place action phase between next → controller.event? action = none →
      Stepped controller action (between.enter place next)

theorem Phase.tells_of_eventOn {phase : Phase μ} {answer : Answer μ} {event : Event μ}
    (place : Nat) (meant : phase.eventOn answer = some event) :
    phase.Tells place (.answer place answer) event := by
  unfold Phase.eventOn at meant
  split at meant <;> cases meant
  · exact .manifest
  · exact .firstFetched
  · exact .firstFailed
  · exact .chosenFailed
  · exact .chosenFetched
  · exact .loaded
  · exact .loadFailed
  · exact .evaluated

theorem Phase.tells_of_eventDue {phase : Phase μ} {event : Event μ} (place : Nat)
    (due : phase.eventDue = some event) : phase.Tells place (.proceed place) event := by
  unfold Phase.eventDue at due
  split at due <;> cases due
  · exact .unlisted
  · exact .turnedDown

/-- After an event an activity is finished, but for a catalog with a first example and for a run,
which keeps the turn. -/
theorem Phase.afterEvent_cases (notice : Option Notice) (phase : Phase μ) (event : Event μ) :
    (∃ first, phase = .manifest ∧ phase.afterEvent notice event = .listed first) ∨
      (phase.hasTurn = true ∧ phase.afterEvent notice event = .yielding notice) ∨
      phase.afterEvent notice event = .finished notice := by
  unfold Phase.afterEvent
  split <;> simp [Phase.hasTurn]

theorem answer_stepped (controller : Controller μ) (place : Nat) (answer : Answer μ) :
    Stepped controller (.answer place answer) (controller.answer place answer) := by
  unfold Controller.answer
  cases found : controller.phase? place with
  | none => exact .ignored (by simp [event?, found])
  | some phase =>
    cases meant : phase.eventOn answer with
    | none =>
      simp only [meant]
      exact .ignored (by simp [event?, found, meant])
    | some event =>
      simp only [meant]
      exact .told found (Phase.tells_of_eventOn place meant) (by simp [event?, found, meant])

private theorem claim_stepped {controller : Controller μ} {place : Nat}
    (found : controller.phase? place = some .claiming) :
    Stepped controller (.proceed place) (controller.claim place) := by
  have silent : controller.event? (.proceed place) = none := by
    simp [event?, found, Phase.eventDue]
  unfold claim
  cases claimed : controller.session.beginLoad? with
  | none => exact .moved found (.refused claimed) silent
  | some session => exact .moved found (.claimed claimed) silent

private theorem lookUp_stepped {controller : Controller μ} {place : Nat} {file : String}
    (found : controller.phase? place = some (.selecting file)) :
    Stepped controller (.proceed place) (controller.lookUp place file) := by
  have silent : controller.event? (.proceed place) = none := by
    simp [event?, found, Phase.eventDue]
  unfold lookUp
  cases listed : controller.session.entry file with
  | ok entry => exact .moved found (.found listed) silent
  | error unknown => exact .moved found (.missing listed) silent

private theorem look_stepped {controller : Controller μ} {place : Nat}
    (found : controller.phase? place = some .onTurn) :
    Stepped controller (.proceed place) (controller.look place) := by
  have silent : controller.event? (.proceed place) = none := by
    simp [event?, found, Phase.eventDue]
  unfold look
  cases loaded : controller.session.evaluator with
  | ready handle => exact .moved found (.invoked loaded) silent
  | unloaded => exact .moved found (.turnedDown (by simp [loaded])) silent
  | loading => exact .moved found (.turnedDown (by simp [loaded])) silent
  | failed reason => exact .moved found (.turnedDown (by simp [loaded])) silent

private theorem goOn_stepped {controller : Controller μ} {place : Nat} {phase : Phase μ}
    (found : controller.phase? place = some phase) (quiet : phase.eventDue = none) :
    Stepped controller (.proceed place) (controller.goOn place phase) := by
  have silent : controller.event? (.proceed place) = none := by
    simp [event?, found, quiet]
  cases phase with
  | listed first => exact .moved found .listed silent
  | selecting file => exact lookUp_stepped found
  | claiming => exact claim_stepped found
  | onTurn => exact look_stepped found
  | yielding notice => exact .moved found .yielded silent
  | _ => exact .ignored silent

theorem proceed_stepped (controller : Controller μ) (place : Nat) :
    Stepped controller (.proceed place) (controller.proceed place) := by
  unfold proceed
  cases found : controller.phase? place with
  | none => exact .ignored (by simp [event?, found])
  | some phase =>
    cases due : phase.eventDue with
    | none =>
      simp only [due]
      exact goOn_stepped found due
    | some event =>
      simp only [due]
      exact .told found (Phase.tells_of_eventDue place due) (by simp [event?, found, due])

theorem grant_stepped (controller : Controller μ) :
    Stepped controller .grant controller.grant := by
  unfold grant
  cases taken : controller.turnTaken with
  | true => exact .ignored rfl
  | false =>
    simp only [Bool.false_eq_true, ↓reduceIte]
    cases first : controller.activities.findIdx? (·.phase.isQueued) with
    | none => exact .ignored rfl
    | some place =>
      obtain ⟨inside, waits, _⟩ := List.findIdx?_eq_some_iff_getElem.mp first
      have queued : controller.activities[place].phase = .queued := by
        cases phase : controller.activities[place].phase <;>
          simp [Phase.isQueued, phase] at waits
        rfl
      have found : controller.phase? place = some .queued := by
        simp [phase?, List.getElem?_eq_getElem inside, queued]
      exact .moved found (.granted taken) rfl

theorem step_stepped (controller : Controller μ) (action : Action μ) :
    Stepped controller action (controller.step action) := by
  cases action with
  | begin operation => exact .begun
  | edit program => exact .edited
  | clear => exact .cleared
  | answer place answer => exact answer_stepped controller place answer
  | proceed place => exact proceed_stepped controller place
  | grant => exact grant_stepped controller

/-! ## One place at a time -/

/-- What an action can make of the activity at one place. -/
inductive PhaseStep (controller : Controller μ) (action : Action μ) (place : Nat) :
    Option (Phase μ) → Option (Phase μ) → Prop where
  | same {phase} : PhaseStep controller action place phase phase
  | first {operation : Operation} {phase} : phase ∈ operation.phases →
      PhaseStep controller action place none (some phase)
  | told {phase event} : phase.Tells place action event →
      PhaseStep controller action place (some phase)
        (some (phase.afterEvent (controller.noticeOf event) event))
  | moved {phase between next} : Moved controller place action phase between next →
      PhaseStep controller action place (some phase) (some next)

theorem step_phase (controller : Controller μ) (action : Action μ) (place : Nat) :
    PhaseStep controller action place (controller.phase? place)
      ((controller.step action).phase? place) := by
  generalize reached : controller.step action = after
  have stepped := step_stepped controller action
  rw [reached] at stepped
  cases stepped with
  | ignored _ => exact .same
  | edited => exact .same
  | cleared => exact .same
  | @begun operation =>
    cases Nat.lt_or_ge place controller.activities.length with
    | inl old =>
      rw [phase?_begin_of_lt controller operation old]
      exact .same
    | inr new =>
      rw [phase?_eq_none_of_le controller new]
      cases added : (controller.begin operation).phase? place with
      | none => exact .same
      | some phase => exact .first (phase?_begin_of_le new added)
  | @told _ mover phase event found tells _ =>
    by_cases here : place = mover
    · subst here
      rw [conclude, phase?_enter_self (controller.apply event) found, found]
      exact .told tells
    · rw [conclude, phase?_enter_other (controller.apply event) here]
      exact .same
  | @moved _ mover phase between next found moved _ =>
    have unmoved : ∀ other, between.phase? other = controller.phase? other := by
      intro other
      cases moved <;> rfl
    by_cases here : place = mover
    · subst here
      rw [phase?_enter_self between ((unmoved place).trans found), found]
      exact .moved moved
    · rw [phase?_enter_other between here, unmoved]
      exact .same

/-- An action moves one activity at most; the others stay, or have just begun. -/
theorem step_others (controller : Controller μ) (action : Action μ) :
    ∃ mover, ∀ place, place ≠ mover →
      (controller.step action).phase? place = controller.phase? place ∨
        ∃ operation : Operation, ∃ phase ∈ operation.phases,
          (controller.step action).phase? place = some phase := by
  generalize reached : controller.step action = after
  have stepped := step_stepped controller action
  rw [reached] at stepped
  cases stepped with
  | ignored _ => exact ⟨0, fun _ _ => .inl rfl⟩
  | edited => exact ⟨0, fun _ _ => .inl rfl⟩
  | cleared => exact ⟨0, fun _ _ => .inl rfl⟩
  | @begun operation =>
    refine ⟨0, fun place _ => ?_⟩
    cases Nat.lt_or_ge place controller.activities.length with
    | inl old => exact .inl (phase?_begin_of_lt controller operation old)
    | inr new =>
      cases added : (controller.begin operation).phase? place with
      | none => exact .inl (phase?_eq_none_of_le controller new).symm
      | some phase => exact .inr ⟨operation, phase, phase?_begin_of_le new added, rfl⟩
  | @told _ mover phase event found _ _ =>
    exact ⟨mover, fun _ other => .inl (phase?_enter_other (controller.apply event) other _)⟩
  | @moved _ mover phase between next found moved _ =>
    refine ⟨mover, fun place other => .inl ?_⟩
    rw [phase?_enter_other between other]
    cases moved <;> rfl

theorem begun_of_step {controller : Controller μ} {action : Action μ} {place : Nat}
    {phase : Phase μ} (new : controller.phase? place = none)
    (reached : (controller.step action).phase? place = some phase) :
    ∃ operation : Operation, action = .begin operation ∧ phase ∈ operation.phases := by
  generalize ends : controller.step action = after at reached
  have stepped := step_stepped controller action
  rw [ends] at stepped
  cases stepped with
  | ignored _ => cases new.symm.trans reached
  | edited => cases new.symm.trans reached
  | cleared => cases new.symm.trans reached
  | @begun operation =>
    have beyond : controller.activities.length ≤ place := by
      simpa [phase?] using new
    exact ⟨operation, rfl, phase?_begin_of_le beyond reached⟩
  | @told _ mover _ event found _ _ =>
    have different : place ≠ mover := by
      rintro rfl
      cases new.symm.trans found
    rw [conclude, phase?_enter_other (controller.apply event) different] at reached
    cases new.symm.trans reached
  | @moved _ mover _ between next found moved _ =>
    have different : place ≠ mover := by
      rintro rfl
      cases new.symm.trans found
    have unmoved : between.phase? place = controller.phase? place := by
      cases moved <;> rfl
    rw [phase?_enter_other between different, unmoved] at reached
    cases new.symm.trans reached

/-- A kind of phase that an activity does not get into from any other kind. -/
structure Phase.Closed (kind : Phase μ → Prop) : Prop where
  told : ∀ {notice phase event}, kind (phase.afterEvent notice event) → kind phase
  moved : ∀ {controller place action phase between next},
    Moved controller place action phase between next → kind next → kind phase

/-- An activity is in a phase of a closed kind because it was before, or because it has just begun
there. -/
theorem Phase.Closed.before {kind : Phase μ → Prop} (closed : Phase.Closed kind)
    {controller : Controller μ} {action : Action μ} {place : Nat} {phase : Phase μ}
    (reached : (controller.step action).phase? place = some phase) (here : kind phase) :
    (∃ previous, controller.phase? place = some previous ∧ kind previous) ∨
      controller.phase? place = none ∧
        ∃ operation : Operation, action = .begin operation ∧ phase ∈ operation.phases := by
  have stepped := step_phase controller action place
  generalize found : controller.phase? place = before at stepped
  rw [reached] at stepped
  cases stepped with
  | same => exact .inl ⟨phase, rfl, here⟩
  | first _ => exact .inr ⟨rfl, begun_of_step found reached⟩
  | @told previous _ _ => exact .inl ⟨previous, rfl, closed.told here⟩
  | @moved previous _ _ moved => exact .inl ⟨previous, rfl, closed.moved moved here⟩

/-! ## The session -/

theorem session_step {controller : Controller μ} {action : Action μ} {event : Event μ}
    (applied : controller.event? action = some event) :
    (controller.step action).session = (controller.session.apply event).session := by
  generalize reached : controller.step action = after
  have stepped := step_stepped controller action
  rw [reached] at stepped
  cases stepped with
  | ignored silent => rw [silent] at applied; cases applied
  | begun => cases applied
  | edited => cases applied; rfl
  | cleared => cases applied; rfl
  | told _ _ told => rw [told] at applied; cases applied; rfl
  | moved _ _ silent => rw [silent] at applied; cases applied

/-- An action without an event leaves the session alone or claims the load. -/
theorem session_step_of_silent {controller : Controller μ} {action : Action μ}
    (silent : controller.event? action = none) :
    (controller.step action).session = controller.session ∨
      controller.session.beginLoad? = some (controller.step action).session := by
  generalize reached : controller.step action = after
  have stepped := step_stepped controller action
  rw [reached] at stepped
  cases stepped with
  | ignored _ => exact .inl rfl
  | begun => exact .inl rfl
  | edited => cases silent
  | cleared => cases silent
  | told _ _ told => rw [silent] at told; cases told
  | moved _ moved _ =>
    cases moved with
    | claimed claimed => exact .inr claimed
    | _ => exact .inl rfl

/-! ## Runs -/

@[simp] theorem run_nil (controller : Controller μ) : controller.run [] = controller := rfl

@[simp] theorem run_cons (controller : Controller μ) (action : Action μ)
    (actions : List (Action μ)) :
    controller.run (action :: actions) = (controller.step action).run actions := rfl

theorem run_append (controller : Controller μ) (earlier later : List (Action μ)) :
    controller.run (earlier ++ later) = (controller.run earlier).run later := by
  simp [run, List.foldl_append]

theorem run_preserves {holds : Controller μ → Prop}
    (kept : ∀ controller action, holds controller → holds (controller.step action))
    {controller : Controller μ} (initial : holds controller) (actions : List (Action μ)) :
    holds (controller.run actions) := by
  induction actions generalizing controller with
  | nil => exact initial
  | cons action actions ih => exact ih (kept controller action initial)

/-- Whatever comes to hold in the course of actions begins to hold with one of them. -/
theorem run_reaches (holds : Controller μ → Prop) {controller : Controller μ}
    (before : ¬ holds controller) {actions : List (Action μ)}
    (after : holds (controller.run actions)) :
    ∃ earlier action later, actions = earlier ++ action :: later ∧
      ¬ holds (controller.run earlier) ∧ holds ((controller.run earlier).step action) := by
  induction actions generalizing controller with
  | nil => exact absurd after before
  | cons action actions ih =>
    by_cases now : holds (controller.step action)
    · exact ⟨[], action, actions, rfl, before, now⟩
    · obtain ⟨earlier, turning, later, rfl, unlike, like⟩ := ih now after
      exact ⟨action :: earlier, turning, later, rfl, unlike, like⟩

end Scratchpad.Controller
