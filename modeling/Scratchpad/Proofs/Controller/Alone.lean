import Scratchpad.Controller.Settle
import Scratchpad.Proofs.Controller.Start

/-!
# An operation on its own

What becomes of an operation if only its own activity takes steps, whatever else is under way in the
controller and stands still meanwhile. `Course` lists the phases that such an activity goes through,
each with what the session is by then. It comes to its end if no other run is in its way, and a
controller that settles while nothing else is under way takes it there.
-/

set_option autoImplicit false

namespace Scratchpad.Controller

open Session (Event Notice)

variable {μ : Type}

/-! ## Steps of one activity -/

/-- The actions by which the activity at a place gets on, if its calls are answered from outside. -/
inductive Own (surroundings : Surroundings μ) (controller : Controller μ) (place : Nat) :
    Action μ → Prop where
  | answer {call} : (controller.phase? place).bind (·.call?) = some call →
      Own surroundings controller place (.answer place (surroundings.answer call))
  | proceed : Own surroundings controller place (.proceed place)
  | grant : Own surroundings controller place .grant

/-- One controller becomes the other by steps of the activity at a place. -/
inductive Alone (surroundings : Surroundings μ) (place : Nat) :
    Controller μ → Controller μ → Prop where
  | nil {controller} : Alone surroundings place controller controller
  | cons {controller action after} : Own surroundings controller place action →
      Alone surroundings place (controller.step action) after →
      Alone surroundings place controller after

/-- What such a step can make of a controller. A turn that is given may be that of another run. -/
inductive OwnStep (controller : Controller μ) (place : Nat) : Controller μ → Prop where
  | ignored : OwnStep controller place controller
  | passed {other} : other ≠ place → controller.phase? other = some .queued →
      OwnStep controller place (controller.enter other .onTurn)
  | told {action phase event} : controller.phase? place = some phase →
      phase.Tells place action event →
      OwnStep controller place (controller.conclude place phase event)
  | moved {action phase between next} : controller.phase? place = some phase →
      Moved controller place action phase between next →
      OwnStep controller place (between.enter place next)

theorem Phase.Tells.acts {place : Nat} {phase : Phase μ} {action : Action μ} {event : Event μ}
    (tells : phase.Tells place action event) :
    action = .proceed place ∨ ∃ answer, action = .answer place answer := by
  cases tells <;> simp

theorem Moved.phase?_eq {controller between : Controller μ} {place other : Nat} {action : Action μ}
    {phase next : Phase μ} (moved : Moved controller place action phase between next) :
    between.phase? other = controller.phase? other := by
  cases moved <;> rfl

section Steps

variable {surroundings : Surroundings μ} {controller : Controller μ} {place : Nat}
  {action : Action μ}

theorem Own.step (own : Own surroundings controller place action) :
    OwnStep controller place (controller.step action) := by
  generalize reached : controller.step action = after
  have stepped := step_stepped controller action
  rw [reached] at stepped
  cases stepped with
  | ignored _ => exact .ignored
  | begun | edited | cleared => cases own
  | @told _ mover phase event found tells _ =>
    rcases tells.acts with rfl | ⟨answer, rfl⟩ <;> cases own <;> exact .told found tells
  | @moved _ mover phase between next found moved _ =>
    by_cases here : mover = place
    · subst here
      exact .moved found moved
    · -- Of the actions of its own, only a grant can move another activity.
      generalize acts : action = taken at own
      cases moved with
      | granted _ => exact .passed here found
      | _ =>
        cases own
        all_goals cases acts
        all_goals exact absurd rfl here

end Steps

/-! ## The course of an operation -/

/-- The phases of an operation on its own, with the session that it has come to. It began with the
session `before`. -/
inductive Course (before : Session μ) : Operation → Phase μ → Session μ → Prop where
  | selecting {file} : Course before (.selectExample file) (.selecting file) before
  | unlisted {file unknown} : Course before (.selectExample file) (.unlisted unknown) before
  | fetching {file entry} : Course before (.selectExample file) (.chosenExample entry) before
  | unavailable {file} :
      Course before (.selectExample file) (.finished (some .exampleUnavailable)) before
  | placed {file chosen program} : Course before (.selectExample file) (.finished none)
      { before with program, selected := some chosen }
  | queued : Course before .run .queued before
  | onTurn : Course before .run .onTurn before
  | turnedDown : Course before .run .turnedDown before
  | evaluating {handle program} : Course before .run (.evaluating handle program) before
  | rejecting : Course before .run (.yielding (some .moduleNotReady)) before
  | rejected : Course before .run (.finished (some .moduleNotReady)) before
  | recording {evaluation time} : Course before .run
      (.yielding (before.record evaluation time).notice) (before.record evaluation time).session
  | recorded {evaluation time} : Course before .run
      (.finished (before.record evaluation time).notice) (before.record evaluation time).session
  | claiming : Course before .loadModule .claiming before
  | refused : before.evaluator.isClaimed = true → Course before .loadModule (.finished none) before
  | loading {number} :
      Course before .loadModule (.loading number) { before with evaluator := .loading }
  | loaded {result} :
      Course before .loadModule (.finished none) { before with evaluator := .ofLoad result }

namespace Course

variable {before session : Session μ} {operation : Operation} {phase : Phase μ}

theorem told (course : Course before operation phase session) {place : Nat} {action : Action μ}
    {event : Event μ} (tells : phase.Tells place action event) :
    Course before operation (phase.afterEvent (session.apply event).notice event)
      (session.apply event).session := by
  cases course with
  | unlisted => cases tells; exact .unavailable
  | fetching =>
    cases tells with
    | chosenFetched => exact .placed
    | chosenFailed => exact .unavailable
  | turnedDown => cases tells; exact .rejecting
  | evaluating => cases tells; exact .recording
  | loading =>
    cases tells with
    | @loaded _ handle => exact @loaded μ before (.ok handle)
    | @loadFailed _ error => exact @loaded μ before (.error error)
  | _ => cases tells

theorem moved {controller between : Controller μ} {place : Nat} {action : Action μ}
    {next : Phase μ} (course : Course before operation phase controller.session)
    (moved : Moved controller place action phase between next) :
    Course before operation next between.session := by
  generalize same : controller.session = session at course
  cases course with
  | selecting =>
    cases moved with
    | found _ => exact same ▸ .fetching
    | missing _ => exact same ▸ .unlisted
  | queued => cases moved; exact same ▸ .onTurn
  | onTurn =>
    cases moved with
    | invoked _ => exact same ▸ .evaluating
    | turnedDown _ => exact same ▸ .turnedDown
  | rejecting => cases moved; exact same ▸ .rejected
  | recording => cases moved; exact same ▸ .recorded
  | claiming =>
    subst same
    cases moved with
    | claimed claimed =>
      obtain ⟨_, rfl⟩ := Session.of_beginLoad? claimed
      exact .loading
    | refused refused =>
      refine .refused ?_
      simpa [Session.beginLoad?_eq] using refused
  | _ => cases moved

theorem step {controller after : Controller μ} {place : Nat}
    (course : Course before operation phase controller.session)
    (found : controller.phase? place = some phase) (stepped : OwnStep controller place after) :
    ∃ next, after.phase? place = some next ∧ Course before operation next after.session := by
  cases stepped with
  | ignored => exact ⟨phase, found, course⟩
  | passed other _ => exact ⟨phase, by rwa [phase?_enter_other _ other.symm], course⟩
  | @told _ _ event there tells =>
    cases found.symm.trans there
    exact ⟨_, phase?_enter_self (controller.apply event) found _, course.told tells⟩
  | @moved _ _ between next there moved =>
    cases found.symm.trans there
    have further := course.moved moved
    exact ⟨next, phase?_enter_self between (moved.phase?_eq.trans found) next, further⟩

theorem run {surroundings : Surroundings μ} {controller after : Controller μ} {place : Nat}
    (alone : Alone surroundings place controller after)
    (course : Course before operation phase controller.session)
    (found : controller.phase? place = some phase) :
    ∃ next, after.phase? place = some next ∧ Course before operation next after.session := by
  induction alone generalizing phase with
  | nil => exact ⟨phase, found, course⟩
  | cons own _ ih =>
    obtain ⟨next, there, further⟩ := course.step found own.step
    exact ih further there

end Course

/-- The operations that the activities belong to. -/
def owners (controller : Controller μ) : List Nat :=
  controller.activities.map (·.operation)

theorem owners_enter (controller : Controller μ) (place : Nat) (phase : Phase μ) :
    (controller.enter place phase).owners = controller.owners := by
  apply List.ext_getElem?
  intro other
  simp only [owners, enter, List.getElem?_map, List.getElem?_modify]
  cases controller.activities[other]? with
  | none => rfl
  | some activity => by_cases here : place = other <;> simp [here]

/-- Every activity belongs to an operation that was begun. -/
def Numbered (controller : Controller μ) : Prop :=
  ∀ operation ∈ controller.owners, operation < controller.operations

theorem OwnStep.owners_eq {controller after : Controller μ} {place : Nat}
    (stepped : OwnStep controller place after) : after.owners = controller.owners := by
  cases stepped with
  | ignored => rfl
  | passed => exact owners_enter ..
  | told => exact owners_enter ..
  | moved _ moved =>
    rw [owners_enter]
    cases moved <;> rfl

theorem Alone.owners_eq {surroundings : Surroundings μ} {controller after : Controller μ}
    {place : Nat} (alone : Alone surroundings place controller after) :
    after.owners = controller.owners := by
  induction alone with
  | nil => rfl
  | cons own _ ih => rw [ih, own.step.owners_eq]

theorem Numbered.step {controller : Controller μ} (numbered : controller.Numbered)
    (action : Action μ) : (controller.step action).Numbered := by
  generalize reached : controller.step action = after
  have stepped := step_stepped controller action
  rw [reached] at stepped
  cases stepped with
  | ignored _ | edited | cleared => exact numbered
  | @begun operation =>
    intro owner found
    simp only [owners, begin, List.map_append, List.map_map, List.mem_append] at found
    rcases found with old | new
    · exact Nat.lt_succ_of_lt (numbered owner old)
    · obtain ⟨_, _, rfl⟩ := List.mem_map.mp new
      exact Nat.lt_succ_self _
  | told =>
    intro owner found
    rw [conclude, owners_enter] at found
    exact numbered owner found
  | moved _ moved _ =>
    intro owner found
    rw [owners_enter] at found
    cases moved <;> exact numbered owner found

theorem numbered_run (session : Session μ) (actions : List (Action μ)) :
    (({ session } : Controller μ).run actions).Numbered :=
  run_preserves (fun _ action numbered => numbered.step action) (by simp [Numbered, owners]) actions

section Begin

variable {controller : Controller μ} {operation : Operation} {phase : Phase μ}
  (single : operation.phases = [phase])
include single

theorem phase?_begin_length :
    (controller.begin operation).phase? controller.activities.length = some phase := by
  simp [phase?, begin, single]

theorem phase?_begin_aside {other : Nat} (aside : other ≠ controller.activities.length) :
    (controller.begin operation).phase? other = controller.phase? other := by
  cases Nat.lt_or_gt_of_ne aside with
  | inl old => exact phase?_begin_of_lt controller operation old
  | inr beyond =>
    rw [phase?_eq_none_of_le, phase?_eq_none_of_le]
    · exact Nat.le_of_lt beyond
    · simpa [begin, single] using Nat.succ_le_of_lt beyond

theorem owners_begin :
    (controller.begin operation).owners = controller.owners ++ [controller.operations] := by
  simp [owners, begin, single]

end Begin

/-- The notice of an operation with one activity, once that is finished. -/
theorem result?_of_owners {controller : Controller μ} {others : List Nat} {operation : Nat}
    {phase : Phase μ} (owned : controller.owners = others ++ [operation])
    (fresh : operation ∉ others) (found : controller.phase? others.length = some phase) :
    controller.result? operation = if phase.isFinished then some phase.notice? else none := by
  obtain ⟨earlier, last, split, rfl, single⟩ := List.map_eq_append_iff.mp owned
  obtain ⟨own, rfl, rfl⟩ := List.map_eq_singleton_iff.mp single
  have here : own.phase = phase := by
    simpa [phase?, split] using found
  have others : earlier.filter (·.operation == own.operation) = [] := by
    rw [List.filter_eq_nil_iff]
    intro activity inside same
    exact fresh (List.mem_map.mpr ⟨activity, inside, eq_of_beq same⟩)
  simp [result?, activitiesOf, split, others, here]

theorem Alone.result?_begin {surroundings : Surroundings μ} {controller after : Controller μ}
    {operation : Operation} {first phase : Phase μ} (single : operation.phases = [first])
    (numbered : controller.Numbered)
    (alone : Alone surroundings controller.activities.length (controller.begin operation) after)
    (found : after.phase? controller.activities.length = some phase) :
    after.result? controller.operations =
      if phase.isFinished then some phase.notice? else none := by
  have owners := alone.owners_eq.trans (owners_begin single)
  refine result?_of_owners owners (fun old => Nat.lt_irrefl _ (numbered _ old)) ?_
  rwa [Controller.owners, List.length_map]

/-! ## Coming to the end -/

/-- The phases of all activities but the one at a place are of a kind. -/
def Elsewhere (controller : Controller μ) (place : Nat) (kind : Phase μ → Prop) : Prop :=
  ∀ other phase, other ≠ place → controller.phase? other = some phase → kind phase

/-- No activity but the one at a place is a run that has its turn or waits for it. -/
def Unhindered (controller : Controller μ) (place : Nat) : Prop :=
  controller.Elsewhere place fun phase => phase.isQueued = false ∧ phase.hasTurn = false

theorem Elsewhere.begin {controller : Controller μ} {kind : Phase μ → Prop}
    {operation : Operation} {first : Phase μ}
    (elsewhere : controller.Elsewhere controller.activities.length kind)
    (single : operation.phases = [first]) :
    (controller.begin operation).Elsewhere controller.activities.length kind := by
  intro other phase aside found
  rw [phase?_begin_aside single aside] at found
  exact elsewhere other phase aside found

theorem OwnStep.phase?_eq {controller after : Controller μ} {place other : Nat}
    (stepped : OwnStep controller place after) (unhindered : controller.Unhindered place)
    (aside : other ≠ place) : after.phase? other = controller.phase? other := by
  cases stepped with
  | ignored => rfl
  | passed elsewhere queued => cases (unhindered _ _ elsewhere queued).1
  | told => exact phase?_enter_other _ aside _
  | moved _ moved => rw [phase?_enter_other _ aside, moved.phase?_eq]

theorem Unhindered.grants {controller : Controller μ} {place : Nat}
    (unhindered : controller.Unhindered place) (found : controller.phase? place = some .queued) :
    controller.turnTaken = false ∧ controller.grant = controller.enter place .onTurn := by
  have free : controller.turnTaken = false := by
    rw [← Bool.not_eq_true, turnTaken_iff]
    rintro ⟨other, phase, there, turn⟩
    by_cases same : other = place
    · subst same
      cases found.symm.trans there
      cases turn
    · exact absurd turn (by simp [(unhindered other phase same there).2])
  have first : controller.activities.findIdx? (·.phase.isQueued) = some place := by
    obtain ⟨own, present, queued⟩ := Option.map_eq_some_iff.mp found
    obtain ⟨inside, rfl⟩ := List.getElem?_eq_some_iff.mp present
    refine List.findIdx?_eq_some_iff_getElem.mpr ⟨inside, by simp [queued, Phase.isQueued], ?_⟩
    intro other earlier waits
    have there : controller.phase? other = some controller.activities[other].phase := by
      simp [phase?, List.getElem?_eq_getElem (Nat.lt_trans earlier inside)]
    exact absurd waits (by simp [(unhindered other _ (Nat.ne_of_lt earlier) there).1])
  exact ⟨free, by simp [grant, free, first]⟩

/-! ### Steps nearer to the end -/

theorem Phase.Tells.distance_lt {place : Nat} {phase : Phase μ} {action : Action μ}
    {event : Event μ} (tells : phase.Tells place action event) (notice : Option Notice) :
    (phase.afterEvent notice event).distance < phase.distance := by
  cases tells with
  | @manifest result =>
    cases Catalog.ofManifest result with
    | error => exact Nat.zero_lt_succ _
    | ok examples => cases examples <;> exact Nat.lt_of_sub_eq_succ rfl
  | evaluated | turnedDown => exact Nat.lt_succ_self _
  | _ => exact Nat.zero_lt_succ _

theorem Moved.distance_lt {controller between : Controller μ} {place : Nat} {action : Action μ}
    {phase next : Phase μ} (moved : Moved controller place action phase between next) :
    next.distance < phase.distance := by
  cases moved <;> exact Nat.lt_of_sub_eq_succ rfl

theorem Phase.isQueued_iff {phase : Phase μ} : phase.isQueued = true ↔ phase = .queued := by
  cases phase <;> simp [Phase.isQueued]

theorem Phase.move?_of_quiet {phase : Phase μ} {taken : Bool} {place : Nat}
    (quiet : phase.call? = none) (waits : phase.isQueued = false)
    (unfinished : phase.isFinished = false) : phase.move? taken place = some (.proceed place) := by
  cases phase with
  | queued => cases waits
  | finished => cases unfinished
  | manifest | firstExample | chosenExample | loading | evaluating => cases quiet
  | _ => rfl

/-- The activity at a place is nearer to its end than a phase. -/
def Nearer (controller : Controller μ) (place : Nat) (phase : Phase μ) : Prop :=
  ∃ next, controller.phase? place = some next ∧ next.distance < phase.distance

section Nearer

variable {controller : Controller μ} {place : Nat} {phase : Phase μ}
  (found : controller.phase? place = some phase)
include found

theorem nearer_conclude {action : Action μ} {event : Event μ}
    (tells : phase.Tells place action event) :
    (controller.conclude place phase event).Nearer place phase :=
  ⟨_, phase?_enter_self (controller.apply event) found _, tells.distance_lt _⟩

theorem nearer_enter {action : Action μ} {between : Controller μ} {next : Phase μ}
    (moved : Moved controller place action phase between next) :
    (between.enter place next).Nearer place phase :=
  ⟨next, phase?_enter_self between (moved.phase?_eq.trans found) next, moved.distance_lt⟩

theorem nearer_answer {call : Call μ} (asks : phase.call? = some call)
    (surroundings : Surroundings μ) :
    (controller.answer place (surroundings.answer call)).Nearer place phase := by
  have meant : ∃ event, phase.eventOn (surroundings.answer call) = some event := by
    cases phase <;> cases asks <;> simp only [Surroundings.answer]
    · exact ⟨_, rfl⟩
    · cases surroundings.fetch _ <;> exact ⟨_, rfl⟩
    · cases surroundings.fetch _ <;> exact ⟨_, rfl⟩
    · cases surroundings.load _ <;> exact ⟨_, rfl⟩
    · exact ⟨_, rfl⟩
  obtain ⟨event, meant⟩ := meant
  simp only [Controller.answer, found, meant]
  exact nearer_conclude found (Phase.tells_of_eventOn place meant)

theorem nearer_proceed (quiet : phase.call? = none) (waits : phase.isQueued = false)
    (unfinished : phase.isFinished = false) :
    (controller.proceed place).Nearer place phase := by
  simp only [proceed, found]
  cases phase with
  | listed first => exact nearer_enter found .listed
  | selecting file =>
    simp only [Phase.eventDue, goOn, lookUp]
    cases listed : controller.session.entry file with
    | ok entry => exact nearer_enter found (.found listed)
    | error unknown => exact nearer_enter found (.missing listed)
  | unlisted unknown => exact nearer_conclude found .unlisted
  | claiming =>
    simp only [Phase.eventDue, goOn, claim]
    cases claimed : controller.session.beginLoad? with
    | some session => exact nearer_enter found (.claimed claimed)
    | none => exact nearer_enter found (.refused claimed)
  | onTurn =>
    simp only [Phase.eventDue, goOn, look]
    cases loaded : controller.session.evaluator with
    | ready handle => exact nearer_enter found (.invoked loaded)
    | _ => exact nearer_enter found (.turnedDown (by simp [loaded]))
  | turnedDown => exact nearer_conclude found .turnedDown
  | yielding notice => exact nearer_enter found .yielded
  | queued => cases waits
  | finished notice => cases unfinished
  | _ => cases quiet

/-- An activity that is not finished can take a step by which it comes nearer to its end. -/
theorem Unhindered.nearer (unhindered : controller.Unhindered place)
    (unfinished : phase.isFinished = false) (surroundings : Surroundings μ) :
    ∃ move, phase.move? controller.turnTaken place = some move ∧
      Own surroundings controller place (move.action surroundings controller) ∧
      (controller.step (move.action surroundings controller)).Nearer place phase := by
  cases asks : phase.call? with
  | some call =>
    have here : (controller.phase? place).bind (·.call?) = some call := by simp [found, asks]
    have acts : (Move.reply place).action surroundings controller =
        .answer place (surroundings.answer call) := by
      simp [Move.action, Move.call?, here]
    refine ⟨.reply place, by simp [Phase.move?, asks], ?_⟩
    rw [acts]
    exact ⟨.answer here, nearer_answer found asks surroundings⟩
  | none =>
    cases waits : phase.isQueued with
    | true =>
      cases Phase.isQueued_iff.mp waits
      obtain ⟨free, granted⟩ := unhindered.grants found
      refine ⟨.grant, by simp [Phase.move?, asks, free], .grant, ?_⟩
      change controller.grant.Nearer place .queued
      rw [granted]
      exact nearer_enter found (.granted free)
    | false =>
      exact ⟨.proceed place, Phase.move?_of_quiet asks waits unfinished, .proceed,
        nearer_proceed found asks waits unfinished⟩

end Nearer

/-- The steps of an activity that is not hindered are no steps of another. -/
theorem Unhindered.elsewhere {surroundings : Surroundings μ} {controller : Controller μ}
    {place : Nat} {action : Action μ} {kind : Phase μ → Prop}
    (unhindered : controller.Unhindered place) (elsewhere : controller.Elsewhere place kind)
    (own : Own surroundings controller place action) :
    (controller.step action).Elsewhere place kind := by
  intro other phase aside found
  rw [own.step.phase?_eq unhindered aside] at found
  exact elsewhere other phase aside found

theorem Phase.eq_finished {phase : Phase μ} (finished : phase.isFinished = true) :
    ∃ notice, phase = .finished notice := by
  cases phase with
  | finished notice => exact ⟨notice, rfl⟩
  | _ => cases finished

/-- The activity at a place is finished in the end. -/
theorem Unhindered.exists_finished {controller : Controller μ} {place : Nat} {phase : Phase μ}
    (unhindered : controller.Unhindered place) (found : controller.phase? place = some phase)
    (surroundings : Surroundings μ) :
    ∃ after notice, Alone surroundings place controller after ∧
      after.phase? place = some (.finished notice) := by
  induction far : phase.distance using Nat.strongRecOn generalizing controller phase with
  | ind distance ih =>
    cases done : phase.isFinished with
    | true =>
      obtain ⟨notice, rfl⟩ := Phase.eq_finished done
      exact ⟨controller, notice, .nil, found⟩
    | false =>
      obtain ⟨move, _, own, next, there, closer⟩ := unhindered.nearer found done surroundings
      obtain ⟨after, notice, alone, ends⟩ :=
        ih _ (far ▸ closer) (unhindered.elsewhere unhindered own) there rfl
      exact ⟨after, notice, .cons own alone, ends⟩

/-! ## Settling -/

/-- Every activity but the one at a place is finished. -/
def Quiet (controller : Controller μ) (place : Nat) : Prop :=
  controller.Elsewhere place fun phase => phase.isFinished = true

theorem Quiet.unhindered {controller : Controller μ} {place : Nat}
    (quiet : controller.Quiet place) : controller.Unhindered place := by
  intro other phase aside found
  obtain ⟨notice, rfl⟩ := Phase.eq_finished (quiet other phase aside found)
  exact ⟨rfl, rfl⟩

theorem distance_le {controller : Controller μ} {place : Nat} {phase : Phase μ}
    (found : controller.phase? place = some phase) : phase.distance ≤ controller.distance := by
  obtain ⟨activity, present, rfl⟩ := Option.map_eq_some_iff.mp found
  have inside := List.mem_of_getElem? present
  unfold distance
  generalize controller.activities = activities at inside
  induction inside with
  | head => exact Nat.le_add_right ..
  | tail _ _ ih => exact Nat.le_trans ih (Nat.le_add_left ..)

theorem move?_of_free (controller : Controller μ) :
    controller.move? (fun _ => true) =
      controller.activities.zipIdx.findSome? fun (activity, place) =>
        activity.phase.move? controller.turnTaken place := by
  unfold move?
  congr
  funext (activity, place)
  dsimp only
  cases activity.phase.move? controller.turnTaken place with
  | none => rfl
  | some move => cases move <;> rfl

/-- If nobody else has anything to do, the next move is that of the activity at the place. -/
theorem Quiet.move?_eq {controller : Controller μ} {place : Nat} (quiet : controller.Quiet place) :
    controller.move? (fun _ => true) =
      (controller.phase? place).bind (·.move? controller.turnTaken place) := by
  rw [move?_of_free]
  cases first : controller.activities.zipIdx.findSome? fun (activity, place) =>
      activity.phase.move? controller.turnTaken place with
  | none =>
    have nobody := List.findSome?_eq_none_iff.mp first
    cases found : controller.phase? place with
    | none => rfl
    | some phase =>
      obtain ⟨own, present, rfl⟩ := Option.map_eq_some_iff.mp found
      exact (nobody (own, place) (List.mk_mem_zipIdx_iff_getElem?.mpr present)).symm
  | some move =>
    obtain ⟨⟨activity, other⟩, inside, moves⟩ := List.exists_of_findSome?_eq_some first
    have there : controller.phase? other = some activity.phase := by
      simp [phase?, List.mk_mem_zipIdx_iff_getElem?.mp inside]
    by_cases same : other = place
    · subst same
      rw [there]
      exact moves.symm
    · obtain ⟨notice, ended⟩ := Phase.eq_finished (quiet other _ same there)
      simp only [ended] at moves
      cases moves

/-- A controller with one activity under way settles by the steps of this activity. -/
theorem Quiet.moves_alone {controller : Controller μ} {place : Nat} {phase : Phase μ}
    (quiet : controller.Quiet place) (found : controller.phase? place = some phase)
    (surroundings : Surroundings μ) {count : Nat} (enough : phase.distance ≤ count) :
    Alone surroundings place controller (moves surroundings count controller) ∧
      ∃ notice, (moves surroundings count controller).phase? place = some (.finished notice) := by
  induction count generalizing controller phase with
  | zero =>
    cases done : phase.isFinished with
    | true =>
      obtain ⟨notice, rfl⟩ := Phase.eq_finished done
      exact ⟨.nil, notice, found⟩
    | false =>
      -- There would be a step to take, but it is no step away from its end.
      obtain ⟨_, _, _, _, _, closer⟩ := quiet.unhindered.nearer found done surroundings
      exact absurd (Nat.lt_of_lt_of_le closer enough) (Nat.not_lt_zero _)
  | succ count ih =>
    unfold moves
    rw [quiet.move?_eq, found, Option.bind_some]
    cases done : phase.isFinished with
    | true =>
      obtain ⟨notice, rfl⟩ := Phase.eq_finished done
      exact ⟨.nil, notice, found⟩
    | false =>
      obtain ⟨move, moves, own, next, there, closer⟩ :=
        quiet.unhindered.nearer found done surroundings
      simp only [moves]
      obtain ⟨alone, ended⟩ := ih (quiet.unhindered.elsewhere quiet own) there (by omega)
      exact ⟨.cons own alone, ended⟩

end Scratchpad.Controller
