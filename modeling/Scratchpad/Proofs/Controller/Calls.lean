import Scratchpad.Proofs.Controller.Steps

/-!
# Calls over a run

The calls that a controller makes, as they are seen from outside. A call begins when an activity
that had none has one, it is in flight as long as the activity has it, and it is completed by an
answer that means an event. None of this is kept by the controller: it is read off its states and
the actions between them. A `kind` selects the calls that are of interest.
-/

set_option autoImplicit false

namespace Scratchpad.Controller

open Session (Event)

variable {μ β : Type}

/-! ## Calls in flight -/

/-- The number of a load. -/
def Call.load? : Call μ → Option Nat
  | .load number => some number
  | _ => none

/-- The handle and the program of an evaluation. -/
def Call.evaluation? : Call μ → Option (μ × String)
  | .evaluate handle program => some (handle, program)
  | _ => none

/-- The call of a kind in a phase. -/
def Phase.callOf (kind : Call μ → Option β) (phase : Phase μ) : Option β :=
  phase.call?.bind kind

/-- The call of a kind that the activity at a place has in flight. -/
def callAt (kind : Call μ → Option β) (controller : Controller μ) (place : Nat) : Option β :=
  (controller.phase? place).bind (·.callOf kind)

/-- The calls of a kind in flight, in the order of their activities. -/
def inFlight (kind : Call μ → Option β) (controller : Controller μ) : List (Nat × β) :=
  (List.range controller.activities.length).filterMap fun place =>
    (controller.callAt kind place).map (place, ·)

/-- The calls of a kind that are in flight in one state and were not in an earlier one. -/
def begunBetween (kind : Call μ → Option β) (before after : Controller μ) : List (Nat × β) :=
  (List.range after.activities.length).filterMap fun place =>
    if (before.callAt kind place).isSome then none
    else (after.callAt kind place).map (place, ·)

/-- The calls of a kind that begin in the course of actions, in order. -/
def begunCalls (kind : Call μ → Option β) (controller : Controller μ) :
    List (Action μ) → List (Nat × β)
  | [] => []
  | action :: actions =>
    begunBetween kind controller (controller.step action) ++
      begunCalls kind (controller.step action) actions

/-! ## Completions -/

/-- A call that was answered: the activity, what it had asked for, and what the answer was for the
session. -/
structure Completion (μ : Type) where
  place : Nat
  call : Call μ
  event : Event μ

/-- The call that an action completes. -/
def completion? (controller : Controller μ) : Action μ → Option (Completion μ)
  | .answer place answer => do
    let phase ← controller.phase? place
    let call ← phase.call?
    let event ← phase.eventOn answer
    return ⟨place, call, event⟩
  | _ => none

/-- The calls that are completed in the course of actions, in order. -/
def completions (controller : Controller μ) : List (Action μ) → List (Completion μ)
  | [] => []
  | action :: actions =>
    (controller.completion? action).toList ++ completions (controller.step action) actions

/-- The events that actions apply to the session, in order. -/
def events (controller : Controller μ) : List (Action μ) → List (Event μ)
  | [] => []
  | action :: actions =>
    (controller.event? action).toList ++ events (controller.step action) actions

theorem event?_of_completion? {controller : Controller μ} {action : Action μ}
    {completion : Completion μ} (completed : controller.completion? action = some completion) :
    controller.event? action = some completion.event := by
  cases action with
  | answer place answer =>
    simp only [completion?, Option.bind_eq_bind, Option.bind_eq_some_iff] at completed
    obtain ⟨phase, found, call, asked, event, meant, same⟩ := completed
    cases same
    simp [event?, found, meant]
  | _ => simp [completion?] at completed

theorem completion?_eq_none {controller : Controller μ} {action : Action μ}
    (silent : controller.event? action = none) : controller.completion? action = none := by
  cases completed : controller.completion? action with
  | none => rfl
  | some completion =>
    rw [event?_of_completion? completed] at silent
    cases silent

/-! ## The call at a place -/

theorem callAt_of_phase? {controller : Controller μ} {place : Nat} {phase : Phase μ}
    (found : controller.phase? place = some phase) (kind : Call μ → Option β) :
    controller.callAt kind place = phase.callOf kind := by
  simp [callAt, found]

theorem callAt_enter_self (controller : Controller μ) {place : Nat} {phase : Phase μ}
    (found : controller.phase? place = some phase) (kind : Call μ → Option β) (next : Phase μ) :
    (controller.enter place next).callAt kind place = next.callOf kind :=
  callAt_of_phase? (phase?_enter_self controller found next) kind

theorem callAt_enter_other (controller : Controller μ) {place other : Nat}
    (different : other ≠ place) (kind : Call μ → Option β) (next : Phase μ) :
    (controller.enter place next).callAt kind other = controller.callAt kind other := by
  simp [callAt, phase?_enter_other controller different next]

theorem callAt_enter_same (controller : Controller μ) {place : Nat} {phase next : Phase μ}
    {kind : Call μ → Option β} (found : controller.phase? place = some phase)
    (same : next.callOf kind = phase.callOf kind) (other : Nat) :
    (controller.enter place next).callAt kind other = controller.callAt kind other := by
  by_cases equal : other = place
  · subst other
    rw [callAt_enter_self controller found, callAt_of_phase? found, same]
  · exact callAt_enter_other controller equal kind next

theorem callAt_begin {kind : Call μ → Option β} {operation : Operation}
    (none : ∀ phase ∈ operation.phases, Phase.callOf kind phase = none)
    (controller : Controller μ) (place : Nat) :
    (controller.begin operation).callAt kind place = controller.callAt kind place := by
  cases Nat.lt_or_ge place controller.activities.length with
  | inl old => simp [callAt, phase?_begin_of_lt controller operation old]
  | inr new =>
    have before := phase?_eq_none_of_le controller new
    cases added : (controller.begin operation).phase? place with
    | none => simp [callAt, before, added]
    | some phase => simp [callAt, before, added, none phase (phase?_begin_of_le new added)]

theorem callOf_load_first {operation : Operation} {phase : Phase μ}
    (first : phase ∈ operation.phases) : phase.callOf Call.load? = none := by
  cases Operation.isFirst first <;> rfl

theorem callOf_evaluation_first {operation : Operation} {phase : Phase μ}
    (first : phase ∈ operation.phases) : phase.callOf Call.evaluation? = none := by
  cases Operation.isFirst first <;> rfl

/-! ## Lists of calls -/

private theorem filterMap_range_single {f : Nat → Option β} {count place : Nat}
    (inside : place < count) (others : ∀ other, other ≠ place → f other = none) :
    (List.range count).filterMap f = (f place).toList := by
  induction count with
  | zero => omega
  | succ count ih =>
    rw [List.range_succ, List.filterMap_append]
    by_cases last : place = count
    · subst last
      have earlier : (List.range place).filterMap f = [] := by
        apply List.filterMap_eq_nil_iff.mpr
        intro other member
        exact others other (Nat.ne_of_lt (List.mem_range.mp member))
      rw [earlier]
      cases last : f place <;> simp [last]
    · rw [ih (by omega), List.filterMap_cons, others count (fun equal => last equal.symm)]
      simp

theorem lt_of_callAt {kind : Call μ → Option β} {controller : Controller μ} {place : Nat}
    {call : β} (asked : controller.callAt kind place = some call) :
    place < controller.activities.length := by
  obtain ⟨phase, found, _⟩ := Option.bind_eq_some_iff.mp asked
  exact lt_of_phase? found

theorem mem_begunBetween_iff {kind : Call μ → Option β} {before after : Controller μ}
    {place : Nat} {call : β} :
    (place, call) ∈ begunBetween kind before after ↔
      before.callAt kind place = none ∧ after.callAt kind place = some call := by
  simp only [begunBetween, List.mem_filterMap, List.mem_range, Option.ite_none_left_eq_some,
    Option.not_isSome_iff_eq_none, Option.map_eq_some_iff, Prod.mk.injEq]
  constructor
  · rintro ⟨_, _, free, _, asked, rfl, rfl⟩
    exact ⟨free, asked⟩
  · rintro ⟨free, asked⟩
    exact ⟨place, lt_of_callAt asked, free, call, asked, rfl, rfl⟩

private theorem filterMap_range_of_le {f : Nat → Option β} {count more : Nat}
    (within : count ≤ more) (beyond : ∀ place, count ≤ place → f place = none) :
    (List.range more).filterMap f = (List.range count).filterMap f := by
  induction within with
  | refl => rfl
  | @step more within ih =>
    rw [List.range_succ, List.filterMap_append, ih]
    simp [beyond more within]

/-- Controllers with the same calls at every place have the same calls in flight, even if one has
more activities. -/
theorem inFlight_congr {kind : Call μ → Option β} {before after : Controller μ}
    (same : ∀ place, after.callAt kind place = before.callAt kind place) :
    after.inFlight kind = before.inFlight kind := by
  have beyond : ∀ (controller : Controller μ) place, controller.activities.length ≤ place →
      (controller.callAt kind place).map (place, ·) = none := by
    intro controller place outside
    simp [callAt, phase?_eq_none_of_le controller outside]
  unfold inFlight
  simp only [same]
  cases Nat.le_total before.activities.length after.activities.length with
  | inl longer => exact filterMap_range_of_le longer (beyond before)
  | inr shorter =>
    refine (filterMap_range_of_le shorter ?_).symm
    intro place outside
    rw [← same place]
    exact beyond after place outside

theorem inFlight_eq_nil {kind : Call μ → Option β} {controller : Controller μ}
    (none : ∀ place, controller.callAt kind place = none) : controller.inFlight kind = [] := by
  simp [inFlight, none]

theorem inFlight_eq_singleton {kind : Call μ → Option β} {controller : Controller μ}
    {place : Nat} {call : β} (asked : controller.callAt kind place = some call)
    (others : ∀ other, other ≠ place → controller.callAt kind other = none) :
    controller.inFlight kind = [(place, call)] := by
  rw [inFlight, filterMap_range_single (lt_of_callAt asked)]
  · simp [asked]
  · intro other different
    simp [others other different]

theorem nodup_begunBetween (kind : Call μ → Option β) (before after : Controller μ) :
    ((begunBetween kind before after).map Prod.fst).Nodup := by
  have places : ∀ {place : Nat} {begun : Nat × β},
      (if (before.callAt kind place).isSome then none
        else (after.callAt kind place).map (place, ·)) = some begun → begun.1 = place := by
    intro place begun selected
    simp only [Option.ite_none_left_eq_some, Option.map_eq_some_iff] at selected
    obtain ⟨_, call, _, rfl⟩ := selected
    rfl
  rw [List.Nodup, List.pairwise_map, begunBetween, List.pairwise_filterMap]
  refine List.nodup_range.imp ?_
  intro place other different first begun second again
  rw [places begun, places again]
  exact different

theorem begunBetween_eq_nil {kind : Call μ → Option β} {before after : Controller μ}
    (kept : ∀ place, after.callAt kind place = before.callAt kind place ∨
      after.callAt kind place = none) :
    begunBetween kind before after = [] := by
  apply List.eq_nil_iff_forall_not_mem.mpr
  rintro ⟨place, call⟩ member
  obtain ⟨free, asked⟩ := mem_begunBetween_iff.mp member
  rcases kept place with same | ended
  · rw [asked, free] at same
    cases same
  · rw [asked] at ended
    cases ended

theorem begunBetween_eq_singleton {kind : Call μ → Option β} {before after : Controller μ}
    {place : Nat} {call : β} (free : before.callAt kind place = none)
    (asked : after.callAt kind place = some call)
    (others : ∀ other, other ≠ place → after.callAt kind other = none) :
    begunBetween kind before after = [(place, call)] := by
  rw [begunBetween, filterMap_range_single (lt_of_callAt asked)]
  · simp [free, asked]
  · intro other different
    simp [others other different]

end Scratchpad.Controller
