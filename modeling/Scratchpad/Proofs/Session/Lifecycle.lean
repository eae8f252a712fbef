import Scratchpad.Proofs.Session.History

/-!
# The lifecycle of the evaluator

The results of loads reach a session by events, and nothing keeps an event from coming late, twice
or unasked. The load state takes part only in those that fit: it moves along four ways, each with
the one input that leads along it, and every other input leaves it with what it holds.
-/

set_option autoImplicit false

namespace Scratchpad.Session

variable {μ : Type}

/-- The ways of the load state, each with the input that leads along it. -/
inductive Moves : Evaluator.State μ → Input μ → Evaluator.State μ → Prop where
  | begun : Moves .unloaded .claim .loading
  | retried {reason} : Moves (.failed reason) .claim .loading
  | loaded {handle} : Moves .loading (.event (.moduleLoaded handle)) (.ready handle)
  | failed {reason} : Moves .loading (.event (.moduleLoadFailed reason)) (.failed reason)

theorem Moves.changes {state next : Evaluator.State μ} {input : Input μ}
    (moves : Moves state input next) : next ≠ state := by
  cases moves <;> simp

theorem Moves.functional {state next other : Evaluator.State μ} {input : Input μ}
    (moves : Moves state input next) (again : Moves state input other) : next = other := by
  cases moves <;> cases again <;> rfl

/-- A claim that is made after a history is granted. -/
def Granted (start : Session μ) (history : List (Input μ)) : Prop :=
  (start.after history).beginLoad?.isSome = true

/-! ## One input -/

theorem evaluator_claim (session : Session μ) :
    (session.input .claim).evaluator =
      if session.evaluator.isClaimed then session.evaluator else .loading := by
  rw [input, beginLoad?_eq]
  split <;> rfl

theorem evaluator_moduleLoaded (session : Session μ) (handle : μ) :
    (session.input (.event (.moduleLoaded handle))).evaluator =
      if session.evaluator.status = .loading then .ready handle else session.evaluator := by
  cases state : session.evaluator <;>
    simp [input, apply, acceptModule, state, Evaluator.State.advance, Evaluator.State.status,
      Evaluator.Status.canBecome]

theorem evaluator_moduleLoadFailed (session : Session μ) (reason : String) :
    (session.input (.event (.moduleLoadFailed reason))).evaluator =
      if session.evaluator.status = .loading then .failed reason else session.evaluator := by
  cases state : session.evaluator <;>
    simp [input, apply, acceptFailure, state, Evaluator.State.advance, Evaluator.State.status,
      Evaluator.Status.canBecome]

/-- An input leads along a way, or leaves the load state as it is. -/
theorem moves_or_kept (session : Session μ) (last : Input μ) :
    Moves session.evaluator last (session.input last).evaluator ∨
      (session.input last).evaluator = session.evaluator ∧
        ∀ next, ¬ Moves session.evaluator last next := by
  cases last with
  | claim =>
    rw [evaluator_claim]
    cases session.evaluator with
    | unloaded => exact .inl .begun
    | failed reason => exact .inl .retried
    | _ => exact .inr ⟨rfl, fun _ moves => by cases moves⟩
  | event event =>
    cases event with
    | moduleLoaded handle =>
      rw [evaluator_moduleLoaded]
      cases session.evaluator with
      | loading => exact .inl .loaded
      | _ => exact .inr ⟨rfl, fun _ moves => by cases moves⟩
    | moduleLoadFailed reason =>
      rw [evaluator_moduleLoadFailed]
      cases session.evaluator with
      | loading => exact .inl .failed
      | _ => exact .inr ⟨rfl, fun _ moves => by cases moves⟩
    | _ =>
      refine .inr ⟨session.evaluator_apply rfl, fun _ moves => ?_⟩
      generalize session.evaluator = state at moves
      cases moves

theorem evaluator_input_iff (session : Session μ) (last : Input μ) {next : Evaluator.State μ}
    (other : next ≠ session.evaluator) :
    (session.input last).evaluator = next ↔ Moves session.evaluator last next := by
  rcases session.moves_or_kept last with moves | ⟨kept, none⟩
  · exact ⟨fun reached => reached ▸ moves, fun leads => moves.functional leads⟩
  · rw [kept]
    exact ⟨fun same => absurd same.symm other, fun leads => absurd leads (none next)⟩

theorem granted_iff (start : Session μ) (history : List (Input μ)) :
    Granted start history ↔ Moves (start.after history).evaluator .claim .loading := by
  rw [Granted, beginLoad?_eq]
  cases (start.after history).evaluator with
  | unloaded => simp [Evaluator.State.isClaimed, Moves.begun]
  | failed reason => simp [Evaluator.State.isClaimed, Moves.retried]
  | loading => exact ⟨fun granted => (by cases granted), fun moves => by cases moves⟩
  | ready handle => exact ⟨fun granted => (by cases granted), fun moves => by cases moves⟩

/-! ## Histories -/

/-- A state that was not there at first was entered by some input, and has been there since. -/
theorem entered {start : Session μ} {state : Evaluator.State μ} (new : start.evaluator ≠ state)
    {history : List (Input μ)} (reached : (start.after history).evaluator = state) :
    ∃ first input since, history = first ++ input :: since ∧
      Moves (start.after first).evaluator input state ∧
      ∀ part, part <+: since → (start.after (first ++ input :: part)).evaluator = state := by
  induction history using List.reverseRecOn with
  | nil => exact absurd reached new
  | append_singleton earlier last ih =>
    by_cases already : (start.after earlier).evaluator = state
    · obtain ⟨first, input, since, rfl, moves, stays⟩ := ih already
      refine ⟨first, input, since ++ [last], by simp, moves, fun part front => ?_⟩
      rcases List.prefix_concat_iff.mp front with rfl | inside
      · simpa using reached
      · exact stays part inside
    · have moves : Moves (start.after earlier).evaluator last state := by
        rw [after_snoc] at reached
        exact (evaluator_input_iff _ last (Ne.symm already)).mp reached
      refine ⟨earlier, last, [], rfl, moves, fun part front => ?_⟩
      rw [List.prefix_nil.mp front]
      exact reached

/-- A load that was claimed, and is claimed no longer, has failed in between. -/
theorem failed_between {session : Session μ} (claimed : session.evaluator.isClaimed = true)
    {between : List (Input μ)} (free : (session.after between).evaluator.isClaimed = false) :
    ∃ before reason rest, between = before ++ .event (.moduleLoadFailed reason) :: rest ∧
      (session.after before).evaluator = .loading := by
  induction between generalizing session with
  | nil =>
    rw [after_nil, claimed] at free
    cases free
  | cons first rest ih =>
    cases still : (session.input first).evaluator.isClaimed with
    | true =>
      obtain ⟨before, reason, later, rfl, loading⟩ := ih still free
      exact ⟨first :: before, reason, later, rfl, loading⟩
    | false =>
      rcases session.moves_or_kept first with moves | ⟨kept, -⟩
      · generalize reached : (session.input first).evaluator = next at moves still
        generalize state : session.evaluator = before at moves
        cases moves with
        | failed => exact ⟨[], _, rest, rfl, state⟩
        | _ => cases still
      · rw [kept, claimed] at still
        cases still

theorem ready_after {session : Session μ} {handle : μ}
    (loaded : session.evaluator = .ready handle) (history : List (Input μ)) :
    (session.after history).evaluator = .ready handle := by
  induction history generalizing session with
  | nil => exact loaded
  | cons first rest ih =>
    refine ih ?_
    rcases session.moves_or_kept first with moves | ⟨kept, -⟩
    · rw [loaded] at moves
      cases moves
    · exact kept.trans loaded

/-- How the load state fares in the course of a history. -/
structure Lifecycle (start : Session μ) (history : List (Input μ)) : Prop where
  /-- It comes to another state exactly along a way. -/
  moves : ∀ {earlier input next}, earlier ++ [input] <+: history →
    next ≠ (start.after earlier).evaluator →
    ((start.after (earlier ++ [input])).evaluator = next ↔
      Moves (start.after earlier).evaluator input next)
  /-- A claim is granted exactly if it leads to loading. -/
  granted : ∀ {earlier}, earlier ++ [.claim] <+: history →
    (Granted start earlier ↔ Moves (start.after earlier).evaluator .claim .loading)
  /-- Between two claims that are granted a load has failed. -/
  retried : ∀ {first between}, first ++ .claim :: between ++ [.claim] <+: history →
    Granted start first → Granted start (first ++ .claim :: between) →
    ∃ before reason rest, between = before ++ .event (.moduleLoadFailed reason) :: rest ∧
      (start.after (first ++ .claim :: before)).evaluator = .loading
  /-- A loaded evaluator stays, and no claim is granted any more. -/
  ready : ∀ {earlier later handle}, earlier ++ later <+: history →
    (start.after earlier).evaluator = .ready handle →
    (start.after (earlier ++ later)).evaluator = .ready handle ∧
      ¬ Granted start (earlier ++ later)
  /-- The reason that is shown is the one that ended the last load. -/
  blamed : ∀ {reason}, (start.after history).evaluator = .failed reason →
    (start.after history).snapshot.moduleError = some reason ∧
    ∃ first during since,
      history = first ++ .claim :: during ++ .event (.moduleLoadFailed reason) :: since ∧
      Granted start first ∧
      (∀ part, part <+: during → (start.after (first ++ .claim :: part)).evaluator = .loading) ∧
      ∀ part, part <+: since →
        (start.after (first ++ .claim :: during ++ .event (.moduleLoadFailed reason) ::
          part)).evaluator = .failed reason

theorem retried_after_failure {start : Session μ} {first between : List (Input μ)}
    (granted : Granted start first) (again : Granted start (first ++ .claim :: between)) :
    ∃ before reason rest, between = before ++ .event (.moduleLoadFailed reason) :: rest ∧
      (start.after (first ++ .claim :: before)).evaluator = .loading := by
  have claimed : ((start.after first).input .claim).evaluator = .loading := by
    have moves := (granted_iff start first).mp granted
    exact (evaluator_input_iff _ _ moves.changes).mpr moves
  have free : (((start.after first).input .claim).after between).evaluator.isClaimed = false := by
    have moves := (granted_iff start _).mp again
    rw [after_append] at moves
    change Moves (((start.after first).input .claim).after between).evaluator _ _ at moves
    generalize (((start.after first).input .claim).after between).evaluator = state at moves ⊢
    cases moves <;> rfl
  obtain ⟨before, reason, rest, rfl, loading⟩ :=
    failed_between (by rw [claimed]; rfl) free
  refine ⟨before, reason, rest, rfl, ?_⟩
  rw [after_append]
  exact loading

theorem blamed_of_failed {start : Session μ} (fresh : start.evaluator = .unloaded)
    {history : List (Input μ)} {reason : String}
    (failed : (start.after history).evaluator = .failed reason) :
    ∃ first during since,
      history = first ++ .claim :: during ++ .event (.moduleLoadFailed reason) :: since ∧
      Granted start first ∧
      (∀ part, part <+: during → (start.after (first ++ .claim :: part)).evaluator = .loading) ∧
      ∀ part, part <+: since →
        (start.after (first ++ .claim :: during ++ .event (.moduleLoadFailed reason) ::
          part)).evaluator = .failed reason := by
  obtain ⟨loads, input, since, rfl, fails, stays⟩ := entered (by simp [fresh]) failed
  generalize state : (start.after loads).evaluator = before at fails
  cases fails
  obtain ⟨first, begins, during, rfl, moves, loading⟩ := entered (by simp [fresh]) state
  have same : begins = .claim := by
    generalize (start.after first).evaluator = before at moves
    cases moves <;> rfl
  subst same
  exact ⟨first, during, since, rfl, (granted_iff start first).mpr moves, loading, stays⟩

/-- Whatever is done to a session, and in whatever order, the evaluator is loaded along the four
ways alone. -/
theorem lifecycle_of_history (id initial : String) (history : List (Input μ)) :
    Lifecycle (new id initial) history := by
  constructor
  case moves =>
    intro earlier input next _ other
    rw [after_snoc]
    exact evaluator_input_iff _ input other
  case granted =>
    intro earlier _
    exact granted_iff _ earlier
  case retried =>
    intro first between _
    exact retried_after_failure
  case ready =>
    intro earlier later handle _ loaded
    have stays : ((new id initial).after (earlier ++ later)).evaluator = .ready handle := by
      rw [after_append]
      exact ready_after loaded later
    refine ⟨stays, fun granted => ?_⟩
    have moves := (granted_iff _ _).mp granted
    rw [stays] at moves
    cases moves
  case blamed =>
    intro reason failed
    refine ⟨?_, blamed_of_failed rfl failed⟩
    simp [snapshot, failed, Evaluator.State.failure?]

end Scratchpad.Session
