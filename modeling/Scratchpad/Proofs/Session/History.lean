import Mathlib.Data.List.Induction
import Scratchpad.Proofs.Session.Editor
import Scratchpad.Proofs.Session.Loading

/-!
# Sessions and their histories

A session is a function of what was done to it. Every part of it is what one kind of event told
last: the catalog, the result and the output since they were cleared, the time of the last run, the
program and the selection. Only a first example depends on more than its kind. It is accepted if no
example is in the editor and the program is the one for which it was fetched, so that it is
accepted once at most.
-/

set_option autoImplicit false

namespace Scratchpad.Session

open Catalog (Example)
open Evaluator (Evaluation)

variable {μ α : Type}

/-! ## Histories -/

/-- What is done to a session: the load is claimed, or an event is applied. -/
inductive Input (μ : Type) where
  | claim
  | event (event : Event μ)
  deriving DecidableEq, Repr

/-- The session after one input. A claim that is refused leaves it as it is. -/
def input (session : Session μ) : Input μ → Session μ
  | .claim => session.beginLoad?.getD session
  | .event event => (session.apply event).session

/-- The session after inputs in order. -/
def after (session : Session μ) (history : List (Input μ)) : Session μ :=
  history.foldl input session

@[simp] theorem after_nil (session : Session μ) : session.after [] = session := rfl

theorem after_append (session : Session μ) (earlier later : List (Input μ)) :
    session.after (earlier ++ later) = (session.after earlier).after later :=
  List.foldl_append

theorem after_snoc (session : Session μ) (history : List (Input μ)) (last : Input μ) :
    session.after (history ++ [last]) = (session.after history).input last :=
  after_append session history [last]

/-! ## What was told last -/

def Input.event? : Input μ → Option (Event μ)
  | .claim => none
  | .event told => some told

/-- What an input tells of a kind. A claim tells nothing. -/
def Input.tells (kind : Event μ → Option α) (input : Input μ) : Option α :=
  input.event?.bind kind

/-- What a history told last of a kind. -/
def latest (kind : Event μ → Option α) (history : List (Input μ)) : Option α :=
  (history.filterMap (Input.tells kind)).getLast?

theorem latest_snoc (kind : Event μ → Option α) (history : List (Input μ)) (last : Input μ) :
    latest kind (history ++ [last]) = (last.tells kind).or (latest kind history) := by
  cases told : last.tells kind <;> simp [latest, told]

theorem isSome_latest_iff (kind : Event μ → Option α) (history : List (Input μ)) :
    (latest kind history).isSome = true ↔
      ∃ event, .event event ∈ history ∧ (kind event).isSome = true := by
  induction history using List.reverseRecOn with
  | nil => simp [latest]
  | append_singleton earlier last ih =>
    rw [latest_snoc, Option.isSome_or, Bool.or_eq_true, ih]
    cases last with
    | claim => simp [Input.tells, Input.event?]
    | event event =>
      constructor
      · rintro (now | ⟨told, member, some⟩)
        · exact ⟨event, by simp, now⟩
        · exact ⟨told, List.mem_append_left _ member, some⟩
      · rintro ⟨told, member, some⟩
        rcases List.mem_append.mp member with before | now
        · exact .inr ⟨told, before, some⟩
        · cases List.mem_singleton.mp now
          exact .inl some

/-- The time of a run. -/
def Event.time? : Event μ → Option Time
  | .runCompleted _ time => some time
  | _ => none

/-- The value of a run that came to one. -/
def Event.value? : Event μ → Option String
  | .runCompleted ⟨.ok value, _⟩ _ => some value
  | _ => none

/-- What a run printed that came to a value. -/
def Event.output? : Event μ → Option String
  | .runCompleted ⟨.ok _, output⟩ _ => output
  | _ => none

def Event.clears : Event μ → Bool
  | .outputCleared => true
  | _ => false

def Input.clears (input : Input μ) : Bool :=
  input.event?.any Event.clears

/-- The inputs after the last one that clears. -/
def sinceCleared (history : List (Input μ)) : List (Input μ) :=
  (history.reverse.takeWhile (!·.clears)).reverse

theorem sinceCleared_snoc (history : List (Input μ)) (last : Input μ) :
    sinceCleared (history ++ [last]) =
      if last.clears then [] else sinceCleared history ++ [last] := by
  cases cleared : last.clears <;> simp [sinceCleared, cleared]

/-! ## One input -/

theorem results_apply (session : Session μ) (event : Event μ) :
    (session.apply event).session.lastRunAt = event.time?.or session.lastRunAt ∧
      (session.apply event).session.lastResult =
        (if event.clears then "" else event.value?.getD session.lastResult) ∧
      (session.apply event).session.lastOutput =
        (if event.clears then "" else event.output?.getD session.lastOutput) := by
  cases event with
  | moduleLoaded handle =>
    simp only [apply, acceptModule]
    split <;> exact ⟨rfl, rfl, rfl⟩
  | moduleLoadFailed reason =>
    simp only [apply, acceptFailure]
    split <;> exact ⟨rfl, rfl, rfl⟩
  | defaultExampleLoaded file program base =>
    simp only [apply]
    split <;> exact ⟨rfl, rfl, rfl⟩
  | runCompleted evaluation time =>
    obtain ⟨outcome, output⟩ := evaluation
    cases outcome <;> exact ⟨rfl, rfl, rfl⟩
  | _ => exact ⟨rfl, rfl, rfl⟩

/-- A claim changes the load state at most. -/
theorem input_claim (session : Session μ) :
    ∃ state, session.input .claim = { session with evaluator := state } := by
  rw [input, beginLoad?_eq]
  split
  · exact ⟨session.evaluator, rfl⟩
  · exact ⟨.loading, rfl⟩

theorem results_input (session : Session μ) (last : Input μ) :
    (session.input last).lastRunAt = (last.tells Event.time?).or session.lastRunAt ∧
      (session.input last).lastResult =
        (if last.clears then "" else (last.tells Event.value?).getD session.lastResult) ∧
      (session.input last).lastOutput =
        (if last.clears then "" else (last.tells Event.output?).getD session.lastOutput) := by
  cases last with
  | claim =>
    obtain ⟨state, same⟩ := session.input_claim
    rw [same]
    exact ⟨rfl, rfl, rfl⟩
  | event event => exact results_apply session event

theorem editor_input (session : Session μ) (last : Input μ) :
    (session.input last).program =
        ((last.tells Event.edit?).or ((last.tells session.placement?).map (·.program))).getD
          session.program ∧
      (session.input last).selected =
        ((last.tells session.placement?).map (·.file)).or session.selected ∧
      (session.input last).examples = (last.tells Event.catalog?).getD session.examples := by
  cases last with
  | claim =>
    obtain ⟨state, same⟩ := session.input_claim
    rw [same]
    exact ⟨rfl, rfl, rfl⟩
  | event event =>
    exact ⟨program_apply session event, selected_apply session event,
      examples_apply session event⟩

/-! ## Results and catalog -/

theorem results_after (id initial : String) (history : List (Input μ)) :
    ((new id initial : Session μ).after history).lastRunAt = latest Event.time? history ∧
      ((new id initial : Session μ).after history).lastResult =
        (latest Event.value? (sinceCleared history)).getD "" ∧
      ((new id initial : Session μ).after history).lastOutput =
        (latest Event.output? (sinceCleared history)).getD "" := by
  induction history using List.reverseRecOn with
  | nil => exact ⟨rfl, rfl, rfl⟩
  | append_singleton earlier last ih =>
    obtain ⟨ran, result, output⟩ := ih
    obtain ⟨ranNow, resultNow, outputNow⟩ :=
      results_input ((new id initial : Session μ).after earlier) last
    rw [after_snoc, ranNow, resultNow, outputNow, ran, result, output, latest_snoc,
      sinceCleared_snoc]
    cases last.clears with
    | true => exact ⟨rfl, rfl, rfl⟩
    | false =>
      simp only [Bool.false_eq_true, ↓reduceIte, latest_snoc, Option.getD_or, and_self]

theorem examples_after (id initial : String) (history : List (Input μ)) :
    ((new id initial : Session μ).after history).examples =
      (latest Event.catalog? history).getD [] := by
  induction history using List.reverseRecOn with
  | nil => rfl
  | append_singleton earlier last ih =>
    rw [after_snoc, (editor_input _ last).2.2, ih, latest_snoc, Option.getD_or]

/-! ## The editor -/

/-- A text in the editor, with its file if it is an example. -/
structure Shown where
  file : Option String := none
  text : String
  deriving DecidableEq, Repr

/-- The text that is in the editor after others. -/
def lastText (initial : String) (past : List Shown) : String :=
  (past.getLast?.map (·.text)).getD initial

/-- Whether a first example that was fetched for `base` is accepted after others were shown: none
of them was an example, and the last of them is `base`. -/
def admits (initial : String) (past : List Shown) (base : String) : Bool :=
  past.all (·.file.isNone) && lastText initial past == base

/-- What an event brings into the editor, after others. -/
def Event.shown? (initial : String) (past : List Shown) : Event μ → Option Shown
  | .programEdited text => some { text }
  | .exampleLoaded file text => some { file := some file, text }
  | .defaultExampleLoaded file text base =>
    if admits initial past base then some { file := some file, text } else none
  | _ => none

/-- What a history brings into the editor, in order. -/
def shown (initial : String) (history : List (Input μ)) : List Shown :=
  history.foldl (fun past input => past ++ (input.tells (Event.shown? initial past)).toList) []

theorem shown_snoc (initial : String) (history : List (Input μ)) (last : Input μ) :
    shown initial (history ++ [last]) =
      shown initial history ++
        (last.tells (Event.shown? initial (shown initial history))).toList := by
  simp [shown, List.foldl_append]

theorem lastText_append (initial : String) (past : List Shown) (now : Option Shown) :
    lastText initial (past ++ now.toList) =
      (now.map (·.text)).getD (lastText initial past) := by
  cases now <;> simp [lastText]

/-- The file of the last example among what was shown. -/
def lastFile? (past : List Shown) : Option String :=
  (past.filterMap (·.file)).getLast?

theorem lastFile?_append (past : List Shown) (now : Option Shown) :
    lastFile? (past ++ now.toList) = (now.bind (·.file)).or (lastFile? past) := by
  cases now with
  | none => simp [lastFile?]
  | some shown => cases file : shown.file <;> simp [lastFile?, file]

theorem isNone_lastFile? (past : List Shown) :
    (lastFile? past).isNone = past.all (·.file.isNone) := by
  rw [Bool.eq_iff_iff, Option.isNone_iff_eq_none, lastFile?, List.getLast?_eq_none_iff,
    List.filterMap_eq_nil_iff, List.all_eq_true]
  simp only [Option.isNone_iff_eq_none]

/-- Where the session and what was shown agree on first examples, they agree on what an event
brings into the editor. -/
theorem shown?_eq {session : Session μ} {initial : String} {past : List Shown}
    (agree : ∀ base, session.acceptsDefault base = admits initial past base) (event : Event μ) :
    event.edit?.or ((session.placement? event).map (·.program)) =
        (event.shown? initial past).map (·.text) ∧
      (session.placement? event).map (·.file) = (event.shown? initial past).bind (·.file) := by
  cases event with
  | defaultExampleLoaded file program base =>
    simp only [Event.edit?, placement?, Event.shown?, agree, Option.none_or]
    split <;> exact ⟨rfl, rfl⟩
  | _ => exact ⟨rfl, rfl⟩

theorem editor_after (id initial : String) (history : List (Input μ)) :
    ((new id initial : Session μ).after history).program =
        lastText initial (shown initial history) ∧
      ((new id initial : Session μ).after history).selected =
        lastFile? (shown initial history) := by
  induction history using List.reverseRecOn with
  | nil => exact ⟨rfl, rfl⟩
  | append_singleton earlier last ih =>
    obtain ⟨program, selected⟩ := ih
    obtain ⟨programNow, selectedNow, -⟩ :=
      editor_input ((new id initial : Session μ).after earlier) last
    rw [after_snoc, programNow, selectedNow, shown_snoc, lastText_append, lastFile?_append,
      ← program, ← selected]
    cases last with
    | claim => exact ⟨rfl, rfl⟩
    | event event =>
      have agree : ∀ base, ((new id initial : Session μ).after earlier).acceptsDefault base =
          admits initial (shown initial earlier) base := by
        intro base
        rw [acceptsDefault, program, selected, isNone_lastFile?, admits]
      obtain ⟨texts, files⟩ := shown?_eq agree event
      exact ⟨congrArg (Option.getD · _) texts, congrArg (Option.or · _) files⟩

/-! ## First examples -/

/-- A first example that comes after a history and was fetched for `base` is accepted. -/
def Accepted (initial : String) (earlier : List (Input μ)) (base : String) : Prop :=
  admits initial (shown initial earlier) base = true

theorem no_example_shown_iff (initial : String) (history : List (Input μ)) :
    (shown initial history).all (·.file.isNone) = true ↔
      (∀ file text, .event (.exampleLoaded file text) ∉ history) ∧
        ∀ earlier file text base,
          earlier ++ [.event (.defaultExampleLoaded file text base)] <+: history →
            ¬ Accepted initial earlier base := by
  induction history using List.reverseRecOn with
  | nil => simp [shown]
  | append_singleton earlier last ih =>
    rw [shown_snoc, List.all_append, Bool.and_eq_true, ih]
    constructor
    · rintro ⟨⟨unchosen, refused⟩, now⟩
      refine ⟨fun file text member => ?_, fun before file text base begins => ?_⟩
      · rcases List.mem_append.mp member with before | same
        · exact unchosen file text before
        · cases List.mem_singleton.mp same
          cases now
      · rcases List.prefix_concat_iff.mp begins with whole | before
        · obtain ⟨rfl, same⟩ := List.append_inj' whole rfl
          cases same
          intro accepted
          simp [Input.tells, Input.event?, Event.shown?, show admits _ _ _ = true from accepted]
            at now
        · exact refused _ file text base before
    · rintro ⟨unchosen, refused⟩
      refine ⟨⟨fun file text member => unchosen file text (List.mem_append_left _ member),
        fun before file text base begins =>
          refused before file text base (begins.trans (List.prefix_append _ _))⟩, ?_⟩
      cases last with
      | claim => rfl
      | event event =>
        cases event with
        | exampleLoaded file text => exact absurd (by simp) (unchosen file text)
        | defaultExampleLoaded file text base =>
          have dropped : admits initial (shown initial earlier) base = false :=
            Bool.not_eq_true _ ▸ refused earlier file text base List.prefix_rfl
          simp [Input.tells, Input.event?, Event.shown?, dropped]
        | _ => rfl

/-- A first example is accepted if no example was accepted before it, and the program is the one
for which it was fetched. -/
theorem accepted_iff (id initial : String) (earlier : List (Input μ)) (base : String) :
    Accepted initial earlier base ↔
      (∀ file text, .event (.exampleLoaded file text) ∉ earlier) ∧
        (∀ before file text other,
          before ++ [.event (.defaultExampleLoaded file text other)] <+: earlier →
            ¬ Accepted initial before other) ∧
        ((new id initial : Session μ).after earlier).program = base := by
  rw [← and_assoc, ← no_example_shown_iff, (editor_after id initial earlier).1, Accepted, admits,
    Bool.and_eq_true, beq_iff_eq]

theorem accepted_once {initial : String} {history first second : List (Input μ)}
    {file text base other program wanted : String}
    (before : first ++ [.event (.defaultExampleLoaded file text base)] <+: history)
    (begins : second ++ [.event (.defaultExampleLoaded other program wanted)] <+: history)
    (accepted : Accepted initial first base) (again : Accepted initial second wanted) :
    first = second := by
  -- The later one comes after the earlier one was accepted.
  have later : ∀ {first second : List (Input μ)} {one two : Input μ},
      first ++ [one] <+: history → second ++ [two] <+: history →
      first.length < second.length → first ++ [one] <+: second := by
    intro first second one two before begins shorter
    refine List.prefix_of_prefix_length_le before
      ((List.prefix_append second [two]).trans begins) ?_
    rw [List.length_append]
    exact shorter
  rcases Nat.lt_trichotomy first.length second.length with shorter | same | longer
  · exact absurd accepted
      (((accepted_iff "" initial second wanted).mp again).2.1 _ _ _ _
        (later before begins shorter))
  · have front : first <+: second :=
      List.prefix_of_prefix_length_le ((List.prefix_append first _).trans before)
        ((List.prefix_append second _).trans begins) (Nat.le_of_eq same)
    exact front.eq_of_length same
  · exact absurd again
      (((accepted_iff "" initial first base).mp accepted).2.1 _ _ _ _
        (later begins before longer))

/-! ## The session as a function of its history -/

/-- What a session is after a history. -/
structure Follows (id initial : String) (history : List (Input μ)) : Prop where
  /-- The examples are those of the last catalog. -/
  examples : ((new id initial : Session μ).after history).examples =
    (latest Event.catalog? history).getD []
  /-- The result is the last value since the output was cleared. -/
  result : ((new id initial : Session μ).after history).lastResult =
    (latest Event.value? (sinceCleared history)).getD ""
  /-- The output is what was last printed since then by a run that came to a value. -/
  output : ((new id initial : Session μ).after history).lastOutput =
    (latest Event.output? (sinceCleared history)).getD ""
  /-- There is a time of the last run as soon as one was completed, whatever it came to. -/
  ran : ((new id initial : Session μ).after history).lastRunAt.isSome = true ↔
    ∃ evaluation time, .event (.runCompleted evaluation time) ∈ history
  /-- The program is the last text that was typed or came with an example. -/
  program : ((new id initial : Session μ).after history).program =
    lastText initial (shown initial history)
  /-- The selection is the file of the last example. -/
  selected : ((new id initial : Session μ).after history).selected =
    lastFile? (shown initial history)
  /-- Of the first examples those count that are accepted. -/
  accepted : ∀ {earlier file text base},
    earlier ++ [.event (.defaultExampleLoaded file text base)] <+: history →
    (Accepted initial earlier base ↔
      (∀ file text, .event (.exampleLoaded file text) ∉ earlier) ∧
        (∀ before file text other,
          before ++ [.event (.defaultExampleLoaded file text other)] <+: earlier →
            ¬ Accepted initial before other) ∧
        ((new id initial : Session μ).after earlier).program = base)
  /-- No two of them are. -/
  once : ∀ {first second file text base other program wanted},
    first ++ [.event (.defaultExampleLoaded file text base)] <+: history →
    second ++ [.event (.defaultExampleLoaded other program wanted)] <+: history →
    Accepted initial first base → Accepted initial second wanted → first = second

/-- A session is determined by what was done to it, part by part. -/
theorem follows_history (id initial : String) (history : List (Input μ)) :
    Follows id initial history := by
  obtain ⟨ran, result, output⟩ := results_after (μ := μ) id initial history
  obtain ⟨program, selected⟩ := editor_after (μ := μ) id initial history
  refine ⟨examples_after id initial history, result, output, ?_, program, selected,
    fun _ => accepted_iff id initial _ _, accepted_once⟩
  rw [ran, isSome_latest_iff]
  constructor
  · rintro ⟨event, member, timed⟩
    cases event with
    | runCompleted evaluation time => exact ⟨evaluation, time, member⟩
    | _ => cases timed
  · rintro ⟨evaluation, time, member⟩
    exact ⟨_, member, rfl⟩

end Scratchpad.Session
