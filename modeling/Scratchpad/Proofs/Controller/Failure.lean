import Scratchpad.Evaluator.Command
import Scratchpad.Proofs.Controller.Alone
import Scratchpad.Proofs.Controller.Turns
import Scratchpad.Proofs.Evaluator.Process

/-!
# Runs that fail

What a run comes to when the command that evaluates fails, from its process to the notice for the
user. `Running` follows a run on its own; what it adds to the course of any operation is which call
is answered, and so which evaluation is recorded. A failure is recorded by its time and nothing
else.
-/

set_option autoImplicit false

namespace Scratchpad.Controller

open Evaluator (Command Evaluation Explains Fails Output ofRun printing)
open Session (Notice Time)

variable {μ : Type}

/-! ## A run on its own -/

/-- The phases of a run on its own, with the session that it has come to. When it began, the session
was `before`. -/
inductive Running (surroundings : Surroundings μ) (before : Session μ) (handle : μ) :
    Phase μ → Session μ → Prop where
  | queued : Running surroundings before handle .queued before
  | onTurn : Running surroundings before handle .onTurn before
  | evaluating : Running surroundings before handle (.evaluating handle before.program) before
  | yielding {reaction} :
      reaction = before.record (surroundings.evaluate handle before.program) surroundings.now →
      Running surroundings before handle (.yielding reaction.notice) reaction.session
  | finished {reaction} :
      reaction = before.record (surroundings.evaluate handle before.program) surroundings.now →
      Running surroundings before handle (.finished reaction.notice) reaction.session

section Steps

variable {surroundings : Surroundings μ} {before : Session μ} {handle : μ} {phase : Phase μ}
  {controller : Controller μ} {place : Nat}

theorem Running.answered (running : Running surroundings before handle phase controller.session)
    (found : controller.phase? place = some phase) {call : Call μ}
    (asks : phase.call? = some call) :
    ∃ next, (controller.step (.answer place (surroundings.answer call))).phase? place = some next ∧
      Running surroundings before handle next
        (controller.step (.answer place (surroundings.answer call))).session := by
  generalize same : controller.session = session at running
  cases running with
  | evaluating =>
    cases asks
    have told : controller.event? (.answer place
        (.evaluated (surroundings.evaluate handle before.program) surroundings.now)) =
          some (.runCompleted (surroundings.evaluate handle before.program) surroundings.now) := by
      simp [event?, found, Phase.eventOn]
    refine ⟨_, answer_evaluating found _ _, ?_⟩
    rw [Surroundings.answer, session_step told, same]
    exact .yielding rfl
  | _ => cases asks

theorem Running.called {session : Session μ}
    (running : Running surroundings before handle .queued session) :
    Running surroundings before handle .onTurn session := by
  cases running with
  | queued => exact .onTurn

theorem Running.yielded {notice : Option Notice} {session : Session μ}
    (running : Running surroundings before handle (.yielding notice) session) :
    Running surroundings before handle (.finished notice) session := by
  cases running with
  | yielding recorded => exact .finished recorded

theorem Running.proceeded (running : Running surroundings before handle phase controller.session)
    (loaded : before.evaluator = .ready handle) (found : controller.phase? place = some phase) :
    ∃ next, (controller.step (.proceed place)).phase? place = some next ∧
      Running surroundings before handle next (controller.step (.proceed place)).session := by
  cases phase with
  | onTurn =>
    generalize same : controller.session = session at running
    cases running
    subst same
    rw [look_invokes found loaded]
    exact ⟨_, phase?_enter_self controller found _, .evaluating⟩
  | yielding notice =>
    have kept : (controller.step (.proceed place)).session = controller.session := by
      simp only [step, proceed, found, Phase.eventDue, goOn]
      rfl
    rw [kept]
    exact ⟨_, proceed_yielding found, running.yielded⟩
  | queued | evaluating | finished =>
    have still : controller.step (.proceed place) = controller := by
      simp only [step, proceed, found, Phase.eventDue, goOn]
    rw [still]
    exact ⟨_, found, running⟩
  | _ => cases running

theorem Running.granted (running : Running surroundings before handle phase controller.session)
    (found : controller.phase? place = some phase) :
    ∃ next, (controller.step .grant).phase? place = some next ∧
      Running surroundings before handle next (controller.step .grant).session := by
  change ∃ next, controller.grant.phase? place = some next ∧
    Running surroundings before handle next controller.grant.session
  have stepped := grant_stepped controller
  generalize controller.grant = after at stepped
  cases stepped with
  | ignored _ => exact ⟨phase, found, running⟩
  | told _ tells _ => cases tells
  | @moved _ mover _ _ _ queued moved _ =>
    cases moved with
    | granted _ =>
      by_cases here : mover = place
      · subst here
        cases found.symm.trans queued
        exact ⟨_, phase?_enter_self controller found _, running.called⟩
      · exact ⟨phase, by rwa [phase?_enter_other controller (Ne.symm here)], running⟩

/-- Whatever the activity of the run does, it goes on as a run does. -/
theorem Running.step {action : Action μ}
    (running : Running surroundings before handle phase controller.session)
    (loaded : before.evaluator = .ready handle) (found : controller.phase? place = some phase)
    (own : Own surroundings controller place action) :
    ∃ next, (controller.step action).phase? place = some next ∧
      Running surroundings before handle next (controller.step action).session := by
  cases own with
  | answer asks =>
    rw [found, Option.bind_some] at asks
    exact running.answered found asks
  | proceed => exact running.proceeded loaded found
  | grant => exact running.granted found

theorem Running.run {after : Controller μ}
    (running : Running surroundings before handle phase controller.session)
    (loaded : before.evaluator = .ready handle) (found : controller.phase? place = some phase)
    (alone : Alone surroundings place controller after) :
    ∃ next, after.phase? place = some next ∧
      Running surroundings before handle next after.session := by
  induction alone generalizing phase with
  | nil => exact ⟨phase, found, running⟩
  | cons own _ ih =>
    obtain ⟨next, there, further⟩ := running.step loaded found own
    exact ih further there

end Steps

/-! ## Notices that stay -/

/-- A run that has its outcome ends with the notice of that outcome. -/
def Concluded (controller : Controller μ) (place : Nat) (notice : Option Notice) : Prop :=
  controller.phase? place = some (.yielding notice) ∨
    controller.phase? place = some (.finished notice)

theorem Concluded.step {controller : Controller μ} {place : Nat} {notice : Option Notice}
    (concluded : controller.Concluded place notice) (action : Action μ) :
    (controller.step action).Concluded place notice := by
  have stepped := step_phase controller action place
  unfold Concluded
  generalize (controller.step action).phase? place = after at stepped
  rcases concluded with found | found
  · rw [found] at stepped
    cases stepped with
    | same => exact .inl rfl
    | told tells => cases tells
    | moved moved => cases moved; exact .inr rfl
  · rw [found] at stepped
    cases stepped with
    | same => exact .inr rfl
    | told tells => cases tells
    | moved moved => cases moved

theorem Concluded.run {controller : Controller μ} {place : Nat} {notice : Option Notice}
    (concluded : controller.Concluded place notice) (actions : List (Action μ)) :
    (controller.run actions).Concluded place notice :=
  run_preserves (fun (reached : Controller μ) action (held : reached.Concluded place notice) =>
    held.step action) concluded actions

/-! ## Failures -/

/-- A run that was begun in a controller has returned, with a message and nothing else done. -/
structure Told (controller : Controller μ) (time : Time) (message : String)
    (after : Controller μ) : Prop where
  result : after.result? controller.operations = some (some ⟨.evaluationError, message⟩)
  session : after.session = { controller.session with lastRunAt := some time }

theorem Running.told {surroundings : Surroundings μ} {controller after : Controller μ} {handle : μ}
    {message : String} (numbered : controller.Numbered)
    (loaded : controller.session.evaluator = .ready handle)
    (fails : surroundings.evaluate handle controller.session.program = .err message)
    (alone : Alone surroundings controller.activities.length (controller.begin .run) after)
    (returned : (after.result? controller.operations).isSome = true) :
    controller.Told surroundings.now message after := by
  have begun : (controller.begin .run).phase? controller.activities.length = some .queued :=
    phase?_begin_length rfl
  obtain ⟨phase, found, running⟩ :=
    Running.run (.queued : Running surroundings _ handle _ (controller.begin .run).session)
      loaded begun alone
  have result := Alone.result?_begin rfl numbered alone found
  generalize same : after.session = session at running
  cases running with
  | @finished reaction recorded =>
    have failed : reaction = { session := { controller.session with
        lastRunAt := some surroundings.now }, notice := some ⟨.evaluationError, message⟩ } := by
      rw [recorded]
      change controller.session.record
        (surroundings.evaluate handle controller.session.program) surroundings.now = _
      rw [fails]
      rfl
    rw [failed] at result same
    exact ⟨result, same⟩
  | _ =>
    rw [result] at returned
    cases returned

/-- What becomes of runs when an evaluation fails with a message. -/
structure FailureTold (surroundings : Surroundings Command) (controller : Controller Command)
    (command : Command) (evaluation : Evaluation) (message : String) : Prop where
  /-- A run that nothing happens beside returns the message, and has done nothing else. -/
  returned : ∀ after,
    Alone surroundings controller.activities.length (controller.begin .run) after →
    (after.result? controller.operations).isSome = true →
    controller.Told surroundings.now message after
  /-- It does return, unless another run is before it. -/
  returns : controller.Unhindered controller.activities.length →
    ∃ after, Alone surroundings controller.activities.length (controller.begin .run) after ∧
      controller.Told surroundings.now message after
  settled : controller.Quiet controller.activities.length →
    controller.Told surroundings.now message ((controller.begin .run).settle surroundings)
  /-- Whatever happens beside a run, its failure changes one thing and gives one notice. -/
  interleaved : ∀ place program time,
    controller.phase? place = some (.evaluating command program) →
    let after := controller.step (.answer place (.evaluated evaluation time))
    after.session = { controller.session with lastRunAt := some time } ∧
      ∀ later, (after.run later).Concluded place (some ⟨.evaluationError, message⟩)

theorem failureTold_of_err {surroundings : Surroundings Command} {controller : Controller Command}
    {command : Command} {message : String} (numbered : controller.Numbered)
    (loaded : controller.session.evaluator = .ready command)
    (failed : surroundings.evaluate command controller.session.program = .err message) :
    FailureTold surroundings controller command (.err message) message := by
  have told : ∀ {after},
      Alone surroundings controller.activities.length (controller.begin .run) after →
      (after.result? controller.operations).isSome = true →
      controller.Told surroundings.now message after :=
    fun alone returned => Running.told numbered loaded failed alone returned
  have ended : ∀ {after notice},
      Alone surroundings controller.activities.length (controller.begin .run) after →
      after.phase? controller.activities.length = some (.finished notice) →
      controller.Told surroundings.now message after := by
    intro after notice alone found
    refine told alone ?_
    rw [Alone.result?_begin rfl numbered alone found]
    rfl
  have first : (controller.begin .run).phase? controller.activities.length = some .queued :=
    phase?_begin_length rfl
  constructor
  case returned => exact fun _ => told
  case returns =>
    intro unhindered
    have begun : (controller.begin .run).Unhindered controller.activities.length :=
      Elsewhere.begin unhindered rfl
    obtain ⟨after, notice, alone, found⟩ := begun.exists_finished first surroundings
    exact ⟨after, alone, ended alone found⟩
  case settled =>
    intro quiet
    have begun : (controller.begin .run).Quiet controller.activities.length :=
      Elsewhere.begin quiet rfl
    obtain ⟨alone, notice, found⟩ := begun.moves_alone first surroundings (distance_le first)
    exact ended alone found
  case interleaved =>
    intro place program time found
    have event : controller.event? (.answer place (.evaluated (.err message) time)) =
        some (.runCompleted (.err message) time) := by
      simp [event?, found, Phase.eventOn]
    exact ⟨session_step event, Concluded.run (.inl (answer_evaluating found _ _))⟩

/-- If the command that evaluates fails, a run ends with one notice that says why, and the session
is as it was but for the time of the run. Whatever the command has printed, the notice is the
same. -/
theorem failed_run_told {session : Session Command} {past : List (Action Command)}
    {controller : Controller Command}
    (reached : controller = ({ session } : Controller Command).run past) {command : Command}
    (loaded : controller.session.evaluator = .ready command) {outcome : Except String Output}
    (fails : Fails outcome) :
    ∃ message, Explains message outcome ∧ ∀ stdout (surroundings : Surroundings Command),
      surroundings.evaluate command controller.session.program = ofRun (printing stdout outcome) →
      FailureTold surroundings controller command (ofRun (printing stdout outcome)) message := by
  have numbered : controller.Numbered := reached ▸ numbered_run session past
  obtain ⟨message, explains, failed⟩ := fails.explained
  refine ⟨message, explains, fun stdout surroundings ran => ?_⟩
  rw [failed] at ran ⊢
  exact failureTold_of_err numbered loaded ran

/-- A process that is killed after it has printed something, with nothing but blanks on its error
stream. -/
theorem failed_run_told_of_killed :
    let killed : Node :=
      .file (.program { stdout := [0x34, 0x32], stderr := [0x20, 0x0A], ending := .signal 9 }) 0o755
    let files : FileSystem := ⟨.directory [("eval".toList, killed)], []⟩
    let command : Command := ⟨" eval", "/eval".toList, []⟩
    let surroundings : Surroundings Command :=
      { fetch := fun path => .error (.notFound path), load := fun _ => .ok command
        evaluate := Command.evaluate files none, now := ⟨"now"⟩ }
    let session : Session Command :=
      { id := "id", program := "1 + 1", evaluator := .ready command, lastResult := "3" }
    let after := (({ session } : Controller Command).begin .run).settle surroundings
    after.result? 0 = some (some ⟨.evaluationError,
        "Evaluator exited with signal: 9 (SIGKILL)"⟩) ∧
      after.session = { session with lastRunAt := some ⟨"now"⟩ } := by
  intro killed files command surroundings session after
  let output : Output := ⟨.signal 9, [], [0x20, 0x0A]⟩
  have ran : surroundings.evaluate command session.program =
      ofRun (printing [0x34, 0x32] (.ok output)) := rfl
  have fails : Fails (.ok output) := by
    intro other same
    cases same
    decide
  have reached : ({ session } : Controller Command) = ({ session } : Controller Command).run [] :=
    rfl
  have quiet : ({ session } : Controller Command).Quiet 0 := by
    intro place phase aside found
    cases found
  obtain ⟨message, explains, told⟩ := failed_run_told reached rfl fails
  obtain ⟨kept, trims, said⟩ := explains.ended output rfl
  rw [trims.eq_trimChars] at said
  have text : message = "Evaluator exited with signal: 9 (SIGKILL)" := said.trans (by decide)
  have settled := (told _ surroundings ran).settled quiet
  rw [text] at settled
  exact ⟨settled.result, settled.session⟩

end Scratchpad.Controller
