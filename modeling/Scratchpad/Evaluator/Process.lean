import Scratchpad.Evaluator.Outcome
import Scratchpad.FileSystem
import Scratchpad.Text.Blank
import Scratchpad.Text.Lines

/-!
# Evaluation by a process

What a process wrote and how it ended, read as an evaluation. After a successful exit the
last line that says something is the value and the lines before it are what was printed.
After any other end the error stream is the message, or the end itself if that stream is
blank.
-/

set_option autoImplicit false

namespace Scratchpad

namespace Ending

def signalNames : List (Nat × String) :=
  [(1, "SIGHUP"), (2, "SIGINT"), (3, "SIGQUIT"), (4, "SIGILL"), (5, "SIGTRAP"), (6, "SIGABRT"),
    (7, "SIGBUS"), (8, "SIGFPE"), (9, "SIGKILL"), (10, "SIGUSR1"), (11, "SIGSEGV"),
    (12, "SIGUSR2"), (13, "SIGPIPE"), (14, "SIGALRM"), (15, "SIGTERM"), (16, "SIGSTKFLT"),
    (17, "SIGCHLD"), (18, "SIGCONT"), (19, "SIGSTOP"), (20, "SIGTSTP"), (21, "SIGTTIN"),
    (22, "SIGTTOU"), (23, "SIGURG"), (24, "SIGXCPU"), (25, "SIGXFSZ"), (26, "SIGVTALRM"),
    (27, "SIGPROF"), (28, "SIGWINCH"), (29, "SIGIO"), (30, "SIGPWR"), (31, "SIGSYS")]

/-- The name of a signal after its number, if it has one. -/
def signalName (number : Nat) : String :=
  match signalNames.lookup number with
  | some name => " (" ++ name ++ ")"
  | none => ""

def message : Ending → String
  | .exit code => "exit status: " ++ toString code
  | .signal number dumped =>
    "signal: " ++ toString number ++ signalName number ++ if dumped then " (core dumped)" else ""

/-- Only an exit with status zero is a success. -/
def isSuccess (ending : Ending) : Bool :=
  ending == .exit 0

end Ending

namespace Evaluator

structure Output where
  ending : Ending
  stdout : List UInt8
  stderr : List UInt8
  deriving DecidableEq, Repr

/-- A line without anything to see. -/
def isBlankLine (line : List Char) : Bool :=
  line.all Text.isBlank

/-- The evaluation that lines of output stand for, the last line first. -/
def ofReversedLines (lines : List (List Char)) : Evaluation :=
  match lines.dropWhile isBlankLine with
  | [] => .ok ""
  | [value] => .ok (String.ofList value)
  | value :: earlier =>
    ⟨.ok (String.ofList value), some (String.ofList (Text.join ['\n'] earlier.reverse))⟩

def ofStdout (stdout : List UInt8) : Evaluation :=
  ofReversedLines (Text.lines (Text.Utf8.lossy stdout)).reverse

def failureMessage (ending : Ending) (stderr : List UInt8) : String :=
  match Text.trimChars (Text.Utf8.lossy stderr) with
  | [] => "Evaluator exited with " ++ ending.message
  | message => String.ofList message

def Output.evaluation (output : Output) : Evaluation :=
  if output.ending.isSuccess then ofStdout output.stdout
  else .err (failureMessage output.ending output.stderr)

/-- The evaluation of a run that may not have come about, for a reason given in words. -/
def ofRun : Except String Output → Evaluation
  | .ok output => output.evaluation
  | .error reason => .err ("Failed to run evaluator: " ++ reason)

end Evaluator

end Scratchpad
