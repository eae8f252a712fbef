import Scratchpad.Json.Record
import Scratchpad.Text.Blank

/-!
# Settings

What the program is told before it starts: where the examples are, which evaluator to run,
what the editor shows at first, and what to log. Every setting has a default, and a file or
a part of a file that leaves one out keeps it.
-/

set_option autoImplicit false

namespace Scratchpad

open Json (Draft Fault Shape Value)

/-- The evaluator to load and the arguments it is always given. -/
structure EvaluatorSettings where
  command : String := "rufus-eval"
  args : List String := []
  deriving DecidableEq, Repr

structure Settings where
  examplesRoot : String := "rufus/examples"
  evaluator : EvaluatorSettings := {}
  defaultProgram : String :=
    "let twice = fun f x -> f (f x) in\nlet inc = fun x -> x + 1 in\ntwice inc 0"
  logFilter : String := "info"
  deriving DecidableEq, Repr

namespace EvaluatorSettings

def toValue (settings : EvaluatorSettings) : Value :=
  .object [("command", .string settings.command), ("args", .array (settings.args.map .string))]

structure Form where
  command : Option String := none
  args : Option (List String) := none

/-- The settings of a form, with defaults for what it lacks. -/
def ofForm (form : Form) : EvaluatorSettings :=
  let default : EvaluatorSettings := {}
  ⟨form.command.getD default.command, form.args.getD default.args⟩

def shape : Shape Form EvaluatorSettings where
  name := "ModuleConfig"
  fields :=
    [.of "command" .defaulted Form.command (fun form text => { form with command := some text })
        Draft.text,
      .of "args" .defaulted Form.args (fun form args => { form with args := some args })
        (Draft.list Draft.text)]
  empty := {}
  finish form := .ok (ofForm form)

end EvaluatorSettings

namespace Settings

def toValue (settings : Settings) : Value :=
  .object [("examples_root", .string settings.examplesRoot), ("module", settings.evaluator.toValue),
    ("default_program", .string settings.defaultProgram),
    ("log_filter", .string settings.logFilter)]

structure Form where
  examplesRoot : Option String := none
  evaluator : Option EvaluatorSettings := none
  defaultProgram : Option String := none
  logFilter : Option String := none

/-- The settings of a form, with defaults for what it lacks. -/
def ofForm (form : Form) : Settings :=
  let default : Settings := {}
  ⟨form.examplesRoot.getD default.examplesRoot, form.evaluator.getD default.evaluator,
    form.defaultProgram.getD default.defaultProgram, form.logFilter.getD default.logFilter⟩

def shape : Shape Form Settings where
  name := "Config"
  fields :=
    [.of "examples_root" .defaulted Form.examplesRoot
        (fun form text => { form with examplesRoot := some text }) Draft.text,
      .of "module" .defaulted Form.evaluator
        (fun form evaluator => { form with evaluator := some evaluator })
        EvaluatorSettings.shape.read,
      .of "default_program" .defaulted Form.defaultProgram
        (fun form text => { form with defaultProgram := some text }) Draft.text,
      .of "log_filter" .defaulted Form.logFilter
        (fun form text => { form with logFilter := some text }) Draft.text]
  empty := {}
  finish form := .ok (ofForm form)

def ofText (text : String) : Except Fault Settings :=
  Json.read shape.read text

inductive Invalid where
  | noExamplesRoot
  | noCommand
  deriving DecidableEq, Repr

def Invalid.message : Invalid → String
  | .noExamplesRoot => "examples_root cannot be empty"
  | .noCommand => "module.command cannot be empty"

/-- Settings can be used when both the root of the examples and the command say something. -/
def validate (settings : Settings) : Except Invalid Unit :=
  if Text.allBlank settings.examplesRoot then .error .noExamplesRoot
  else if Text.allBlank settings.evaluator.command then .error .noCommand
  else .ok ()

end Settings

end Scratchpad
