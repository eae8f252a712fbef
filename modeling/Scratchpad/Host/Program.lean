import Scratchpad.Evaluator.Command
import Scratchpad.Host.Serve
import Scratchpad.Settings.Resolve

/-!
# The program

The environment gives settings, settings give a host and what stands around it, and the host
serves the input. The program fails when there are no settings to start with, or when its input
is no text.
-/

set_option autoImplicit false

namespace Scratchpad.Host

open Controller (Surroundings)
open Text.Utf8 (Malformed)

structure Setup where
  settings : Settings
  source : Catalog.Source
  searchPath : Option (List UInt8)

namespace Setup

/-- Read the settings that an environment gives, and find the source of the examples. -/
def ofEnvironment (files : FileSystem) (environment : Environment) :
    Except SetupError Setup := do
  let settings ← Settings.resolve files environment
  let source ← settings.source
  return { settings, source, searchPath := environment.searchPath }

/-- The evaluator of the settings, if its executable is found. -/
def evaluator (setup : Setup) (files : FileSystem) :
    Except Evaluator.LoadError Evaluator.Command :=
  Evaluator.Command.load files setup.searchPath setup.settings.evaluator.command
    setup.settings.evaluator.args

def surroundings (setup : Setup) (world : Catalog.World) (now : Session.Time) :
    Surroundings Evaluator.Command where
  fetch := setup.source.fetch world
  load _ := setup.evaluator world.files
  evaluate command program :=
    Evaluator.Command.evaluate world.files setup.searchPath command program
  now := now

def host (setup : Setup) (session : String) : Host Evaluator.Command :=
  Host.new session setup.settings.defaultProgram

end Setup

/-- Why the program stops before its input ends. -/
inductive Failure where
  | setup (error : SetupError)
  | input (error : Malformed)
  deriving DecidableEq, Repr

namespace Failure

def message : Failure → String
  | .setup error => error.message
  | .input error => error.message

/-- The last thing that is said about a failure. -/
def report (failure : Failure) : String :=
  "Error: " ++ failure.message

end Failure

def failure? {μ : Type} (host : Host μ) : Option Failure :=
  match host.closing with
  | some (.malformed error) => some (.input error)
  | _ => none

structure Record where
  messages : List Message := []
  log : List Log.Entry := []
  failure : Option Failure := none

def Record.exitCode (record : Record) : Nat :=
  if record.failure.isSome then 1 else 0

structure Circumstances where
  world : Catalog.World
  environment : Environment
  /-- The name of the session. -/
  session : String
  /-- The time at which every run of a program ends. -/
  now : Session.Time

/-- Run the program on its input, with the start over before it or not begun at all. -/
def runProgram (circumstances : Circumstances) (starts : Bool) (input : List UInt8) : Record :=
  match Setup.ofEnvironment circumstances.world.files circumstances.environment with
  | .error error => { failure := some (.setup error) }
  | .ok setup =>
    let surroundings := setup.surroundings circumstances.world circumstances.now
    let host := setup.host circumstances.session
    let host := if starts then host.startUp surroundings else host
    let host := host.serve surroundings input
    { messages := host.sent, log := host.controller.log, failure := host.failure? }

end Scratchpad.Host
