import Std.Time.Format
import Scratchpad.Host.Program

/-!
# The command line

The program on its own: settings from the environment, requests from standard input, messages to
standard output and the log to the error stream. What the host does is decided elsewhere; here
calls are answered one after the other, by looking at the file that each one needs.

Nothing here starts other programs or opens connections. A command is looked up where there are
no executables, and the web is unreachable.
-/

set_option autoImplicit false

namespace Scratchpad.Console

open Evaluator (Command)
open Host (Failure Setup)

/-! ## Files -/

/-- The names, the last one first, to which a part of a path leads. -/
def follow (names : List (List Char)) : List Char → List (List Char)
  | [] | ['.'] => names
  | ['.', '.'] => names.tail
  | name => name :: names

/-- A file system with nothing but a node at a path and the directories on the way. -/
def picture (path : Path) (node : Node) : FileSystem :=
  let (names, tree) := path.parts.foldl
    (fun (names, tree) part =>
      let names := follow names part
      (names, (Node.directory []).place names.reverse tree))
    (([] : List (List Char)), Node.directory [])
  ⟨node.place names.reverse tree, []⟩

def blank : FileSystem :=
  ⟨.directory [], []⟩

def look (path : Path) : IO FileSystem := do
  try
    let content ← IO.FS.readBinFile (String.ofList path)
    return picture path (.file (.bytes content.toList) 0o644)
  catch
    | .inappropriateType .. => return picture path (.directory [])
    | _ => return blank

/-- Look at what a path leads to, if there is one to look at. -/
def look? : Option Path → IO FileSystem
  | some path => look path
  | none => return blank

/-! ## The environment -/

def setting (name : String) : IO (Option (List UInt8)) := do
  return (← IO.getEnv name).map fun value => value.toUTF8.toList

def environment : IO Environment := do
  return {
    searchPath := ← setting "PATH"
    configFile := ← setting "PLAYGROUND_CONFIG"
    examplesRoot := ← setting "PLAYGROUND_EXAMPLES_ROOT"
    command := ← setting "PLAYGROUND_MODULE_COMMAND" }

/-- The time of day, in universal time. -/
def now : IO Session.Time := do
  let moment := Std.Time.DateTime.ofTimestamp (← Std.Time.Timestamp.now) .UTC
  return ⟨moment.format "uuuu-MM-dd'T'HH:mm:ss.SSSSSSSSS'Z'"⟩

def hexByte (byte : UInt8) : List Char :=
  [Nat.digitChar (byte.toNat / 16), Nat.digitChar (byte.toNat % 16)]

/-- A random name for the session, in five groups of hexadecimal digits. -/
def sessionName : IO String := do
  let random := (← IO.getRandomBytes 16).toList
  let marked := (random.modify 6 fun byte => byte &&& 0x0F ||| 0x40).modify 8 fun byte =>
    byte &&& 0x3F ||| 0x80
  let group (start size : Nat) := ((marked.drop start).take size).flatMap hexByte
  return String.ofList (Text.join ['-']
    [group 0 4, group 4 2, group 6 2, group 8 2, group 10 6])

/-! ## Serving -/

/-- The file that a call needs. -/
def fileOf (setup : Setup) : Controller.Call Command → Option Path
  | .fetch path => setup.source.file? path
  | _ => none

/-- Let the controller settle, looking at files as they are needed. -/
partial def settle (setup : Setup) (host : Host Command) : IO (Host Command) := do
  match host.controller.move? fun _ => true with
  | none => return host
  | some move =>
    let files ← look? ((move.call? host.controller).bind (fileOf setup))
    let surroundings := setup.surroundings ⟨files, Web.unreachable⟩ (← now)
    settle setup { host with
      controller := host.controller.step (move.action surroundings host.controller) }

def flush (host : Host Command) : IO (Host Command) := do
  let out ← IO.getStdout
  let err ← IO.getStderr
  for entry in host.controller.log do
    let fields := entry.fields.map fun (name, value) => " " ++ name ++ "=" ++ value
    err.putStrLn (entry.level.label ++ " " ++ entry.message ++ String.join fields)
  out.putStr (String.ofList (Host.Message.text host.queue))
  out.flush
  return { host with queue := [], controller := { host.controller with log := [] } }

/-- The next record of the input, whose first bytes were read; nothing when the input has ended. -/
partial def nextRecord (input : IO.FS.Stream) (bytes : List UInt8) : IO (List UInt8) := do
  match (← input.read 1).toList with
  | [] => return bytes.reverse
  | byte :: _ =>
    if byte == Host.recordEnd then return (byte :: bytes).reverse
    else nextRecord input (byte :: bytes)

/-- Serve the input until it ends. -/
partial def serve (setup : Setup) (input : IO.FS.Stream) (host : Host Command) :
    IO (Host Command) := do
  match ← nextRecord input [] with
  | [] => return host.step .read
  | record =>
    let host ← settle setup ({ host with input := [record] }.step .read)
    let host ← flush host.announce.respond
    if host.closing.isSome then return host else serve setup input host

def run : IO UInt32 := do
  let environment ← environment
  let files ← look? (environment.configFile.map Text.Utf8.lossy)
  match Setup.ofEnvironment files environment with
  | .error error =>
    IO.eprintln (Failure.setup error).report
    return 1
  | .ok setup =>
    let host ← settle setup ((setup.host (← sessionName)).step .start)
    let host ← flush (host.step .report)
    let host ← serve setup (← IO.getStdin) host
    match host.failure? with
    | some failure =>
      IO.eprintln failure.report
      return 1
    | none => return 0

end Scratchpad.Console

def main : IO UInt32 :=
  Scratchpad.Console.run
