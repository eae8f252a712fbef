import Scratchpad.Catalog.Example
import Scratchpad.FileSystem
import Scratchpad.Text.Blank
import Scratchpad.Web

/-!
# Sources of examples

Examples come from memory, from a directory or from the web. A resource is named by a path
relative to the root of its source. A path that names the root's surroundings in so many
words, by a leading slash, a scheme or a segment of two dots, is refused before it is used.
-/

set_option autoImplicit false

namespace Scratchpad.Catalog

/-- Why a resource or a catalog is not to be had. -/
inductive Error where
  | http (failure : Web.Failure)
  | status (url : Url) (code : Nat)
  | io (path : Path) (error : FileError)
  | manifest (report : String)
  | invalidRoot (reason : String)
  | invalidPath (reason : String)
  | notFound (path : String)
  deriving DecidableEq, Repr

def Error.message : Error → String
  | .http failure => "HTTP error: " ++ failure.message
  | .status url code =>
    "Request to " ++ String.ofList url.render ++ " failed with status " ++ toString code
  | .io path error => "Failed to read " ++ String.ofList path ++ ": " ++ error.message
  | .manifest report => "Malformed example manifest: " ++ report
  | .invalidRoot reason => "Invalid examples root: " ++ reason
  | .invalidPath reason => "Invalid resource path: " ++ reason
  | .notFound path => "Resource not found: " ++ path

/-! ## Relative paths -/

/-- Whether a text contains the mark between a scheme and an authority. -/
def hasSchemeMark : List Char → Bool
  | [] => false
  | ':' :: '/' :: '/' :: _ => true
  | _ :: rest => hasSchemeMark rest

/-- Whether a path says that it leads out of the root. -/
def escapes (path : List Char) : Bool :=
  path.head? == some '/' || path.head? == some '\\' || hasSchemeMark path ||
    (Text.split (fun c => c == '/' || c == '\\') path).any (· == ['.', '.'])

/-- A path without the blanks around it, if it stays inside the root. -/
def relativePath (path : String) : Except Error (List Char) :=
  let trimmed := Text.trimChars path.toList
  if trimmed.isEmpty || escapes trimmed then .error (.invalidPath path) else .ok trimmed

/-! ## Sources -/

/-- Where examples come from. -/
inductive Source where
  | memory (resources : List (String × String))
  | directory (root : Path)
  | web (root : Url)
  deriving Repr

structure World where
  files : FileSystem
  web : Web

namespace Source

/-- A source on the web. The path of its root ends in a slash, so that names are added to it
and replace nothing. -/
def ofUrl (root : String) : Except Error Source :=
  match Url.parse root.toList with
  | .ok url => .ok (.web url.withTrailingSlash)
  | .error error => .error (.invalidRoot (root ++ ": " ++ error.message))

def isWebRoot (root : List Char) : Bool :=
  ['h', 't', 't', 'p', ':', '/', '/'].isPrefixOf root ||
    ['h', 't', 't', 'p', 's', ':', '/', '/'].isPrefixOf root

/-- The source that a root names: a URL, or else a directory. -/
def ofRoot (root : String) : Except Error Source :=
  let trimmed := Text.trimChars root.toList
  if trimmed.isEmpty then .error (.invalidRoot "examples root is empty")
  else if isWebRoot trimmed then ofUrl (String.ofList trimmed)
  else .ok (.directory trimmed)

def root : Source → String
  | .memory _ => "memory:"
  | .directory root => String.ofList root
  | .web root => String.ofList root.render

def resolve (root : Url) (path : String) : Except Error Url := do
  let relative ← relativePath path
  match root.join relative with
  | .ok url => return url
  | .error error => throw (.invalidPath (path ++ ": " ++ error.message))

/-- The text at a URL. Anything but a success is an error. -/
def download (web : Web) (url : Url) : Except Error String :=
  match web.get url with
  | .error failure => .error (.http failure)
  | .ok response =>
    if 200 ≤ response.status && response.status < 300 then
      .ok (String.ofList (Text.Utf8.lossy response.body))
    else .error (.status url response.status)

def readBelow (files : FileSystem) (root : Path) (relative : List Char) : Except Error String :=
  (files.readText (root.join relative)).mapError (.io (root.join relative))

/-- The file that is read when a resource is fetched, if one is. -/
def file? (source : Source) (path : String) : Option Path :=
  match source with
  | .directory root => (relativePath path).toOption.map root.join
  | _ => none

def fromMemory (resources : List (String × String)) (path : String) : Except Error String := do
  let relative ← relativePath path
  match resources.lookup (String.ofList relative) with
  | some text => return text
  | none => throw (.notFound (String.ofList relative))

def fetch (world : World) (source : Source) (path : String) : Except Error String :=
  match source with
  | .memory resources => fromMemory resources path
  | .directory root => do
    let relative ← relativePath path
    readBelow world.files root relative
  | .web root => do
    let url ← resolve root path
    download world.web url

/-- The requests that reach a server when a resource is fetched. -/
def requests (world : World) (source : Source) (path : String) : List (List Char) :=
  match source with
  | .web root =>
    match resolve root path with
    | .ok url => world.web.requests url
    | .error _ => []
  | _ => []

end Source

/-! ## Catalogs -/

def manifestFile : String :=
  "index.json"

/-- The examples that a fetched manifest lists. -/
def ofManifest (fetched : Except Error String) : Except Error (List Example) := do
  let text ← fetched
  (readManifest text).mapError fun fault => .manifest (fault.message text.toList)

def Source.catalog (world : World) (source : Source) : Except Error (List Example) :=
  ofManifest (source.fetch world manifestFile)

end Scratchpad.Catalog
