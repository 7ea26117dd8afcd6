import RecipeBook.Cli.Arguments
import RecipeBook.Command.Check
import RecipeBook.Command.Search
import RecipeBook.EnvFile
import RecipeBook.Store

/-!
# The command line

`run` does what the arguments ask for. It reaches files through a `System` only, in whatever monad
that works, and tells what is to be printed and how to exit, or that requests are to be served.
-/

namespace RecipeBook.Cli

/-- How files are reached. -/
structure System (m : Type → Type) where
  /-- The file with variables, if there is one. -/
  envFile : m (Option ByteArray)
  readFile : String → m (Except IoFault ByteArray)
  /-- The folder at a location, if there is one. -/
  folder : String → m (Option FileTree)

/-- The system whose current folder is a file tree, outside which there is nothing. -/
def System.inFolder (tree : FileTree) : System Id where
  envFile := tree.file? [".env"]
  readFile := (Folder.top tree).read
  folder location := ((Folder.top tree).enter? location).bind Folder.contents?

inductive Outcome
  | refused (refusal : Refusal)
  | ended (code : Nat) (output errors : String)
  /-- Requests are to be served. -/
  | serving (settings : Settings) (store : Store)

/-- Causes, each on an indented line; several are numbered. -/
def causeLines (causes : List String) : String :=
  let numbered := 1 < causes.length
  String.join (causes.zipIdx.map fun (cause, n) =>
    let lines := (Text.splitOn '\n' cause.toList).map String.ofList
    let first := if numbered then "    " ++ toString n ++ ": " else "    "
    let others := if numbered then "       " else "    "
    "\n" ++ first ++ ("\n" ++ others).intercalate lines)

/-- An error and what caused it, outermost first. -/
def errorText (message : String) (causes : List String) : String :=
  "Error: " ++ message ++
    (if causes = [] then "" else "\n\nCaused by:" ++ causeLines causes) ++ "\n"

/-- What a failure comes from. -/
def causes : Failure → List String
  | .io fault => [fault.message]
  | .load d => d.message :: d.cause.toList
  | _ => []

def failed (f : Failure) : Outcome := .ended 1 "" (errorText f.describe (causes f))

/-- A failure in a step that has a name. -/
def failedIn (step : String) (f : Failure) : Outcome :=
  .ended 1 "" (errorText step (f.describe :: causes f))

def checked (location : String) (folder : Option FileTree) : Outcome :=
  match RecipeBook.Command.check location folder with
  | .ok (summary, text) => .ended (if summary.isOk then 0 else 1) text ""
  | .error f => failed f

def searched (location : String) (folder : Option FileTree) (query : String)
    (lang : Option String) : Outcome :=
  match RecipeBook.Command.search location folder query lang with
  | .ok rs => .ended 0 (RecipeBook.Command.searchTable rs) ""
  | .error f => failed f

def served (settings : Settings) (folder : Option FileTree) : Outcome :=
  match Store.openAt settings.location folder with
  | .ok (store, _) => .serving settings store
  | .error f => failedIn "Failed to load cookbook" f

/-- The settings with what the options of an action say. -/
def withOptions (s : Settings) : Action → Settings
  | .serve portNumber host =>
    { s with portNumber := portNumber.getD s.portNumber, host := host.getD s.host }
  | .check path => { s with location := path.getD s.location }
  | .search _ _ path => { s with location := path.getD s.location }

/-- What an action does with usable settings. -/
def perform (settings : Settings) (folder : Option FileTree) : Action → Outcome
  | .serve _ _ => served settings folder
  | .check _ => checked settings.location folder
  | .search query lang _ => searched settings.location folder query lang

variable {m : Type → Type} [Monad m]

/-- The variables together with those of the file. -/
def allVariables (system : System m) (vars : EnvFile.Variables) : m EnvFile.Variables := do
  match ← system.envFile with
  | some bytes => return EnvFile.load vars bytes
  | none => return vars

def loadSettings (system : System m) (vars : Settings.Variables) :
    m (Except Failure Settings) := do
  match vars Settings.configVariable with
  | some path =>
    let content ← system.readFile path
    return Settings.load vars fun _ => content
  | none => return Settings.load vars fun _ => .error .notFound

def run (system : System m) (vars : EnvFile.Variables) (args : List String) : m Outcome := do
  let vars ← allVariables system vars
  let lookup : Settings.Variables := fun name => vars.lookup name
  match readAction lookup args with
  | .error refusal => return .refused refusal
  | .ok action =>
    match ← loadSettings system lookup with
    | .error f => return failedIn "Failed to load settings" f
    | .ok settings =>
      let settings := withOptions settings action
      let folder ← system.folder settings.location
      match settings.check folder.isSome with
      | .error f => return failed f
      | .ok () => return perform settings folder action

end RecipeBook.Cli
