import RecipeBook.Number.Whole
import RecipeBook.Settings

/-!
# Arguments of the command line

The first argument names a command, and the others are its options and operands. An option has a long
name, and may have a short one; its value is joined to it or is the next argument. Behind two hyphens
everything is an operand.
-/

namespace RecipeBook.Cli

/-- What can be asked for. -/
inductive Action
  | serve (portNumber : Option Nat) (host : Option String)
  | check (path : Option String)
  | search (query : String) (lang path : Option String)
  deriving DecidableEq, Repr

/-- Why nothing is done. -/
inductive Refusal
  /-- Help was asked for. -/
  | help
  | misuse
  deriving DecidableEq, Repr

/-- How the arguments are written. -/
def usage : String :=
  "Recipe collection server and checker\n\nUsage:\n" ++
  "  cookbook serve [--port PORT] [--host HOST]\n" ++
  "  cookbook check [--path PATH]\n" ++
  "  cookbook search [--lang LANG] [--path PATH] QUERY\n"

/-- An option with a value. -/
structure Opt where
  long : String
  short : Option Char
  deriving DecidableEq, Repr

/-- What a command takes. -/
structure Usage where
  options : List Opt
  operands : Nat
  deriving DecidableEq, Repr

/-- What a command was given: values by the long names of their options, and operands. -/
structure Given where
  values : List (String × String)
  operands : List String
  deriving DecidableEq, Repr

namespace Given

def none : Given := ⟨[], []⟩

/-- An option is given once. -/
def addValue (g : Given) (o : Opt) (value : String) : Except Refusal Given :=
  if (g.values.lookup o.long).isSome then .error .misuse
  else .ok { g with values := g.values ++ [(o.long, value)] }

def addOperand (g : Given) (u : Usage) (s : String) : Except Refusal Given :=
  if g.operands.length < u.operands then .ok { g with operands := g.operands ++ [s] }
  else .error .misuse

end Given

/-- An argument that starts with a hyphen, and is not one, is no value and no operand. -/
def isOption (s : String) : Bool := s.toList.head? = some '-' && s ≠ "-"

/-- An option and the value that is joined to it, if one is. -/
def readOption (u : Usage) (s : String) : Except Refusal (Opt × Option String) :=
  match s.toList with
  | '-' :: '-' :: long =>
    let name := String.ofList (long.takeWhile (· ≠ '='))
    let value := (long.dropWhile (· ≠ '=')).tail?
    match u.options.find? fun o => o.long = name with
    | some o => .ok (o, value.map String.ofList)
    | none => .error (if s = "--help" then .help else .misuse)
  | '-' :: short :: rest =>
    let value := match rest with
      | [] => Option.none
      | '=' :: rest => some (String.ofList rest)
      | rest => some (String.ofList rest)
    match u.options.find? fun o => o.short = some short with
    | some o => .ok (o, value)
    | none => .error (if short = 'h' then .help else .misuse)
  | _ => .error .misuse

/-- Reads the arguments of a command. -/
def readGiven (u : Usage) (g : Given) : List String → Except Refusal Given
  | [] => .ok g
  | s :: rest =>
    if s = "--" then rest.foldlM (fun g s => g.addOperand u s) g
    else if isOption s then do
      match ← readOption u s, rest with
      | (o, some value), rest => readGiven u (← g.addValue o value) rest
      | (o, Option.none), value :: rest =>
        if isOption value then throw .misuse else readGiven u (← g.addValue o value) rest
      | (_, Option.none), [] => throw .misuse
    else do readGiven u (← g.addOperand u s) rest

def pathOption : Opt := ⟨"path", some 'p'⟩

/-- The number that is listened on; zero may have a minus sign. -/
def portValue (s : String) : Except Refusal Nat :=
  match s.toList with
  | '-' :: digits => if digits ≠ [] ∧ digits.all (· = '0') then .ok 0 else .error .misuse
  | digits =>
    match Number.readWhole (Number.maxOf 16) digits with
    | .ok n => .ok n
    | .error _ => .error .misuse

/-- A path is not empty. -/
def pathValue (s : String) : Except Refusal String := if s = "" then .error .misuse else .ok s

def serveAction (vars : Settings.Variables) (args : List String) :
    Except Refusal Action := do
  let g ← readGiven ⟨[⟨"port", some 'p'⟩, ⟨"host", none⟩], 0⟩ .none args
  let portNumber ← ((g.values.lookup "port").or (vars "PORT")).mapM portValue
  return .serve portNumber ((g.values.lookup "host").or (vars "HOST"))

def checkAction (args : List String) : Except Refusal Action := do
  let g ← readGiven ⟨[pathOption], 0⟩ .none args
  return .check (← (g.values.lookup "path").mapM pathValue)

def searchAction (args : List String) : Except Refusal Action := do
  let g ← readGiven ⟨[⟨"lang", some 'l'⟩, pathOption], 1⟩ .none args
  let path ← (g.values.lookup "path").mapM pathValue
  match g.operands.head? with
  | some query => return .search query (g.values.lookup "lang") path
  | none => throw .misuse

/-- The action that the arguments ask for. Variables stand in for options of the server. -/
def readAction (vars : Settings.Variables) : List String → Except Refusal Action
  | "serve" :: args => serveAction vars args
  | "check" :: args => checkAction args
  | "search" :: args => searchAction args
  | s :: _ => .error (if s = "help" ∨ s = "--help" ∨ s = "-h" then .help else .misuse)
  | [] => .error .misuse

end RecipeBook.Cli
