import RecipeBook.Document.Line
import RecipeBook.Metadata.Builder

/-!
# The header of a document

The header is everything before the first blank line. Each line is a command and its value; the
value of `desc` and `note` goes on in the lines after it that start with two spaces.
-/

namespace RecipeBook.Document

inductive Command
  | name
  | serves
  | desc
  | note
  | tags
  | related
  | attrib
  | hide
  | version
  deriving DecidableEq, Repr

namespace Command

def label : Command → String
  | name => "name"
  | serves => "serves"
  | desc => "desc"
  | note => "note"
  | tags => "tags"
  | related => "related"
  | attrib => "attrib"
  | hide => "hide"
  | version => "version"

def all : List Command := [name, serves, desc, note, tags, related, attrib, hide, version]

def ofLabel? (s : String) : Option Command := all.find? (·.label = s)

/-- The value may go on in the lines that follow. -/
def isContinued (c : Command) : Bool := c = desc || c = note

end Command

/-- The command of a line and its value: what is before the first blank character and what is after
it, blank characters at the end of the line apart. -/
def commandOf (line : List Char) : String × String :=
  match Text.splitAtFirst Text.isBlank (Text.trimEnd line) with
  | some (command, value) => (.ofList command, .ofList value)
  | none => (.ofList (Text.trimEnd line), "")

/-- A text with one more piece behind a space, or the piece alone if the text is empty. -/
def appendPiece (text piece : List Char) : List Char :=
  if text = [] then piece else text ++ ' ' :: piece

/-- The trimmed pieces of a value and the lines that continue it. -/
def continuedText (value : String) (continuations : List Line) : String :=
  .ofList (continuations.foldl (fun text l => appendPiece text (Text.trim l.text))
    (Text.trim value.toList))

/-- The trimmed value of a command that needs one. -/
def requiredValue (c : Command) (value : String) : Except LoadError String :=
  if trimmed value = "" then fail (.valueMissing c.label) else .ok (trimmed value)

def readVersion (value : String) : Except LoadError Nat :=
  match ServesLine.readCount (trimmed value) with
  | .ok n => .ok n
  | .error fault => fail (.versionMalformed (trimmed value) fault)

/-- Adds what one command says. -/
def applyCommand (b : Builder) (c : Command) (value : String) (continuations : List Line) :
    Except LoadError Builder :=
  match c with
  | .name => do b.add (.name (← requiredValue c value))
  | .serves =>
    match b.addServesLine value with
    | (b, none) => .ok b
    | (_, some fault) => .error fault
  | .desc => b.add (.description (continuedText value continuations))
  | .note => b.add (.note (continuedText value continuations))
  | .tags => b.add (.tags (splitList value))
  | .related => b.add (.related ((splitList value).map normalizeId))
  | .attrib => do b.add (.attribution (← requiredValue c value))
  | .hide => b.add (.hideFromAll true)
  | .version => do b.add (.schemaVersion (← readVersion value))

/-- The lines that continue a command line, out of those that come after it. -/
def continuationsOf (command : String) (rest : List Line) : List Line :=
  match Command.ofLabel? command with
  | some c => if c.isContinued then rest.takeWhile Line.isContinuation else []
  | none => []

/-- Adds what a line with its continuations says. -/
def applyLine (b : Builder) (l : Line) (continuations : List Line) : Except LoadError Builder :=
  let (command, value) := commandOf l.text
  noted (.line l.index) <|
    match Command.ofLabel? command with
    | some c => applyCommand b c value continuations
    | none => fail (.unknownCommand command)

theorem length_continuationsOf_le (command : String) (rest : List Line) :
    (continuationsOf command rest).length ≤ rest.length := by
  unfold continuationsOf
  split
  · split
    · exact (List.takeWhile_sublist _).length_le
    · simp
  · simp

/-- Reads header lines up to the first blank one. Gives the lines from that one on. -/
def readHeader (b : Builder) : List Line → Except LoadError (Builder × List Line)
  | [] => .ok (b, [])
  | l :: rest =>
    if l.isBlank then .ok (b, l :: rest)
    else
      let continuations := continuationsOf (commandOf l.text).1 rest
      match applyLine b l continuations with
      | .error e => .error e
      | .ok b => readHeader b (rest.drop continuations.length)
termination_by ls => ls.length
decreasing_by simp only [List.length_drop, List.length_cons]; omega

end RecipeBook.Document
