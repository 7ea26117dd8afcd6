import RecipeBook.IoFault
import RecipeBook.Metadata.Field
import RecipeBook.Number.Decimal
import RecipeBook.RecordFault
import RecipeBook.Text.Quoted

/-!
# Recipes that cannot be loaded

A `LoadError` is a problem together with the notes that say where it is, innermost first. A problem
knows what caused it, if something did. `LoadError.diagnosis` puts all three into words.
-/

namespace RecipeBook

/-- The place of a step: its position in its section and the position of the section. -/
structure Place where
  ordinal : Nat
  sectionIndex : Nat
  deriving DecidableEq, Repr

namespace Place

/-- Steps and sections are counted from one for the reader. -/
def describe (p : Place) : String :=
  "in step #" ++ toString (p.ordinal + 1) ++ " of section #" ++ toString (p.sectionIndex + 1)

end Place

inductive Note
  | line (index : Nat)
  | step (place : Place)
  | recipe (fileName : String)
  deriving DecidableEq, Repr

namespace Note

def describe : Note → String
  | line index => "in line " ++ toString (index + 1)
  | step place => place.describe
  | recipe fileName => "in recipe '" ++ fileName ++ "'"

end Note

/-- The step lines that name something and must not be empty. -/
inductive NameLine
  | internal
  | hidden
  | yields
  deriving DecidableEq, Repr

namespace NameLine

def label : NameLine → String
  | internal => "internal ingredient"
  | hidden => "hidden ingredient"
  | yields => "yield"

end NameLine

inductive Problem
  | unclosedQuote (line : String)
  | trailingBackslash (line : String)
  | servingCountMissing
  | servingCountMalformed (count : String) (fault : WholeFault)
  | servingCountZero
  | incrementMalformed (increment : String) (fault : DecimalFault)
  | incrementNotWhole (increment : String) (fault : WholeFault)
  | tooManyServesFields (parts : List String)
  | alreadySet (field : Field) (old new : String)
  | nameMissing (id lang : String)
  | servesMissing (id lang : String)
  | wrongVersion (id lang : String) (version : Nat)
  | valueMissing (command : String)
  | versionMalformed (version : String) (fault : WholeFault)
  | unknownCommand (command : String)
  | emptyIngredient (line : String)
  | ingredientAmount (amount line : String) (parts : List String) (fault : DecimalFault)
  | scalarAmount (token : String) (fault : DecimalFault)
  | emptyName (kind : NameLine)
  | firstStepRefers (references : List String)
  | independentStepRefers (references : List String)
  | unknownReference (reference : String) (candidates : List String)
  | yieldRedeclared (key : String) (previous : Place)
  | yieldUnused (key : String)
  | unreadable (fault : IoFault)
  | invalidLegacy (fault : RecordFault)
  | unreadableLegacy (fault : IoFault)
  | noExtension
  | noLanguageTag (fileName extension : String)
  | duplicateRecipe (id lang fileName : String)
  | unopened (location : String) (fault : IoFault)
  | walkFailed (folder cause : String)
  deriving DecidableEq, Repr

/-- Suggestions for a misspelled name, on a line of their own if there are any. -/
def suggestions (candidates : List String) : String :=
  if candidates = [] then ""
  else "\n  Possibly misspelled, candidates: " ++ ", ".intercalate candidates

namespace Problem

def trimmedEnd (line : String) : String := .ofList (Text.trimEnd line.toList)

def listed (parts : List String) : String :=
  .ofList (Text.quotedList (parts.map String.toList))

def message : Problem → String
  | unclosedQuote line => "No closing quotation in '" ++ trimmedEnd line ++ "'"
  | trailingBackslash line =>
    "No escaped character after trailing backslash in '" ++ trimmedEnd line ++ "'"
  | servingCountMissing => "`serves` needs a serving count"
  | servingCountMalformed count _ => "Serving count '" ++ count ++ "' is not a whole number"
  | servingCountZero => "Serving count must be at least 1"
  | incrementMalformed increment _ => "Serving increment '" ++ increment ++ "' is not a number"
  | incrementNotWhole increment _ =>
    "Serving increment '" ++ increment ++ "' is not a whole number"
  | tooManyServesFields parts => "Too many fields in `serves` line: " ++ listed parts
  | alreadySet field old new =>
    "Recipe meta attribute " ++ field.label ++ " already set\n  old: " ++ old ++ "\n  new: " ++ new
  | nameMissing id lang => "Recipe " ++ id ++ "." ++ lang ++ ": name is required"
  | servesMissing id lang =>
    "Recipe " ++ id ++ "." ++ lang ++ ": serving size (`serves`) is required"
  | wrongVersion id lang version =>
    "Recipe " ++ id ++ "." ++ lang ++ ": schema version (`version`) expected to be 2, is " ++
      toString version
  | valueMissing command => "`" ++ command ++ "` needs a value"
  | versionMalformed version _ => "Schema version '" ++ version ++ "' is not a number"
  | unknownCommand command => "Unknown recipe meta attribute '" ++ command ++ "'"
  | emptyIngredient line => "Empty ingredient line '" ++ trimmedEnd line ++ "'"
  | ingredientAmount amount line parts _ =>
    "Ingredient amount '" ++ amount ++ "' is not a number in line '" ++ trimmedEnd line ++
      "' (parsed as " ++ listed parts ++ ")"
  | scalarAmount token _ => "Scalar '" ++ token ++ "' is not a number"
  | emptyName kind => "Empty " ++ kind.label ++ " line"
  | firstStepRefers references =>
    "The first step cannot use yields of other steps: " ++ ", ".intercalate references
  | independentStepRefers references =>
    "A step marked @nodep cannot use yields of other steps: " ++ ", ".intercalate references
  | unknownReference reference candidates =>
    "Step uses '" ++ reference ++ "' but no earlier step yields it" ++ suggestions candidates
  | yieldRedeclared key previous =>
    "Yield '" ++ key ++ "' is already declared " ++ previous.describe
  | yieldUnused key => "Yield '" ++ key ++ "' declared but never used"
  | unreadable _ => "Failed to read recipe"
  | invalidLegacy fault => "Invalid legacy recipe: " ++ fault.message
  | unreadableLegacy fault => "Invalid legacy recipe: " ++ fault.message
  | noExtension => "Recipe file without extension"
  | noLanguageTag fileName extension =>
    "Recipe file name '" ++ fileName ++ "' has no language tag, expected <name>.<lang>." ++
      extension
  | duplicateRecipe id lang fileName =>
    "Duplicate recipe " ++ id ++ " for language " ++ lang ++ ", already loaded from '" ++
      fileName ++ "'"
  | unopened location _ => "Failed to open " ++ location
  | walkFailed folder _ => "Failed to walk " ++ folder

/-- What a problem comes from, in the words of the reading that failed. -/
def cause : Problem → Option String
  | servingCountMalformed _ fault => some fault.message
  | incrementMalformed _ fault => some fault.message
  | incrementNotWhole _ fault => some fault.message
  | versionMalformed _ fault => some fault.message
  | ingredientAmount _ _ _ fault => some fault.message
  | scalarAmount _ fault => some fault.message
  | unreadable fault => some fault.message
  | invalidLegacy fault => some fault.message
  | unreadableLegacy fault => some fault.message
  | unopened _ fault => some fault.message
  | walkFailed _ cause => some cause
  | _ => none

end Problem

/-- An error in words: a message, notes on where it is, innermost first, and a cause. -/
structure Diagnosis where
  message : String
  notes : List String
  cause : Option String
  deriving DecidableEq, Repr

namespace Diagnosis

/-- The message, then every note and the cause on an indented line of its own. -/
def report (d : Diagnosis) : String :=
  d.message ++ String.join (d.notes.map ("\n  " ++ ·)) ++
    (d.cause.map ("\n  caused by: " ++ ·)).getD ""

end Diagnosis

structure LoadError where
  problem : Problem
  /-- Innermost first. -/
  notes : List Note
  deriving DecidableEq, Repr

namespace LoadError

def of (problem : Problem) : LoadError := ⟨problem, []⟩

def withNote (note : Note) (e : LoadError) : LoadError := { e with notes := e.notes ++ [note] }

def message (e : LoadError) : String := e.problem.message

def diagnosis (e : LoadError) : Diagnosis :=
  ⟨e.message, e.notes.map Note.describe, e.problem.cause⟩

end LoadError

/-- Fails with a problem that has no notes yet. -/
def fail {α : Type} (problem : Problem) : Except LoadError α := .error (.of problem)

/-- Adds a note to the error, if there is one. -/
def noted {α : Type} (note : Note) (result : Except LoadError α) : Except LoadError α :=
  result.mapError (·.withNote note)

variable {α β : Type} {result : Except LoadError α} {a : α}

theorem bind_eq_ok {f : α → Except LoadError β} {b : β} :
    result >>= f = .ok b ↔ ∃ a, result = .ok a ∧ f a = .ok b := by
  cases result <;> simp [bind, Except.bind]

theorem toOption_eq_some {ε : Type} {result : Except ε α} :
    result.toOption = some a ↔ result = .ok a := by
  cases result <;> simp [Except.toOption]

theorem noted_eq_ok {note : Note} : noted note result = .ok a ↔ result = .ok a := by
  cases result with
  | error e => exact ⟨nofun, nofun⟩
  | ok b => exact Iff.rfl

end RecipeBook
