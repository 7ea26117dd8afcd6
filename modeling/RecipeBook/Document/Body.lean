import RecipeBook.Document.Line
import RecipeBook.Metadata
import RecipeBook.Step

/-!
# The body of a document

The body is made of headings and steps. A heading is a line that starts with `# `; a step is a run of
lines that are neither blank nor headings. The steps after a heading form its section, and so do the
steps before the first heading, if there are any. How a step line starts says what it adds.
-/

namespace RecipeBook.Document

/-- What follows a marker and a space; a marker that stands alone has nothing behind it. -/
def marked? (marker line : List Char) : Option (List Char) :=
  match Text.dropStart? marker line with
  | some [] => some []
  | some (' ' :: rest) => some rest
  | _ => none

/-- The trimmed name on a line that must have one. -/
def nameOn (kind : NameLine) (rest : List Char) : Except LoadError String :=
  if Text.trim rest = [] then fail (.emptyName kind) else .ok (.ofList (Text.trim rest))

/-- Adds one line to a step. -/
def addStepLine (step : Step) (line : List Char) : Except LoadError Step :=
  match marked? ['-'] line with
  | some rest => do
    let i ← Ingredient.read step.serves (.ofList rest)
    return { step with ingredients := step.ingredients ++ [i] }
  | none =>
  match marked? ['='] line with
  | some rest => do
    let name ← nameOn .internal rest
    return { step with internal := step.internal ++ [name] }
  | none =>
  if (Text.dropStart? "@nodep".toList line).isSome then .ok { step with independent := true }
  else
  match marked? ['@'] line with
  | some rest => do
    let name ← nameOn .hidden rest
    return { step with hidden := step.hidden ++ [name] }
  | none =>
  match marked? ['-', '>'] line with
  | some rest => do
    let name ← nameOn .yields rest
    return { step with yields := step.yields ++ [lowered name] }
  | none => do
    let parts ← InstructionPart.ofLine step.serves line
    return { step with instructions := step.instructions ++ parts }

/-- Adds lines to a step, each without the blank characters at its end. -/
def addStepLines (step : Step) : List Line → Except LoadError Step
  | [] => .ok step
  | l :: ls => do
    let step ← noted (.line l.index) (addStepLine step (Text.trimEnd l.text))
    addStepLines step ls

/-- The section that is being read, if it is one, behind the others. -/
def close (done : List SectionDraft) (current : SectionDraft) : List SectionDraft :=
  if current.isBlank then done else done ++ [current]

/-- Reads the rest of a body after some sections and the beginning of another. -/
def readBodyFrom (serves : Nat) (done : List SectionDraft) (current : SectionDraft) :
    List Line → Except LoadError (List SectionDraft)
  | [] => .ok (close done current)
  | l :: rest =>
    if l.isBlank then readBodyFrom serves done current rest
    else
      match l.heading? with
      | some text =>
        readBodyFrom serves (close done current) ⟨some (.ofList (Text.trim text)), []⟩ rest
      | none =>
        let place : Place := ⟨current.steps.length, done.length⟩
        match noted (.step place)
            (addStepLines (.empty serves) (l :: rest.takeWhile Line.inStep)) with
        | .error e => .error e
        | .ok step =>
          readBodyFrom serves done { current with steps := current.steps ++ [step] }
            (rest.dropWhile Line.inStep)
termination_by ls => ls.length
decreasing_by
  · simp
  · simp
  · have := (List.dropWhile_sublist Line.inStep (l := rest)).length_le
    simp only [List.length_cons]
    omega

def readBody (serves : Nat) (ls : List Line) : Except LoadError (List SectionDraft) :=
  readBodyFrom serves [] .empty ls

end RecipeBook.Document
