import RecipeBook.Library.Load

/-!
# Checking a library

A check loads a folder and prints every error and every warning, and how many there were.
-/

namespace RecipeBook.Command

structure CheckSummary where
  recipes : Nat
  errors : Nat
  warnings : Nat
  deriving DecidableEq, Repr

namespace CheckSummary

/-- Warnings are no reason to fail. -/
def isOk (s : CheckSummary) : Bool := s.errors = 0

def describe (s : CheckSummary) : String :=
  toString s.recipes ++ " recipes loaded, " ++ toString s.errors ++ " errors, " ++
    toString s.warnings ++ " warnings"

end CheckSummary

/-- A text in the color of the code, which ends with the text. -/
def colored (code text : String) : String := "\x1b[" ++ code ++ "m" ++ text ++ "\x1b[0m"

def errorLine (e : LoadError) : String := colored "31" "✗" ++ " " ++ e.diagnosis.report ++ "\n"

def warningLine (w : Warning) : String := colored "33" "!" ++ " " ++ w.describe ++ "\n"

def reportText (r : Report) : String :=
  String.join (r.errors.map errorLine) ++ String.join (r.warnings.map warningLine)

/-- Checks the folder at a location: the summary, and what is printed. -/
def check (location : String) (folder : Option FileTree) :
    Except Failure (CheckSummary × String) := do
  let (library, report) ← Library.load location folder
  let summary : CheckSummary :=
    ⟨library.size, report.errors.length, report.warnings.length⟩
  return (summary, reportText report ++ "\n" ++ summary.describe ++ "\n")

end RecipeBook.Command
