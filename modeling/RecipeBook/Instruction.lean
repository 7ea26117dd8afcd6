import RecipeBook.Ingredient
import RecipeBook.Text.Line

/-!
# Instructions

An instruction line is cut at blank characters. A piece in braces is a number that changes with the
serving count, every other piece is text.
-/

namespace RecipeBook

/-- A number in an instruction that changes with the serving count. -/
structure Scalar where
  amount : Float
  perServing : Float

namespace Scalar

def make (serves : Nat) (amount : Float) : Scalar := ⟨amount, Ingredient.share serves amount⟩

/-- The amount for some number of servings. -/
def scaled (s : Scalar) (servings : Float) : Float := s.perServing * servings

end Scalar

inductive InstructionPart
  | text (value : String)
  | scalar (value : Scalar)

namespace InstructionPart

/-- What is between the braces of a piece that starts with one and ends with one. -/
def braced? (token : List Char) : Option (List Char) :=
  (Text.dropStart? ['\x7b'] token).bind (Text.dropEnd? ['\x7d'])

def ofToken (serves : Nat) (token : List Char) : Except LoadError InstructionPart :=
  match braced? token with
  | none => .ok (text (.ofList token))
  | some body =>
    match Decimal.readFloat (Text.trim body) with
    | .ok amount => .ok (scalar (.make serves amount))
    | .error fault => fail (.scalarAmount (.ofList token) fault)

/-- The parts of an instruction line. -/
def ofLine (serves : Nat) (line : List Char) : Except LoadError (List InstructionPart) :=
  (Text.words line).mapM (ofToken serves)

end InstructionPart
end RecipeBook
