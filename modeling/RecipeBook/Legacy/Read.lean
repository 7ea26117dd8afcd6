import RecipeBook.Legacy
import RecipeBook.Yaml.Decoding

/-!
# Reading recipes of the first generation

A recipe of the first generation is a YAML document. `LegacyRecipe.readBytes` reads the record in it
and makes a recipe of the record.
-/

namespace RecipeBook

open Yaml

namespace OneOrMany

/-- Values are nested at most this deep. -/
def maxDepth : Nat := 128

def texts? (items : List Decoding.Form) : Option (List String) :=
  items.mapM fun
    | .text s => some s
    | _ => none

/-- Reads a text or a list of texts in a value that is nested `depth` deep. -/
def decode (depth : Nat) (n : Node) : Decoding OneOrMany := do
  match ← Decoding.form (maxDepth - depth) n with
  | .text s => return .one s
  | .list items =>
    match texts? items with
    | some texts => return .many texts
    | none => Decoding.refuse .noForm
  | .other => Decoding.refuse .noForm

end OneOrMany

namespace LegacyIngredient

def fieldNames : List String := ["ingredient", "amount", "unit"]

def put (name : String) (value : Node) (i : LegacyIngredient) : Decoding LegacyIngredient := do
  match name with
  | "ingredient" => return { i with ingredient := ← Decoding.text value }
  | "amount" => return { i with amount := ← Decoding.optional Decoding.float value }
  | _ => return { i with unit := ← Decoding.optional Decoding.text value }

def decode (n : Node) : Decoding LegacyIngredient :=
  Decoding.record fieldNames ["ingredient"] put ⟨"", none, none⟩ n

end LegacyIngredient

namespace LegacyStep

def fieldNames : List String :=
  ["instructions", "ingredients", "internal_ingredients", "hidden_ingredients", "yields"]

def put (name : String) (value : Node) (s : LegacyStep) : Decoding LegacyStep := do
  match name with
  | "instructions" => return { s with instructions := ← Decoding.text value }
  | "ingredients" => return { s with ingredients := ← Decoding.list LegacyIngredient.decode value }
  | "internal_ingredients" => return { s with internal := ← Decoding.list Decoding.text value }
  | "hidden_ingredients" => return { s with hidden := ← Decoding.list Decoding.text value }
  | _ => return { s with yields := ← Decoding.optional (OneOrMany.decode 3) value }

def decode (n : Node) : Decoding LegacyStep :=
  Decoding.record fieldNames ["instructions"] put ⟨"", [], [], [], none⟩ n

end LegacyStep

namespace Stage

def fieldName : Stage → String
  | prep => "prep"
  | misEnPlace => "mis_en_place"
  | cooking => "cooking"
  | passiveCooking => "passive_cooking"
  | cooking2 => "cooking2"
  | passiveCooking2 => "passive_cooking2"

def ofFieldName? (name : String) : Option Stage := all.find? (·.fieldName = name)

end Stage

namespace LegacyRecipe

def fieldNames : List String :=
  ["name", "serves", "servings_unit", "servings_increment", "descr", "note", "tags",
    "hide_from_all", "related"] ++ Stage.all.map Stage.fieldName

/-- A record without any field. -/
def blank : LegacyRecipe where
  name := ""
  serves := 0
  servingsUnit := none
  servingsIncrement := none
  descr := none
  note := none
  tags := none
  hideFromAll := false
  related := []
  stage := fun _ => []

def put (name : String) (value : Node) (r : LegacyRecipe) : Decoding LegacyRecipe := do
  match name with
  | "name" => return { r with name := ← Decoding.text value }
  | "serves" => return { r with serves := ← Decoding.whole (Number.maxOf 32) value }
  | "servings_unit" => return { r with servingsUnit := ← Decoding.optional Decoding.text value }
  | "servings_increment" =>
    return { r with servingsIncrement := ← Decoding.optional Decoding.float value }
  | "descr" => return { r with descr := ← Decoding.optional Decoding.text value }
  | "note" => return { r with note := ← Decoding.optional Decoding.text value }
  | "tags" => return { r with tags := ← Decoding.optional (OneOrMany.decode 1) value }
  | "hide_from_all" => return { r with hideFromAll := ← Decoding.bool value }
  | "related" => return { r with related := ← Decoding.list Decoding.text value }
  | _ =>
    match Stage.ofFieldName? name with
    | some stage =>
      let steps ← Decoding.list LegacyStep.decode value
      return { r with stage := fun s => if s = stage then steps else r.stage s }
    | none => return r

def decode (n : Node) : Decoding LegacyRecipe :=
  Decoding.record fieldNames ["name", "serves"] put blank n

/-- Reads the record of a document. -/
def ofBytes (bytes : ByteArray) : Except RecordFault LegacyRecipe :=
  (Yaml.Document.read bytes).decode decode

def readBytes (source : Document.Source) (bytes : ByteArray) : Except LoadError Recipe :=
  match ofBytes bytes with
  | .ok r => r.toRecipe source
  | .error fault => fail (.invalidLegacy fault)

end LegacyRecipe
end RecipeBook
