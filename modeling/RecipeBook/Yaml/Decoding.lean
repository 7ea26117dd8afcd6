import RecipeBook.RecordFault
import RecipeBook.Yaml.Document
import RecipeBook.Yaml.Scalar

/-!
# Records out of YAML documents

A `Decoding` takes values of known types out of the nodes of a document, in the order of the document.
References are followed, but only a hundred times as often as the document has parts.
-/

namespace RecipeBook.Yaml

/-- Reads nodes of a document; counts the references that were followed. -/
abbrev Decoding (α : Type) := ReaderT Document (StateT Nat (Except RecordFault)) α

namespace Decoding

def refuse {α : Type} (fault : RecordFault) : Decoding α := throw fault

/-- The node itself, or the node that it refers to. A text that breaks off has no node. -/
def follow (n : Node) : Decoding Node := do
  match n with
  | .reference number =>
    let d ← read
    let jumps ← get
    if 100 * d.root.weight ≤ jumps then refuse .malformed
    set (jumps + 1)
    match d.anchored.lookup number with
    | some .cut | none => refuse .malformed
    | some target => return target
  | .cut => refuse .malformed
  | n => return n

/-- The tag of a type that all documents know. -/
def knownTag (name : String) : String := "tag:yaml.org,2002:" ++ name

/-- A tag that only this document knows. -/
def isLocalTag (tag : String) : Bool := tag.toList.head? = some '!'

/-- Why a node is not of the wanted type: a scalar whose tag it does not fit has a bad value. -/
def mismatch : Node → RecordFault
  | .scalar (some tag) _ text =>
    let fits :=
      if tag = knownTag "bool" then (Scalar.bool? text).isSome
      else if tag = knownTag "int" then (Scalar.integer? 128 text.toList).isSome
      else if tag = knownTag "float" then (Scalar.float? text).isSome
      else if tag = knownTag "null" then Scalar.isNull text
      else true
    if fits then .invalidType else .invalidValue
  | _ => .invalidType

def text (n : Node) : Decoding String := do
  match ← follow n with
  | .scalar _ _ text => return text
  | n => refuse (mismatch n)

/-- A scalar that stands for a value of the type with the given tag: it is plain, or literal and
tagged so. -/
def bare? (name : String) : Node → Option String
  | .scalar _ .plain text => some text
  | .scalar tag .literal text => if tag = some (knownTag name) then some text else none
  | _ => none

def bool (n : Node) : Decoding Bool := do
  let n ← follow n
  match (bare? "bool" n).bind Scalar.bool? with
  | some b => return b
  | none => refuse (mismatch n)

def float (n : Node) : Decoding Float := do
  let n ← follow n
  match (bare? "float" n).bind Scalar.float? with
  | some x => return x
  | none => refuse (mismatch n)

/-- A whole number that is at most `limit`; one of more than 64 bits is no number at all. -/
def whole (limit : Nat) (n : Node) : Decoding Nat := do
  let n ← follow n
  match (bare? "int" n).bind fun s => Scalar.whole? (Number.maxOf 64) s.toList with
  | some m => if m ≤ limit then return m else refuse .invalidValue
  | none => refuse (mismatch n)

/-- A value that may be left out or be null. -/
def optional {α : Type} (read : Node → Decoding α) (n : Node) : Decoding (Option α) := do
  let n ← follow n
  match n with
  | .scalar tag .plain text =>
    if tag = some (knownTag "null") then
      if Scalar.isNull text then return none else refuse .invalidValue
    else if tag.isNone ∧ (text = "" ∨ Scalar.isNull text) then return none
    else return some (← read n)
  | n => return some (← read n)

/-- A plain scalar that is left out counts as an empty collection. -/
def isLeftOut : Node → Bool
  | .scalar _ .plain text => text = ""
  | _ => false

def list {α : Type} (read : Node → Decoding α) (n : Node) : Decoding (List α) := do
  match ← follow n with
  | .sequence _ items => items.mapM read
  | n => if isLeftOut n then return [] else refuse (mismatch n)

/-- Goes through the pairs of a record. A field must be known and new; the required fields must have
come at the end. -/
def fields {α : Type} (known required : List String) (put : String → Node → α → Decoding α)
    (seen : List String) : List (Node × Node) → α → Decoding α
  | [], a =>
    match required.find? (!seen.contains ·) with
    | some name => refuse (.missingField name)
    | none => return a
  | (key, value) :: rest, a => do
    let name ← text key
    if !known.contains name then refuse (.unknownField name)
    if seen.contains name then refuse (.duplicateField name)
    fields known required put (name :: seen) rest (← put name value a)

/-- A record: starts from `a` and puts in what the fields say. -/
def record {α : Type} (known required : List String) (put : String → Node → α → Decoding α) (a : α)
    (n : Node) : Decoding α := do
  match ← follow n with
  | .mapping _ pairs => fields known required put [] pairs a
  | n => if isLeftOut n then fields known required put [] [] a else refuse (mismatch n)

/-- What a value of any type is, if it is a text or a list. -/
inductive Form
  | text (s : String)
  | list (items : List Form)
  | other

/-- The form of a number that a scalar without tag, or with that of whole numbers, may be. Numbers of
more than 64 bits are no values. -/
def integerForm? (text : String) : Option (Decoding Form) :=
  if (Scalar.integer? 64 text.toList).isSome then some (return .other)
  else if (Scalar.integer? 128 text.toList).isSome then some (refuse .invalidType)
  else none

def plainForm (text : String) : Decoding Form :=
  if text = "" ∨ Scalar.isNull text ∨ (Scalar.bool? text).isSome then return .other
  else
    match integerForm? text with
    | some result => result
    | none =>
      if !Scalar.isPadded text.toList && (Scalar.float? text).isSome then return .other
      else return .text text

def scalarForm (tag : Option String) (style : Style) (text : String) : Decoding Form := do
  let other (fits : Bool) : Decoding Form := if fits then return .other else refuse .invalidValue
  match tag with
  | none => if style = .plain then plainForm text else return .text text
  | some tag =>
    if tag = knownTag "bool" then other (Scalar.bool? text).isSome
    else if tag = knownTag "int" then (integerForm? text).getD (refuse .invalidValue)
    else if tag = knownTag "float" then other (Scalar.float? text).isSome
    else if tag = knownTag "null" then other (Scalar.isNull text)
    else return .text text

/-- The form of a value, where `inner` gives the form of its parts, if parts may be nested deeper. -/
def formWith (inner : Option (Node → Decoding Form)) (n : Node) : Decoding Form := do
  let ofParts (tag : Option String) (read : (Node → Decoding Form) → Decoding Form) :
      Decoding Form :=
    if tag.any isLocalTag then refuse .malformed
    else match inner with
      | some inner => read inner
      | none => refuse .malformed
  match ← follow n with
  | .scalar tag style text =>
    if tag.any isLocalTag then refuse .malformed else scalarForm tag style text
  | .sequence tag items => ofParts tag fun inner => return .list (← items.mapM inner)
  | .mapping tag pairs =>
    ofParts tag fun inner => do
      for (key, value) in pairs do
        let _ ← inner key
        let _ ← inner value
      return .other
  | _ => refuse .malformed

/-- The form of a value that is nested at most `depth` deep. -/
def form : Nat → Node → Decoding Form
  | 0 => formWith none
  | depth + 1 => formWith (some (form depth))

end Decoding

namespace Document

/-- Reads the value of a document. A fault in it wins over what is wrong behind it. -/
def decode {α : Type} (d : Document) (read : Node → Decoding α) : Except RecordFault α := do
  let (a, _) ← ((read d.root).run d).run 0
  if d.isWhole then return a else throw .malformed

end Document
end RecipeBook.Yaml
