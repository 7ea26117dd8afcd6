import RecipeBook.Metadata
import RecipeBook.Metadata.Entry
import RecipeBook.Words

/-!
# Collecting a header

A `Builder` holds the entries of a header so far, no two for one field: `add` refuses an entry whose
field has a value already. `build` asks for a name, a serving count and the right version, and gives
the other fields their defaults.
-/

namespace RecipeBook

/-- The version of the header's format. -/
def schemaVersion : Nat := 2

structure Builder where
  id : String
  lang : String
  fileName : String
  entries : List Entry

namespace Builder

/-- A header without entries for the recipe of the given name. -/
def start (id lang fileName : String) : Builder := ⟨normalizeId id, lang, fileName, []⟩

/-- The entry for a field, if it has been set. -/
def entry? (b : Builder) (field : Field) : Option Entry :=
  b.entries.find? fun e => e.field = field

def add (b : Builder) (new : Entry) : Except LoadError Builder :=
  match b.entry? new.field with
  | some old => fail (.alreadySet new.field old.shown new.shown)
  | none => .ok { b with entries := b.entries ++ [new] }

/-- Adds the entries in order, up to the first that is refused. -/
def addAll (b : Builder) : List Entry → Builder × Option LoadError
  | [] => (b, none)
  | e :: es =>
    match b.add e with
    | .ok b => b.addAll es
    | .error fault => (b, some fault)

/-- The value that some entry gives. -/
def get? (b : Builder) {α : Type} (value? : Entry → Option α) : Option α :=
  b.entries.findSome? value?

def build (b : Builder) : Except LoadError Metadata :=
  match b.get? Entry.name?, b.get? Entry.serves? with
  | none, _ => fail (.nameMissing b.id b.lang)
  | some _, none => fail (.servesMissing b.id b.lang)
  | some name, some serves =>
    let version := (b.get? Entry.schemaVersion?).getD schemaVersion
    if version ≠ schemaVersion then fail (.wrongVersion b.id b.lang version)
    else .ok {
      id := b.id
      lang := b.lang
      fileName := b.fileName
      name
      serves
      servingsUnit := b.get? Entry.servingsUnit?
      servingsIncrement := (b.get? Entry.servingsIncrement?).getD 1.0
      description := b.get? Entry.description?
      note := b.get? Entry.note?
      tags := (b.get? Entry.tags?).getD []
      related := (b.get? Entry.related?).getD []
      attribution := b.get? Entry.attribution?
      hideFromAll := (b.get? Entry.hideFromAll?).getD false
      schemaVersion := version }

end Builder

/-- What a `serves` line gives: entries, and the fault that came after them, if one did. -/
structure ServesLine where
  entries : List Entry
  fault : Option LoadError

namespace ServesLine

/-- Serving counts and versions have 32 bits. -/
def readCount (s : String) : Except WholeFault Nat := Number.readWhole (Number.maxOf 32) s.toList

/-- The step by which a serving count is changed: with a point a decimal number, else a whole one. -/
def readIncrement (s : String) : Except LoadError Float :=
  if s.toList.contains '.' then
    match Decimal.readFloat s.toList with
    | .ok size => .ok size
    | .error fault => fail (.incrementMalformed s fault)
  else
    match readCount s with
    | .ok n => .ok (Float.ofNat n)
    | .error fault => fail (.incrementNotWhole s fault)

/-- The entries of a line whose words are known: a count, then a unit, then an increment. -/
def ofWords (parts : List String) : ServesLine :=
  match parts with
  | [] => ⟨[], some (.of .servingCountMissing)⟩
  | count :: rest =>
    match readCount count with
    | .error fault => ⟨[], some (.of (.servingCountMalformed count fault))⟩
    | .ok 0 => ⟨[], some (.of .servingCountZero)⟩
    | .ok n =>
      match rest with
      | [] => ⟨[.serves n], none⟩
      | [unit] => ⟨[.serves n, .servingsUnit unit], none⟩
      | unit :: increment :: more =>
        match readIncrement increment with
        | .error fault => ⟨[.serves n, .servingsUnit unit], some fault⟩
        | .ok size =>
          ⟨[.serves n, .servingsUnit unit, .servingsIncrement size],
            if more = [] then none else some (.of (.tooManyServesFields parts))⟩

def read (value : String) : ServesLine :=
  match Words.ofLine value with
  | .ok parts => ofWords parts
  | .error fault => ⟨[], some fault⟩

end ServesLine

namespace Builder

/-- Adds what a `serves` line gives. What came before the first fault stays. -/
def addServesLine (b : Builder) (value : String) : Builder × Option LoadError :=
  let line := ServesLine.read value
  match b.addAll line.entries with
  | (b, none) => (b, line.fault)
  | (b, some fault) => (b, some fault)

end Builder
end RecipeBook
