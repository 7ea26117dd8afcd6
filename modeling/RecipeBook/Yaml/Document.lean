import RecipeBook.Yaml.Draft

/-!
# YAML documents

`Document.read` reads the one document of a text. A text without a document has the empty value.
-/

namespace RecipeBook.Yaml

structure Document where
  root : Node
  /-- The nodes by anchor number, of several with one number the last first. -/
  anchored : List (Nat × Node)
  /-- The text is well-formed and holds no second document. -/
  isWhole : Bool

namespace Draft

def isDirective : Token → Bool
  | .version .. | .handle .. => true
  | _ => false

/-- The content of a document that starts with its mark may be left out. -/
def endsDocument : Token → Bool
  | .version .. | .handle .. | .documentStart | .documentEnd | .streamEnd => true
  | _ => false

/-- Reads the directives of a document. The version is given once, and so is every handle. -/
def directives (versionSeen : Bool) (handles : List (String × String)) : Nat → Reading Bool
  | 0 => return false
  | fuel + 1 => do
    match ← peek with
    | some (.version major minor) =>
      if versionSeen || major ≠ 1 || (minor ≠ 1 && minor ≠ 2) then return false
      advance
      directives true handles fuel
    | some (.handle name start) =>
      if (handles.lookup name).isSome then return false
      advance
      directives versionSeen ((name, start) :: handles) fuel
    | some .documentStart =>
      advance
      modify fun d => { d with handles := handles ++ standardHandles }
      return true
    | _ => return false

def document (fuel : Nat) : Reading Node := do
  match ← peek with
  | none => return .cut
  | some .streamEnd => return .empty
  | some token =>
    if isDirective token || token = .documentStart then
      if ← directives false [] fuel then emptyIf endsDocument (node true false fuel)
      else giveUp
    else node true false fuel

/-- Nothing follows the document but its end marks. -/
def isLast : Nat → Reading Bool
  | 0 => return false
  | fuel + 1 => do
    match ← peek with
    | some .streamEnd => return true
    | some .documentEnd =>
      advance
      isLast fuel
    | _ => return false

end Draft

namespace Document

/-- Characters that may stand in a text. -/
def isAllowed (c : Char) : Bool :=
  c == '\t' || c == '\n' || c == '\r' || (' ' ≤ c && c ≤ '~') || c == '\u0085' ||
    ('\u00a0' ≤ c && c ≤ '\ufffd') || 0x10000 ≤ c.toNat

def ofText (text : List Char) : Document :=
  let fuel := 16 * (text.length + 2)
  let reading : Draft.Reading (Node × Bool) := do
    let root ← Draft.document fuel
    return (root, ← Draft.isLast fuel)
  let ((root, isWhole), d) := reading.run (.start text)
  ⟨root, d.anchoredNodes, isWhole⟩

/-- A text of which nothing is a document. -/
def broken : Document := ⟨.cut, [], false⟩

def read (bytes : ByteArray) : Document :=
  match String.fromUTF8? bytes with
  | some text => if text.toList.all isAllowed then ofText text.toList else broken
  | none => broken

end Document
end RecipeBook.Yaml
