/-!
# Percent-encoding

The octets of a character outside a class are written as a percent sign and two hexadecimal digits.
`encode` does so for the characters of a set, and `decode` reads such octets back; a percent sign that
no two digits follow stands for itself.
-/

namespace RecipeBook.Url.Percent

def hexDigit (n : Nat) : Char := if n < 10 then .ofNat (48 + n) else .ofNat (55 + n)

def hexValue? (b : UInt8) : Option Nat :=
  let n := b.toNat
  if 48 ≤ n ∧ n ≤ 57 then some (n - 48)
  else if 65 ≤ n ∧ n ≤ 70 then some (n - 55)
  else if 97 ≤ n ∧ n ≤ 102 then some (n - 87)
  else none

/-- The octets of a character in UTF-8. -/
def octets (c : Char) : List UInt8 := (String.singleton c).toUTF8.toList

def encodeOctet (b : UInt8) : List Char := ['%', hexDigit (b.toNat / 16), hexDigit (b.toNat % 16)]

/-- Controls and what is not ASCII are always encoded. -/
def isControl (c : Char) : Bool := c < ' ' || '~' < c

/-- Encodes controls, what is not ASCII, and the characters of `set`. -/
def encode (set : List Char) (s : List Char) : List Char :=
  s.flatMap fun c => if isControl c || set.contains c then (octets c).flatMap encodeOctet else [c]

def fragmentSet : List Char := [' ', '"', '<', '>', '`']

def pathSet : List Char := ['#', '?', '\x7b', '\x7d'] ++ fragmentSet

def userSet : List Char := ['/', ':', ';', '=', '@', '[', '\\', ']', '^', '|'] ++ pathSet

def querySet : List Char := [' ', '"', '#', '<', '>']

/-- The octets that encoded octets stand for. -/
def decode : List UInt8 → List UInt8
  | [] => []
  | [a] => [a]
  | [a, b] => [a, b]
  | a :: b :: c :: rest =>
    if a = 37 then
      match hexValue? b, hexValue? c with
      | some high, some low => .ofNat (16 * high + low) :: decode rest
      | _, _ => a :: decode (b :: c :: rest)
    else a :: decode (b :: c :: rest)

/-- The octets of a text, decoded. -/
def decodeText (s : String) : List UInt8 := decode s.toUTF8.toList

/-- The text of octets, if they are UTF-8. -/
def text? (bs : List UInt8) : Option String := String.fromUTF8? ⟨bs.toArray⟩

end RecipeBook.Url.Percent
