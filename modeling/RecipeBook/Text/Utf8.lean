/-!
# Text of octets

`lossy` reads octets as UTF-8. Where they are not, the longest start of a character is replaced by one
replacement character, and so is every octet that starts none.
-/

namespace RecipeBook.Text.Utf8

/-- The number of octets of the character that an octet starts; zero if it starts none. -/
def width (b : UInt8) : Nat :=
  if b < 0x80 then 1
  else if 0xc2 ≤ b ∧ b ≤ 0xdf then 2
  else if 0xe0 ≤ b ∧ b ≤ 0xef then 3
  else if 0xf0 ≤ b ∧ b ≤ 0xf4 then 4
  else 0

/-- An octet that may follow the first octet `b`: no character has two codes, and none is half of a
pair or out of range. -/
def isSecond (b o : UInt8) : Bool :=
  let low : UInt8 := if b = 0xe0 then 0xa0 else if b = 0xf0 then 0x90 else 0x80
  let high : UInt8 := if b = 0xed then 0x9f else if b = 0xf4 then 0x8f else 0xbf
  low ≤ o && o ≤ high

def isFurther (o : UInt8) : Bool := 0x80 ≤ o && o ≤ 0xbf

/-- The number of octets in front that belong to the character that `b` starts, `b` included. -/
def startLength (b : UInt8) (rest : List UInt8) : Nat :=
  match rest.take (width b - 1) with
  | [] => 1
  | o :: more => if isSecond b o then 2 + (more.takeWhile isFurther).length else 1

/-- The code point of a first octet and the ones that follow it. -/
def codePoint (b : UInt8) (more : List UInt8) : Nat :=
  let lead := match more.length with
    | 0 => b.toNat
    | 1 => b.toNat % 32
    | 2 => b.toNat % 16
    | _ => b.toNat % 8
  more.foldl (fun n o => 64 * n + o.toNat % 64) lead

def lossy : List UInt8 → List Char
  | [] => []
  | b :: rest =>
    let n := startLength b rest
    (if n = width b then .ofNat (codePoint b (rest.take (n - 1))) else '\ufffd') ::
      lossy (rest.drop (n - 1))
termination_by bs => bs.length
decreasing_by simp only [List.length_drop, List.length_cons]; omega

end RecipeBook.Text.Utf8
