import RecipeBook.Number.Whole
import RecipeBook.Text.Line

/-!
# Internet addresses

An address of version 4 is up to four numbers between points, the last of which fills the rest; one of
version 6 is eight numbers of 16 bits, of which one run of zeros may be left out.
-/

namespace RecipeBook.Url.Address

/-- The base of a number and its digits: hexadecimal behind `0x`, octal behind another zero. -/
def numberParts : List Char → Nat × List Char
  | '0' :: 'x' :: r => (16, r)
  | '0' :: 'X' :: r => (16, r)
  | '0' :: c :: r => (8, c :: r)
  | s => (10, s)

/-- A number of an address; behind the mark of a base there may be no digits. -/
def number? (s : List Char) : Option Nat :=
  let (base, digits) := numberParts s
  if s = [] then none
  else digits.foldlM (fun n c => (Number.digit? base c).map (base * n + ·)) 0

/-- A host that ends in a number is an address. -/
def endsInNumber (host : List Char) : Bool :=
  let last := match (Text.splitOn '.' host).reverse with
    | [] :: last :: _ => last
    | last :: _ => last
    | [] => []
  (last ≠ [] && last.all Char.isDigit) || (number? last).isSome

/-- Numbers of eight bits and a last one for the bits that are left. -/
def combine (last : Nat) (others : List Nat) : Option Nat :=
  if last < Number.twoPow (8 * (4 - others.length)) ∧ others.all (· < 256) then
    some (others.zipIdx.foldl (fun sum (n, i) => sum + n * Number.twoPow (8 * (3 - i))) last)
  else none

def ipv4? (host : List Char) : Option Nat := do
  let parts := Text.splitOn '.' host
  let parts := if parts.getLast? = some [] then parts.dropLast else parts
  if parts.length > 4 then none
  let numbers ← parts.mapM number?
  let last ← numbers.getLast?
  combine last numbers.dropLast

def showIpv4 (address : Nat) : String :=
  ".".intercalate ([3, 2, 1, 0].map fun i => toString (address / Number.twoPow (8 * i) % 256))

/-- A decimal number below 256 without leading zeros. -/
def octet? (s : List Char) : Option Nat :=
  if s ≠ [] ∧ s.length ≤ 3 ∧ (s.head? ≠ some '0' ∨ s.length = 1) then
    (s.foldlM (fun n c => (Number.digit? 10 c).map (10 * n + ·)) 0).filter (· < 256)
  else none

/-- The two numbers of 16 bits that an address of version 4 stands for at the end. -/
def embedded? (s : List Char) : Option (List Nat) := do
  match ← (Text.splitOn '.' s).mapM octet? with
  | [a, b, c, d] => return [256 * a + b, 256 * c + d]
  | _ => none

def piece? (s : List Char) : Option Nat :=
  if s ≠ [] ∧ s.length ≤ 4 then
    s.foldlM (fun n c => (Number.digit? 16 c).map (16 * n + ·)) 0
  else none

/-- The numbers between colons; the last part may be an address of version 4 if that is allowed. -/
def pieces? (embeds : Bool) : List (List Char) → Option (List Nat)
  | [] => some []
  | [last] => if embeds && last.contains '.' then embedded? last else (piece? last).map ([·])
  | part :: rest => do return (← piece? part) :: (← pieces? embeds rest)

def group? (embeds : Bool) (s : List Char) : Option (List Nat) :=
  if s = [] then some [] else pieces? embeds (Text.splitOn ':' s)

/-- Cuts at the first pair of colons. -/
def atGap : List Char → Option (List Char × List Char)
  | [] => none
  | [_] => none
  | a :: b :: r =>
    if a = ':' ∧ b = ':' then some ([], r) else (atGap (b :: r)).map fun p => (a :: p.1, p.2)

def ipv6? (s : List Char) : Option (List Nat) := do
  match atGap s with
  | none =>
    let pieces ← pieces? true (Text.splitOn ':' s)
    if pieces.length = 8 then return pieces else none
  | some (before, after) =>
    let front ← group? false before
    let back ← group? true after
    if front.length + back.length < 8 then
      return front ++ List.replicate (8 - front.length - back.length) 0 ++ back
    else none

/-- Start and length of the first longest run of zeros. -/
def longestZeros (pieces : List Nat) : Nat × Nat :=
  (List.range pieces.length).foldl (fun best i =>
    let run := ((pieces.drop i).takeWhile (· = 0)).length
    if best.2 < run then (i, run) else best) (0, 0)

def hex (n : Nat) : String := .ofList (Nat.toDigits 16 n)

/-- A run of two or more zeros is left out. -/
def showIpv6 (pieces : List Nat) : String :=
  let (start, run) := longestZeros pieces
  let shown (ns : List Nat) := ":".intercalate (ns.map hex)
  if run < 2 then shown pieces
  else shown (pieces.take start) ++ "::" ++ shown (pieces.drop (start + run))

end RecipeBook.Url.Address
