import RecipeBook.Text.Line
import RecipeBook.Text.Printable

/-!
# Quoted text

Messages show a text between quotation marks so that its ends and its unseen characters can be told.
Inside, a quotation mark and a backslash are escaped by a backslash, tab, line feed, return and the
null character have short names, and any other character that is not shown as it is has its code
point in braces. A list is shown in square brackets.
-/

namespace RecipeBook.Text

/-- One character as it stands between quotation marks. -/
def escape (c : Char) : List Char :=
  match c with
  | '"' => ['\\', '"']
  | '\\' => ['\\', '\\']
  | '\t' => ['\\', 't']
  | '\n' => ['\\', 'n']
  | '\r' => ['\\', 'r']
  | '\x00' => ['\\', '0']
  | c => if isShown c then [c] else ['\\', 'u', '\x7b'] ++ Nat.toDigits 16 c.toNat ++ ['\x7d']

def quoted (s : List Char) : List Char := '"' :: s.flatMap escape ++ ['"']

def bracketed (items : List (List Char)) : List Char :=
  '[' :: join [',', ' '] items ++ [']']

def quotedList (items : List (List Char)) : List Char := bracketed (items.map quoted)

end RecipeBook.Text
