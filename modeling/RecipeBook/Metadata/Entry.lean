import RecipeBook.Metadata.Field
import RecipeBook.Number.Layout
import RecipeBook.Text.Quoted

/-!
# Entries of a header

An `Entry` gives one field of the header its value.
-/

namespace RecipeBook

inductive Entry
  | name (text : String)
  | serves (count : Nat)
  | servingsUnit (text : String)
  | servingsIncrement (size : Float)
  | description (text : String)
  | note (text : String)
  | tags (list : List String)
  | related (list : List String)
  | attribution (text : String)
  | hideFromAll (hidden : Bool)
  | schemaVersion (version : Nat)

namespace Entry

def field : Entry → Field
  | name _ => .name
  | serves _ => .serves
  | servingsUnit _ => .servingsUnit
  | servingsIncrement _ => .servingsIncrement
  | description _ => .description
  | note _ => .note
  | tags _ => .tags
  | related _ => .related
  | attribution _ => .attribution
  | hideFromAll _ => .hideFromAll
  | schemaVersion _ => .schemaVersion

def shownText (s : String) : String := .ofList (Text.quoted s.toList)

def shownList (list : List String) : String := .ofList (Text.quotedList (list.map String.toList))

/-- The value as messages show it. -/
def shown : Entry → String
  | name text => shownText text
  | serves count => toString count
  | servingsUnit text => shownText text
  | servingsIncrement size => .ofList (Number.messageLayout.write size)
  | description text => shownText text
  | note text => shownText text
  | tags list => shownList list
  | related list => shownList list
  | attribution text => shownText text
  | hideFromAll hidden => if hidden then "true" else "false"
  | schemaVersion version => toString version

def name? : Entry → Option String
  | name text => some text
  | _ => none

def serves? : Entry → Option Nat
  | serves count => some count
  | _ => none

def servingsUnit? : Entry → Option String
  | servingsUnit text => some text
  | _ => none

def servingsIncrement? : Entry → Option Float
  | servingsIncrement size => some size
  | _ => none

def description? : Entry → Option String
  | description text => some text
  | _ => none

def note? : Entry → Option String
  | note text => some text
  | _ => none

def tags? : Entry → Option (List String)
  | tags list => some list
  | _ => none

def related? : Entry → Option (List String)
  | related list => some list
  | _ => none

def attribution? : Entry → Option String
  | attribution text => some text
  | _ => none

def hideFromAll? : Entry → Option Bool
  | hideFromAll hidden => some hidden
  | _ => none

def schemaVersion? : Entry → Option Nat
  | schemaVersion version => some version
  | _ => none

end Entry
end RecipeBook
