import RecipeBook.Library.Load

/-!
# The current library

A store keeps the library that was loaded last from a folder. Reloading first loads the folder as it
is, then puts the new library in place of the old one; when loading fails the old one stays.
-/

namespace RecipeBook

structure Store where
  location : String
  current : Library

namespace Store

def openAt (location : String) (folder : Option FileTree) : Except Failure (Store × Report) := do
  let (library, report) ← Library.load location folder
  return (⟨location, library⟩, report)

/-- Puts a loaded library in place of the current one. -/
def publish (s : Store) (library : Library) : Store := { s with current := library }

/-- Loads the folder and publishes what was loaded. -/
def reload (s : Store) (folder : Option FileTree) : Store × Except Failure Report :=
  match Library.load s.location folder with
  | .ok (library, report) => (s.publish library, .ok report)
  | .error f => (s, .error f)

/-- The number of reloads in `wait` seconds when one is due every `interval` seconds. -/
def reloadsDue (interval wait : Nat) : Nat := if interval = 0 then 0 else wait / interval

/-- Watches a folder that does not change for `wait` seconds. -/
def watch (s : Store) (folder : Option FileTree) (interval wait : Nat) : Store :=
  (List.range (reloadsDue interval wait)).foldl (fun s _ => (s.reload folder).1) s

end Store
end RecipeBook
