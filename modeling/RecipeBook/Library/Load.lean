import RecipeBook.FileTree
import RecipeBook.Failure
import RecipeBook.Legacy.Read
import RecipeBook.Library

/-!
# Loading a library from a folder

Every file in the folder, at any depth, whose extension names a document format is read and offered to
the library, in the order of the walk. A file that fails is reported, and so is a place that the walk
cannot look into. Warnings about the whole come last.
-/

namespace RecipeBook

structure Report where
  errors : List LoadError
  warnings : List Warning

namespace Report

def isClean (r : Report) : Bool := r.errors.isEmpty && r.warnings.isEmpty

end Report

namespace Library

/-- Reads a document in one of the formats. -/
def readDocument (format : DocumentFormat) (source : Document.Source) (bytes : ByteArray) :
    Except LoadError Recipe :=
  match format with
  | .recipe => Document.readBytes source bytes
  | .legacy => LegacyRecipe.readBytes source bytes

/-- The problem of a document that cannot be read to its end. -/
def unreadable (format : DocumentFormat) (fault : IoFault) : Problem :=
  match format with
  | .recipe => .unreadable fault
  | .legacy => .unreadableLegacy fault

/-- The recipe in the file of the given name at a location. -/
def readFile (format : DocumentFormat) (location fileName : String) (reading : Reading) :
    Except LoadError Recipe :=
  match FileName.split? fileName with
  | none => fail .noExtension
  | some (.error e) => .error e
  | some (.ok name) =>
    match reading with
    | .unopened fault => fail (.unopened location fault)
    | .broken fault => fail (unreadable format fault)
    | .bytes bytes => readDocument format ⟨name.rawId, name.lang, fileName⟩ bytes

/-- What has been loaded so far. -/
structure Loading where
  library : Library
  vocabulary : Vocabulary
  errors : List LoadError

namespace Loading

def start : Loading := ⟨.empty, [], []⟩

/-- The state after a file that is a recipe document, given what comes of reading it. -/
def addRecipe (s : Loading) (fileName : String) (result : Except LoadError Recipe) : Loading :=
  match result with
  | .error e => { s with errors := s.errors ++ [e.withNote (.recipe fileName)] }
  | .ok r =>
    match s.library.offer r with
    | (library, some e) => { s with library, errors := s.errors ++ [e.withNote (.recipe fileName)] }
    | (library, none) => { s with library, vocabulary := s.vocabulary.observe r }

/-- The state after an entry of the walk of a folder. -/
def addEntry (folder : String) (s : Loading) : WalkEntry → Loading
  | .fault cause => { s with errors := s.errors ++ [.of (.walkFailed folder cause)] }
  | .other => s
  | .file path reading =>
    match FileName.format? path.fileName with
    | none => s
    | some format =>
      s.addRecipe path.fileName (readFile format (path.locate folder) path.fileName reading)

def report (s : Loading) : Report :=
  ⟨s.errors, s.vocabulary.warnings ++ s.library.relatedWarnings⟩

end Loading

/-- Loads what a walk of a folder comes upon. -/
def loadEntries (folder : String) (entries : List WalkEntry) : Loading :=
  entries.foldl (Loading.addEntry folder) .start

/-- Loads the folder at a location, if there is one. -/
def load (location : String) (folder : Option FileTree) : Except Failure (Library × Report) :=
  match folder with
  | none => .error (.notFound ("No cookbook location at " ++ location))
  | some tree =>
    let s := loadEntries location tree.walk
    .ok (s.library, s.report)

end Library
end RecipeBook
