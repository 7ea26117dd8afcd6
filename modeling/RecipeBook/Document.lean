import RecipeBook.Document.Body
import RecipeBook.Document.Header
import RecipeBook.Recipe

/-!
# Recipe documents

A document is a header, a blank line and a body. `Document.read` makes a recipe of its text, and
`Document.readBytes` of its bytes, which must be UTF-8.
-/

namespace RecipeBook.Document

/-- What is known of a document besides its text. -/
structure Source where
  id : String
  lang : String
  fileName : String
  deriving DecidableEq, Repr

/-- The header and the sections of a document. -/
def parts (source : Source) (text : String) : Except LoadError (Metadata × List SectionDraft) := do
  let (b, rest) ← readHeader (.start source.id source.lang source.fileName) (numbered text.toList)
  let metadata ← b.build
  let drafts ← readBody metadata.serves rest
  return (metadata, drafts)

def read (source : Source) (text : String) : Except LoadError Recipe := do
  let (metadata, drafts) ← parts source text
  Recipe.assemble metadata drafts

def readBytes (source : Source) (bytes : ByteArray) : Except LoadError Recipe :=
  match String.fromUTF8? bytes with
  | some text => read source text
  | none => fail (.unreadable .notText)

end RecipeBook.Document
