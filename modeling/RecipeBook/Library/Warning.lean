import RecipeBook.Index
import RecipeBook.Recipe

/-!
# Warnings about a library

A warning concerns several recipes. The `Vocabulary` records which recipes use which tag in which
language; a tag that looks like another one of its language is potentially misspelled.
-/

namespace RecipeBook

inductive Warning
  | misspelledTag (lang tag : String) (users : List String)
      (candidates : List (String × List String))
  | unknownRelated (recipe related : String) (candidates : List String)
  | missingEdition (recipe related lang : String)
  deriving DecidableEq, Repr

namespace Warning

def describe : Warning → String
  | misspelledTag lang tag users candidates =>
    "Tag '" ++ tag ++ "' of language " ++ lang ++ " potentially misspelled.\n" ++
      "  Tag present in files: " ++ ", ".intercalate users ++ "\n  Candidate tags:\n" ++
      "\n".intercalate (candidates.map fun (other, users) =>
        "    - " ++ other ++ " in " ++ ", ".intercalate users)
  | unknownRelated recipe related candidates =>
    "Recipe " ++ recipe ++ " references unknown related recipe " ++ related ++ "." ++
      suggestions candidates
  | missingEdition recipe related lang =>
    "Recipe " ++ recipe ++ " references " ++ related ++ " but " ++ related ++
      " is not translated to " ++ lang

end Warning

/-- The users of every tag of every language, each once, in the order in which they were seen. -/
abbrev Vocabulary := Index (Index (List String))

namespace Vocabulary

def addUser (id : String) (users : Option (List String)) : List String :=
  let users := users.getD []
  if id ∈ users then users else users ++ [id]

def observe (v : Vocabulary) (r : Recipe) : Vocabulary :=
  v.update r.lang fun tags =>
    r.metadata.tags.foldl (fun tags tag => Index.update tag (addUser r.id) tags) (tags.getD [])

/-- The warning for a tag among the tags of its language, if another one is close to it. -/
def warning? (lang : String) (tags : Index (List String)) (tag : String) (users : List String) :
    Option Warning :=
  let similar := Similarity.closeMatches tag (tags.keys.filter (· ≠ tag))
  if similar = [] then none
  else some (.misspelledTag lang tag users
    (similar.map fun other => (other, (tags.find? other).getD [])))

/-- The warnings by language and tag. -/
def warnings (v : Vocabulary) : List Warning :=
  v.flatMap fun (lang, tags) => tags.filterMap fun (tag, users) => warning? lang tags tag users

end Vocabulary
end RecipeBook
