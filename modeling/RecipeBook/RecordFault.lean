/-!
# Why a document does not describe a record

A record has named fields of fixed types. A document that should describe one is read in order, and
the first thing in it that does not fit is reported; a field that is missing is noticed at the end.
-/

namespace RecipeBook

inductive RecordFault
  | unknownField (name : String)
  | missingField (name : String)
  | duplicateField (name : String)
  | invalidType
  | invalidValue
  /-- The value fits none of the forms that the field allows. -/
  | noForm
  /-- The document is not well-formed. -/
  | malformed
  deriving DecidableEq, Repr

namespace RecordFault

def message : RecordFault → String
  | unknownField name => "unknown field `" ++ name ++ "`"
  | missingField name => "missing field `" ++ name ++ "`"
  | duplicateField name => "duplicate field `" ++ name ++ "`"
  | invalidType => "invalid type"
  | invalidValue => "invalid value"
  | noForm => "did not match any variant"
  | malformed => "malformed"

end RecordFault
end RecipeBook
