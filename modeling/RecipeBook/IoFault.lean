/-!
# Faults of the file system
-/

namespace RecipeBook

/-- What the file system answers. -/
inductive IoFault
  | notFound
  | isFolder
  | notFolder
  | notText
  | nameTooLong
  | notAName
  | other (text : String)
  deriving DecidableEq, Repr

namespace IoFault

def message : IoFault → String
  | notFound => "No such file or directory (os error 2)"
  | isFolder => "Is a directory (os error 21)"
  | notFolder => "Not a directory (os error 20)"
  | notText => "stream did not contain valid UTF-8"
  | nameTooLong => "File name too long (os error 36)"
  | notAName => "file name contained an unexpected NUL byte"
  | other text => text

end IoFault

end RecipeBook
