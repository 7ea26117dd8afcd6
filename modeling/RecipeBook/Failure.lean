import RecipeBook.FileTree
import RecipeBook.LoadError
import RecipeBook.Metadata

/-!
# Failures

A `Failure` is what a request, a command or the settings can fail with. `describe` is its full text,
`logSafe` a text that can be logged, and `status` and `publicMessage` are what a client is told: only
what is not found or not valid is explained.
-/

namespace RecipeBook

inductive Failure
  | load (diagnosis : Diagnosis)
  | io (fault : IoFault)
  | config (message : String)
  | notFound (message : String)
  | validation (message : String)
  | internal (message : String)
  deriving DecidableEq, Repr

namespace Failure

def describe : Failure → String
  | load d => "Recipe load error: " ++ d.message
  | io fault => "IO error: " ++ fault.message
  | config message => "Configuration error: " ++ message
  | notFound message => "Not found: " ++ message
  | validation message => "Validation error: " ++ message
  | internal message => "Internal error: " ++ message

/-- One text occurs in another. -/
def occursIn (part : List Char) : List Char → Bool
  | [] => part.isEmpty
  | c :: r => part.isPrefixOf (c :: r) || occursIn part r

/-- A message that may give away a secret. -/
def isDelicate (message : String) : Bool :=
  let text := (lowered message).toList
  occursIn "secret".toList text || occursIn "token".toList text

/-- The failure without paths of the host and without secrets. -/
def logSafe : Failure → String
  | io _ => "File system operation failed"
  | internal message =>
    if isDelicate message then "Internal error (details redacted)" else describe (internal message)
  | f => f.describe

/-- The status of the response to a request that fails. -/
def status : Failure → Nat
  | notFound _ => 404
  | validation _ => 400
  | _ => 500

def publicMessage : Failure → String
  | notFound message => message
  | validation message => message
  | _ => "Internal server error"

end Failure
end RecipeBook
