/-!
# Why a text is no URL
-/

namespace RecipeBook.Url

inductive Fault
  | emptyHost
  | domainName
  | domainCharacter
  | portNumber
  | ipv4Address
  | ipv6Address
  /-- There is no scheme. -/
  | relative
  /-- A relative reference to a URL that has no path to start from. -/
  | noBase
  deriving DecidableEq, Repr

namespace Fault

def message : Fault → String
  | emptyHost => "empty host"
  | domainName => "invalid international domain name"
  | domainCharacter => "invalid domain character"
  | portNumber => "invalid port number"
  | ipv4Address => "invalid IPv4 address"
  | ipv6Address => "invalid IPv6 address"
  | relative => "relative URL without a base"
  | noBase => "relative URL with a cannot-be-a-base base"

end Fault
end RecipeBook.Url
