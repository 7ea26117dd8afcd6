import RecipeBook.Url.Address
import RecipeBook.Url.Domain
import RecipeBook.Url.Fault
import RecipeBook.Url.Percent

/-!
# Hosts of URLs

A host is a domain name or an address. A URL of a scheme for hosts has the domain name in ASCII; in
other schemes the host is any text.
-/

namespace RecipeBook.Url.Host

def bracketed (s : List Char) : Except Fault String :=
  match s.getLast? with
  | some ']' =>
    match Address.ipv6? s.tail.dropLast with
    | some pieces => .ok ("[" ++ Address.showIpv6 pieces ++ "]")
    | none => .error .ipv6Address
  | _ => .error .ipv6Address

/-- The host of a URL of a known scheme. -/
def ofDomain (s : List Char) : Except Fault String :=
  if s.head? = some '[' then bracketed s
  else
    match (Percent.text? (Percent.decodeText (.ofList s))).bind fun name => Domain.ascii? name.toList with
    | none => .error .domainName
    | some [] => .error .emptyHost
    | some name =>
      if Address.endsInNumber name then
        match Address.ipv4? name with
        | some address => .ok (Address.showIpv4 address)
        | none => .error .ipv4Address
      else .ok (.ofList name)

/-- Characters that no host holds. -/
def opaqueForbidden : List Char :=
  ['\x00', '\t', '\n', '\r', ' ', '#', '/', ':', '<', '>', '?', '@', '[', '\\', ']', '^', '|']

/-- The host of a URL of another scheme. -/
def verbatim (s : List Char) : Except Fault String :=
  if s.head? = some '[' then bracketed s
  else if s.any opaqueForbidden.contains then .error .domainCharacter
  else .ok (.ofList (Percent.encode [] s))

end RecipeBook.Url.Host
