import CloudClient.Url.Address
import CloudClient.Url.Domain
import CloudClient.Url.Error
import CloudClient.Url.Percent

/-!
# Hosts

The host of a URL is a name or an address. With a special scheme a name is a domain name, and a name
that ends in a number has to be an IPv4 address; with any other scheme a name is kept as it is. An
IPv6 address stands in brackets.
-/

namespace CloudClient

/-- The host of a URL. -/
inductive Host where
  /-- a name; it is empty where a URL leaves the host out -/
  | name (s : String)
  /-- an IPv4 address -/
  | ipv4 (address : Ipv4)
  /-- an IPv6 address -/
  | ipv6 (address : Ipv6)
  deriving DecidableEq

namespace Host

/-- The text of a host. -/
def text : Host → String
  | name s => s
  | ipv4 address => String.ofList address.text
  | ipv6 address => "[" ++ String.ofList address.text ++ "]"

/-- Is the host left out? -/
def isEmpty : Host → Bool
  | name s => s.isEmpty
  | _ => false

/-- Reads what stands between brackets; nothing if the text does not start with one. -/
def bracketed? (s : List Char) : Option (Except UrlError Host) :=
  match s with
  | '[' :: rest =>
    if rest.getLast? = some ']' then
      match Ipv6.parse? rest.dropLast with
      | some address => some (.ok (ipv6 address))
      | none => some (.error .invalidIpv6)
    else some (.error .invalidIpv6)
  | _ => none

/-- Reads the host of a URL with a special scheme. -/
def parseSpecial (s : List Char) : Except UrlError Host :=
  match bracketed? s with
  | some result => result
  | none =>
    match Domain.ofBytes? (Percent.decode s) with
    | none => .error .invalidDomain
    | some [] => .error .emptyHost
    | some domain =>
      if Ipv4.endsInNumber domain then
        match Ipv4.parse? domain with
        | some address => .ok (ipv4 address)
        | none => .error .invalidIpv4
      else .ok (name (String.ofList domain))

/-- Is the character one that no host may hold? -/
def isForbidden (c : Char) : Bool := "\x00\t\n\r #/:<>?@[\\]^|".toList.contains c

/-- Reads the host of a URL with any other scheme. -/
def parseOther (s : List Char) : Except UrlError Host :=
  match bracketed? s with
  | some result => result
  | none =>
    if s.any isForbidden then .error .invalidDomainCharacter
    else .ok (name (String.ofList (Percent.encode Percent.controls s)))

end Host

end CloudClient
