import CloudClient.Url.Form
import CloudClient.Url.Host

/-!
# URLs

A `Url` is an absolute URL, taken apart, with each part in the form in which it is written.
`Url.text` writes it. `Url.withParameters` adds parameters to the query and changes nothing else.
-/

namespace CloudClient

/-- How the URLs with a scheme are built. -/
inductive SchemeKind where
  /-- the scheme of files -/
  | file
  /-- the schemes of the web, which always have a host -/
  | special
  /-- any other scheme -/
  | other
  deriving DecidableEq

namespace SchemeKind

/-- The special schemes with their ports. -/
def ports : List (String × Nat) :=
  [("http", 80), ("https", 443), ("ws", 80), ("wss", 443), ("ftp", 21)]

/-- The kind of a scheme. -/
def ofScheme (scheme : String) : SchemeKind :=
  if scheme = "file" then file
  else if ports.any (·.1 == scheme) then special
  else other

/-- Do backslashes count as slashes? -/
def allowsBackslash (kind : SchemeKind) : Bool := kind != other

/-- The port that is meant when a URL names none. -/
def defaultPort? (scheme : String) : Option Nat := (ports.find? (·.1 == scheme)).map (·.2)

end SchemeKind

/-- The path of a URL. -/
inductive UrlPath where
  /-- segments, each with a slash in front -/
  | segments (segments : List String)
  /-- a path without a slash in front, as `mailto` has it -/
  | rootless (text : String)
  deriving DecidableEq

/-- The text of a path. -/
def UrlPath.text : UrlPath → String
  | segments ss => String.join (ss.map ("/" ++ ·))
  | rootless text => text

/-- An absolute URL. -/
structure Url where
  /-- the scheme -/
  scheme : String
  /-- the name of the user; it may be empty -/
  username : String
  /-- the password -/
  password : Option String
  /-- the host, if the URL has the part for it -/
  host : Option Host
  /-- the port, if it is not the usual one of the scheme -/
  port : Option Nat
  /-- the path -/
  path : UrlPath
  /-- the query -/
  query : Option String
  /-- the fragment -/
  fragment : Option String
  deriving DecidableEq

namespace Url

/-- The text of the path. -/
def pathText (u : Url) : String := u.path.text

/-- The text of the host, unless it is left out. -/
def hostText? (u : Url) : Option String := (u.host.filter (!·.isEmpty)).map Host.text

/-- The user and the password, with the sign that ends them. -/
def userinfo (u : Url) : String :=
  if u.username.isEmpty && u.password.isNone then ""
  else u.username ++ ((u.password.map (":" ++ ·)).getD "") ++ "@"

/-- What stands between the scheme and the path. A path that starts with two slashes is kept from
looking like a host. -/
def authority (u : Url) : String :=
  match u.host, u.path with
  | some host, _ =>
    "//" ++ u.userinfo ++ host.text ++
      ((u.port.map fun p => ":" ++ Decimal.natText p).getD "")
  | none, .segments ("" :: _ :: _) => "/."
  | none, _ => ""

/-- The path and the query, as they are asked for. -/
def target (u : Url) : String := u.pathText ++ ((u.query.map ("?" ++ ·)).getD "")

/-- The text of the URL. -/
def text (u : Url) : String :=
  u.scheme ++ ":" ++ u.authority ++ u.target ++ ((u.fragment.map ("#" ++ ·)).getD "")

/-- Adds parameters at the end of the query. -/
def withParameters (u : Url) (pairs : List (String × String)) : Url :=
  if pairs.isEmpty then u
  else
    let added := String.ofList (Form.encode pairs)
    match u.query with
    | none | some "" => { u with query := some added }
    | some query => { u with query := some (query ++ "&" ++ added) }

/-- The parameters of the query. -/
def parameters (u : Url) : List (String × String) :=
  match u.query with
  | none => []
  | some query => Form.decode query.toList

end Url

end CloudClient
