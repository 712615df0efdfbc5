import CloudClient.Url.Basic

/-!
# Reading URLs

`Url.parse` reads an absolute URL the way browsers do. Blanks and control characters around it are
dropped, and so are tabs and line ends inside. The parts are cut off one after the other: scheme,
user and password, host, port, path, query and fragment.

Each step takes the text from where it stands and gives the rest, so that the whole is a
composition of the steps; there is no state.
-/

namespace CloudClient.Url

/-! ## Preparation -/

/-- Is the character a control character or a blank? -/
def isControlOrBlank (c : Char) : Bool := c.toNat ≤ 0x20

/-- Is the character one that is dropped wherever it stands? -/
def isDropped (c : Char) : Bool := c == '\t' || c == '\n' || c == '\r'

/-- The text without the characters that do not count. -/
def cleaned (s : List Char) : List Char :=
  (((s.dropWhile isControlOrBlank).reverse.dropWhile isControlOrBlank).reverse).filter
    (!isDropped ·)

/-! ## Scheme -/

/-- May the character stand in a scheme after the first one? -/
def isSchemeChar (c : Char) : Bool := c.isAlphanum || c == '+' || c == '-' || c == '.'

/-- The scheme in front of a text, in small letters, and what follows its colon. -/
def splitScheme? (s : List Char) : Option (String × List Char) :=
  let scheme := s.takeWhile isSchemeChar
  match scheme, s.drop scheme.length with
  | c :: _, ':' :: rest =>
    if c.isAlpha then some (String.ofList (scheme.map Char.toLower), rest) else none
  | _, _ => none

/-! ## User, host and port -/

/-- Does the character end the part of the user, the host and the port? -/
def endsAuthority (kind : SchemeKind) (c : Char) : Bool :=
  c == '/' || c == '?' || c == '#' || (kind.allowsBackslash && c == '\\')

/-- What stands before the last `@` of the authority, if there is one, and what follows it. -/
def splitUserinfo (kind : SchemeKind) (s : List Char) : Option (List Char) × List Char :=
  let authority := s.takeWhile (!endsAuthority kind ·)
  if authority.contains '@' then
    let host := (authority.reverse.takeWhile (· ≠ '@')).reverse
    let userinfo := authority.take (authority.length - host.length - 1)
    (some userinfo, s.drop (userinfo.length + 1))
  else (none, s)

/-- The user and the password; an empty password is none. -/
def credentials (userinfo : List Char) : String × Option String :=
  let user := userinfo.takeWhile (· ≠ ':')
  let password := userinfo.drop (user.length + 1)
  let write (s : List Char) := String.ofList (Percent.encode Percent.userinfoSet s)
  (write user, if password.isEmpty then none else some (write password))

/-- Cuts the host off: it ends at a colon outside of brackets, or where the authority ends. -/
def splitHost (kind : SchemeKind) : Bool → List Char → List Char × List Char
  | _, [] => ([], [])
  | inBrackets, c :: s =>
    if (c = ':' ∧ !inBrackets) ∨ endsAuthority kind c then ([], c :: s)
    else
      let inBrackets := if c = '[' then true else if c = ']' then false else inBrackets
      let (host, rest) := splitHost kind inBrackets s
      (c :: host, rest)

/-- One more than the greatest port. -/
def portLimit : Nat := 0x1_0000

/-- Reads the port after a colon, if there is one. The usual port of the scheme is none. -/
def splitPort (scheme : String) (s : List Char) : Except UrlError (Option Nat × List Char) :=
  match s with
  | ':' :: s =>
    let digits := s.takeWhile Char.isDigit
    let rest := s.drop digits.length
    let port := Decimal.value digits
    let ended := match rest with
      | [] => true
      | c :: _ => endsAuthority .special c
    if !ended || portLimit ≤ port then .error .invalidPort
    else if digits.isEmpty || SchemeKind.defaultPort? scheme = some port then .ok (none, rest)
    else .ok (some port, rest)
  | _ => .ok (none, s)

/-! ## Path -/

/-- The text up to the query or the fragment, and from there on. -/
def splitPath (s : List Char) : List Char × List Char :=
  (s.takeWhile fun c => c ≠ '?' ∧ c ≠ '#', s.dropWhile fun c => c ≠ '?' ∧ c ≠ '#')

/-- The segments of a path. -/
def rawSegments (kind : SchemeKind) (s : List Char) : List (List Char) :=
  partsAt '/' (if kind.allowsBackslash then s.map fun c => if c = '\\' then '/' else c else s)

/-- The segment with its points written out. -/
def withoutEscapedDots : List Char → List Char
  | '%' :: '2' :: e :: s =>
    if e = 'e' ∨ e = 'E' then '.' :: withoutEscapedDots s else '%' :: '2' :: e :: s
  | '.' :: s => '.' :: withoutEscapedDots s
  | s => s

/-- Does the segment stand for where the path is? -/
def isSingleDot (segment : List Char) : Bool := withoutEscapedDots segment == ['.']

/-- Does the segment stand for one step up? -/
def isDoubleDot (segment : List Char) : Bool := withoutEscapedDots segment == ['.', '.']

/-- Is the segment the letter of a drive, with a colon or a bar? -/
def isDriveLetter (segment : List Char) : Bool :=
  match segment with
  | [c, d] => c.isAlpha && (d == ':' || d == '|')
  | _ => false

/-- A segment as it is written: the letter of a drive has a colon. -/
def writtenSegment (kind : SchemeKind) (segment : List Char) : List Char :=
  match kind, segment with
  | .file, [c, d] => if isDriveLetter [c, d] then [c, ':'] else [c, d]
  | _, _ => segment

/-- One step up from a path, given in reverse; the letter of a drive stays. -/
def stepUp (kind : SchemeKind) : List (List Char) → List (List Char)
  | [] => []
  | segment :: rest =>
    if kind = .file ∧ isDriveLetter segment then segment :: rest else rest

/-- Walks along segments from a path that is given in reverse. -/
def walk (kind : SchemeKind) : List (List Char) → List (List Char) → List (List Char)
  | path, [] => path
  | path, segment :: rest =>
    if isDoubleDot segment then
      let path := stepUp kind path
      walk kind (if rest.isEmpty then [] :: path else path) rest
    else if isSingleDot segment then
      walk kind (if rest.isEmpty then [] :: path else path) rest
    else walk kind (writtenSegment kind (Percent.encode Percent.pathSet segment) :: path) rest

/-- The path that segments lead to. A path of a file has no empty segments in front. -/
def resolved (kind : SchemeKind) (segments : List (List Char)) : List String :=
  let path := (walk kind [] segments).reverse
  let path :=
    if kind = .file then
      match path.dropWhile (·.isEmpty) with
      | [] => [[]]
      | path => path
    else path
  path.map String.ofList

/-- The path after the authority. With a special scheme there always is one. -/
def pathAfterAuthority (kind : SchemeKind) (s : List Char) : UrlPath :=
  match s with
  | '/' :: rest => .segments (resolved kind (rawSegments kind rest))
  | [] => .segments (if kind = .other then [] else resolved kind [[]])
  | c :: rest =>
    if c = '\\' ∧ kind.allowsBackslash then .segments (resolved kind (rawSegments kind rest))
    else .segments (resolved kind (rawSegments kind (c :: rest)))

/-! ## Query and fragment -/

/-- The query and the fragment of what follows a path. -/
def queryAndFragment (kind : SchemeKind) (s : List Char) : Option String × Option String :=
  let set := if kind = .other then Percent.querySet else Percent.specialQuerySet
  let fragment (s : List Char) := String.ofList (Percent.encode Percent.fragmentSet s)
  match s with
  | '?' :: s =>
    let query := s.takeWhile (· ≠ '#')
    let written := String.ofList (Percent.encode set query)
    match s.drop query.length with
    | _ :: rest => (some written, some (fragment rest))
    | [] => (some written, none)
  | _ :: rest => (none, some (fragment rest))
  | [] => (none, none)

/-! ## The whole -/

/-- Reads a URL from the authority on. -/
def parseAuthority (scheme : String) (kind : SchemeKind) (s : List Char) :
    Except UrlError Url := do
  let (userinfo, s) := splitUserinfo kind s
  let (username, password) := credentials (userinfo.getD [])
  let (hostText, rest) := splitHost kind false s
  -- an `@` without a user still asks for a host, unless nothing at all follows
  if userinfo = some [] ∧ hostText.isEmpty ∧ !s.isEmpty then throw .emptyHost
  let host ←
    if kind = .other then Host.parseOther hostText
    else if hostText.isEmpty then throw .emptyHost
    else Host.parseSpecial hostText
  if host.isEmpty ∧ rest.head? = some ':' then throw .emptyHost
  let (port, rest) ← splitPort scheme rest
  if host.isEmpty ∧ (username ≠ "" ∨ password.isSome) then throw .emptyHost
  let (path, rest) := splitPath rest
  let (query, fragment) := queryAndFragment kind rest
  return {
    scheme, username, password, port, query, fragment
    host := some host
    path := pathAfterAuthority kind path }

/-- The host of a file and the rest. A drive is no host, and neither is the machine itself. -/
def splitFileHost (s : List Char) : Except UrlError (Host × List Char) := do
  let hostText := s.takeWhile (!endsAuthority .file ·)
  if hostText.isEmpty ∨ isDriveLetter hostText then return (.name "", s)
  let host ← Host.parseSpecial hostText
  return (if host = .name "localhost" then .name "" else host, s.drop hostText.length)

/-- Reads the URL of a file. A host goes away before the letter of a drive. -/
def parseFile (scheme : String) (s : List Char) : Except UrlError Url := do
  let isSlash (c : Char) := c == '/' || c == '\\'
  let (host, rest) ← match s with
    | a :: b :: rest =>
      if isSlash a && isSlash b then splitFileHost rest else pure (.name "", s)
    | _ => pure (.name "", s)
  let (path, rest) := splitPath rest
  let (query, fragment) := queryAndFragment .file rest
  let path := resolved .file (rawSegments .file path)
  let onDrive := path.any fun segment => isDriveLetter segment.toList
  return {
    scheme, query, fragment
    username := ""
    password := none
    host := some (if onDrive then .name "" else host)
    port := none
    path := .segments path }

/-- Reads a URL without an authority. -/
def parseOther (scheme : String) (s : List Char) : Url :=
  let (path, rest) := splitPath s
  let (query, fragment) := queryAndFragment .other rest
  {
    scheme, query, fragment
    username := ""
    password := none
    host := none
    port := none
    path := match path with
      | '/' :: path => .segments (resolved .other (rawSegments .other path))
      | _ => .rootless (String.ofList (Percent.encode Percent.controls path)) }

/-- Reads an absolute URL. -/
def parse (s : String) : Except UrlError Url :=
  match splitScheme? (cleaned s.toList) with
  | none => .error .relativeWithoutBase
  | some (scheme, rest) =>
    match SchemeKind.ofScheme scheme with
    | .file => parseFile scheme rest
    | .special => parseAuthority scheme .special (rest.dropWhile fun c => c == '/' || c == '\\')
    | .other =>
      match rest with
      | '/' :: '/' :: rest => parseAuthority scheme .other rest
      | _ => .ok (parseOther scheme rest)

end CloudClient.Url
