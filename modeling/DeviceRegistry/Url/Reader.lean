import DeviceRegistry.Url.Host

/-!
# `DeviceRegistry.Url.Reader`: reading URLs

`Url.parse` reads a text as a URL on its own. Blanks around it do not count, nor do tabs and line
ends anywhere. What a part cannot hold is encoded, dots in the path are resolved, the scheme and the
host are folded to lower case, and the usual port of the scheme is dropped.
-/

set_option autoImplicit false

namespace DeviceRegistry.Url

/-- The text without controls and blanks around it. -/
def trimmed (s : String) : List Char :=
  let isOuter (c : Char) : Bool := c.toNat ≤ 0x20
  ((s.toList.dropWhile isOuter).reverse.dropWhile isOuter).reverse

/-- Whether a character may stand in a scheme. -/
def isSchemeChar (c : Char) : Bool := c.isAlphanum || c = '+' || c = '-' || c = '.'

/-- Reads the scheme: its name and what follows the colon. -/
def readScheme (s : List Char) : Option (String × List Char) :=
  match s.head?, s.dropWhile isSchemeChar with
  | some c, ':' :: r =>
    if c.isAlpha then some (String.ofList ((s.takeWhile isSchemeChar).map Char.toLower), r)
    else none
  | _, _ => none

/-- Whether a character ends a host with its port. -/
def endsAuthority (special : Bool) (c : Char) : Bool :=
  c = '/' || c = '?' || c = '#' || (special && c = '\\')

/-- Splits at the last of a character. -/
def splitLast (mark : Char) (s : List Char) : Option (List Char × List Char) :=
  if s.contains mark then
    let behind := (s.reverse.takeWhile (· ≠ mark)).reverse
    some (s.take (s.length - behind.length - 1), behind)
  else none

/-- The user name and password in an encoded form. An empty password is none. -/
def readUser (s : List Char) : String × Option String :=
  let name := s.takeWhile (· ≠ ':')
  let password := (s.dropWhile (· ≠ ':')).drop 1
  (percentEncode userInfoSet name,
    if password.isEmpty then none else some (percentEncode userInfoSet password))

/-- Splits a host from its port, at the first colon outside of brackets. -/
def splitPort : (bracketed : Bool) → List Char → List Char × Option (List Char)
  | _, [] => ([], none)
  | bracketed, c :: r =>
    if c = ':' ∧ !bracketed then ([], some r)
    else
      let bracketed := if c = '[' then true else if c = ']' then false else bracketed
      let (host, port) := splitPort bracketed r
      (c :: host, port)

/-- Reads a port in front of what follows it. A backslash ends it in any scheme. -/
def readPort (scheme : String) (s : List Char) : Except UrlError (Option Nat × List Char) :=
  let digits := s.takeWhile (· ≠ '\\')
  match Host.valueIn? 10 digits with
  | some n =>
    if 65535 < n then .error .invalidPort
    else
      .ok (if digits.isEmpty ∨ defaultPort? scheme = some n then none else some n,
        s.drop digits.length)
  | none => .error .invalidPort

/-- Splits a text at a character, which is lost. -/
def cut (mark : Char) (s : List Char) : List Char × Option (List Char) :=
  match s.dropWhile (· ≠ mark) with
  | [] => (s, none)
  | _ :: r => (s.takeWhile (· ≠ mark), some r)

/-- Reads a path behind its first slash. -/
def readSegments (scheme : String) (s : List Char) : Trail :=
  let s := if isSpecial scheme then s.map fun c => if c = '\\' then '/' else c else s
  Trail.steps (scheme = "file") pathSet {} (Text.splitAt '/' s)

/-- Drops the slash at the front of a path. In a special scheme, a backslash is one too. -/
def dropSlash (scheme : String) : List Char → List Char
  | '/' :: r => r
  | '\\' :: r => if isSpecial scheme then r else '\\' :: r
  | s => s

/-- Reads a path that follows a host. Only that of a special scheme is never empty. -/
def readPath (scheme : String) (s : List Char) : Trail :=
  if s.isEmpty ∧ !isSpecial scheme then {} else readSegments scheme (dropSlash scheme s)

/-- Splits off the query and the fragment, of which only the path may still hold characters that are
passed over. -/
def splitRest (scheme : String) (s : List Char) :
    List Char × Option String × Option String :=
  let (s, fragment) := cut '#' s
  let (s, query) := cut '?' s
  let querySet := if isSpecial scheme then specialQuerySet else querySet
  (s, query.map fun q => percentEncode querySet (withoutIgnored q),
    fragment.map fun f => percentEncode fragmentSet (withoutIgnored f))

/-- Reads what follows two slashes. -/
def readAuthority (scheme : String) (s : List Char) : Except UrlError Url := do
  let special := isSpecial scheme
  let authority := s.takeWhile fun c => !endsAuthority special c
  let rest := s.dropWhile fun c => !endsAuthority special c
  let (user, place) ← match splitLast '@' authority with
    | none => .ok (("", none), authority)
    | some (user, place) =>
      if user.isEmpty ∧ place.isEmpty ∧ !rest.isEmpty then .error .emptyHost
      else .ok (readUser user, place)
  let (hostText, portText) := splitPort false place
  if special ∧ hostText.isEmpty then throw .emptyHost
  let host ← if special then Host.readSpecial hostText else Host.readPlain hostText
  if hostText.isEmpty ∧ portText.isSome then throw .emptyHost
  let (port, behind) ← match portText with
    | some t => readPort scheme t
    | none => .ok (none, [])
  if hostText.isEmpty ∧ user ≠ ("", none) then throw .emptyHost
  let (path, query, fragment) := splitRest scheme (behind ++ rest)
  return {
    scheme := scheme
    userName := user.1
    password := user.2
    host := some host
    port := port
    path := .segments (readPath scheme path).items
    query := query
    fragment := fragment }

/-- The segments of a path without empty ones in front. -/
def dropEmptyFirst (items : List String) : List String :=
  match items.dropWhile (· = "") with
  | [] => [""]
  | l => l

/-- What follows a slash at the front of a text, or a backslash. -/
def afterSlash? (s : List Char) : Option (List Char) :=
  match s.dropWhile isIgnored with
  | c :: r => if c = '/' ∨ c = '\\' then some r else none
  | [] => none

/-- Reads the host of a file, if it has one, and gives what follows as the path. A drive is no host.
Where there is no host, the slash in front of the path is part of it. -/
def readFileHost (s : List Char) : Except UrlError (Host × List Char) := do
  let text := withoutIgnored (s.takeWhile fun c => !endsAuthority true c)
  let rest := s.dropWhile fun c => !endsAuthority true c
  if (driveLetter? text).isSome then return (.domain "", s)
  if text.isEmpty then return (.domain "", rest)
  match ← Host.readSpecial text with
  | .domain "localhost" => return (.domain "", rest)
  | host => return (host, dropSlash "file" rest)

/-- Reads what follows the scheme of a file. Of a host and a drive, the drive stays. -/
def readFile (s : List Char) : Except UrlError Url := do
  let (host, s) ← match afterSlash? s with
    | none => .ok (.domain "", s)
    | some r =>
      match afterSlash? r with
      | none => .ok (.domain "", r)
      | some r => readFileHost r
  let (path, query, fragment) := splitRest "file" s
  let trail := readSegments "file" path
  return {
    scheme := "file"
    host := some (if trail.hasDrive then .domain "" else host)
    path := .segments (dropEmptyFirst trail.items)
    query := query
    fragment := fragment }

/-- Reads what follows a scheme that is not special. -/
def readPlain (scheme : String) (s : List Char) : Except UrlError Url :=
  let (rest, query, fragment) := splitRest scheme s
  let u : Url := { scheme, host := none, path := .rootless "", query, fragment }
  match s with
  | '/' :: '/' :: r => readAuthority scheme r
  | '/' :: _ =>
    let items := (readPath scheme rest).items
    .ok { u with path := .segments items, setOff := items.head? = some "" && 1 < items.length }
  | _ => .ok { u with path := .rootless (percentEncode controlSet rest) }

/-- Reads a text as a URL on its own. Any number of slashes may stand in front of a host. -/
def parse (text : String) : Except UrlError Url :=
  let s := trimmed text
  match readScheme (withoutIgnored s) with
  | none => .error .relativeWithoutBase
  | some (scheme, rest) =>
    if scheme = "file" then readFile ((s.dropWhile (· ≠ ':')).drop 1)
    else if isSpecial scheme then
      readAuthority scheme (rest.dropWhile fun c => c = '/' || c = '\\')
    else readPlain scheme rest

end DeviceRegistry.Url
