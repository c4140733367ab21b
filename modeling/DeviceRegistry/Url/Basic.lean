import DeviceRegistry.Url.Segment

/-!
# `DeviceRegistry.Url.Basic`: URLs

A URL in its parts, each in the form in which it is written. Schemes that name a network protocol
are special: they always have a host, and their paths always have segments. A URL of another scheme
may have a path without segments (`mailto:ops@example.com`); such a URL cannot be extended. `render`
writes the parts, `extend` appends segments to the path.
-/

set_option autoImplicit false

namespace DeviceRegistry

/-- Who a URL addresses. -/
inductive Host where
  | domain (name : String)
  /-- An address of 32 bits. -/
  | ipv4 (address : Nat)
  /-- An address of eight groups of 16 bits. -/
  | ipv6 (groups : List Nat)
  deriving DecidableEq, Repr

/-- The path of a URL. -/
inductive UrlPath where
  /-- A path that is no list of segments. -/
  | rootless (text : String)
  /-- The segments between and behind slashes. A path that ends with a slash has an empty last
  segment. -/
  | segments (items : List String)
  deriving DecidableEq, Repr

/-- A URL. -/
structure Url where
  scheme : String
  userName : String := ""
  password : Option String := none
  host : Option Host
  /-- The port, unless it is the usual one of the scheme. -/
  port : Option Nat := none
  path : UrlPath
  /-- Whether `/.` sets the path off, so that slashes at its front are not read as a host. -/
  setOff : Bool := false
  query : Option String := none
  fragment : Option String := none
  deriving DecidableEq, Repr

/-! ### Hosts -/

namespace Host

/-- The longest run of zero groups from a group on: where it starts and how long it is. Of two runs
of the same length the first counts, a run of one group does not. -/
def longestZeros : (index : Nat) → (groups : List Nat) → Option (Nat × Nat)
  | _, [] => none
  | n, g :: r =>
    let here := ((g :: r).takeWhile (· = 0)).length
    match longestZeros (n + 1) r with
    | some (start, length) =>
      if 2 ≤ here ∧ length ≤ here then some (n, here) else some (start, length)
    | none => if 2 ≤ here then some (n, here) else none

/-- Groups with colons between them. -/
def groupsText (groups : List Nat) : String := ":".intercalate (groups.map Text.hex)

/-- An address of eight groups, the longest run of zeros left out. -/
def ipv6Text (groups : List Nat) : String :=
  match longestZeros 0 groups with
  | none => groupsText groups
  | some (start, length) =>
    groupsText (groups.take start) ++ "::" ++ groupsText (groups.drop (start + length))

/-- The text of a host. -/
def text : Host → String
  | domain name => name
  | ipv4 n =>
    ".".intercalate ([n >>> 24, n >>> 16, n >>> 8, n].map fun part => (part % 256).repr)
  | ipv6 groups => "[" ++ ipv6Text groups ++ "]"

end Host

/-! ### Writing -/

namespace UrlPath

/-- The text of a path. -/
def text : UrlPath → String
  | rootless t => t
  | segments l => String.join (l.map ("/" ++ ·))

end UrlPath

namespace Url

/-- Whether a scheme names a network protocol. -/
def isSpecial (scheme : String) : Bool :=
  ["http", "https", "ws", "wss", "ftp", "file"].contains scheme

/-- The usual port of a scheme. -/
def defaultPort? (scheme : String) : Option Nat :=
  [("http", 80), ("https", 443), ("ws", 80), ("wss", 443), ("ftp", 21)].lookup scheme

/-- The user name and password in front of a host. -/
def userInfo (u : Url) : String :=
  match u.password with
  | some p => u.userName ++ ":" ++ p ++ "@"
  | none => if u.userName = "" then "" else u.userName ++ "@"

/-- A part with a mark in front of it, if there is one. -/
def marked (mark : String) (part : Option String) : String := ((part.map (mark ++ ·)).getD "")

/-- What stands between the scheme and the path. -/
def authority (u : Url) : String :=
  match u.host with
  | some h => "//" ++ u.userInfo ++ h.text ++ marked ":" (u.port.map Nat.repr)
  | none => if u.setOff then "/." else ""

/-- The text of a URL. -/
def render (u : Url) : String :=
  u.scheme ++ ":" ++ u.authority ++ u.path.text ++ marked "?" u.query ++ marked "#" u.fragment

/-- The path and query of a URL, as a request names them. -/
def target (u : Url) : String := u.path.text ++ marked "?" u.query

/-- The URL without user name and password. -/
def withoutUser (u : Url) : Url := { u with userName := "", password := none }

/-! ### Extending -/

/-- The segments without an empty last one. -/
def dropEmptyLast (items : List String) : List String :=
  if items.getLast? = some "" then items.dropLast else items

/-- Appends a segment. A dot and two dots are passed over as they stand. -/
def pushSegment (file : Bool) (set : EncodeSet) (items : List String) (segment : String) :
    List String :=
  if segment = "." ∨ segment = ".." then items
  else
    let items := if items = [""] then [] else items
    (Trail.step file set true { items } segment.toList).items

/-- Appends segments to the path, whatever characters they hold. -/
def extend (segments : List String) (u : Url) : Option Url :=
  match u.path with
  | .rootless _ => none
  | .segments items =>
    let set := if isSpecial u.scheme then specialSegmentSet else segmentSet
    let items := if items = [""] then items else dropEmptyLast items
    some { u with path := .segments (segments.foldl (pushSegment (u.scheme = "file") set) items) }

end Url

end DeviceRegistry
