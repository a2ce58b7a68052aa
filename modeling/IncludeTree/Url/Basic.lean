import IncludeTree.Url.Address
import IncludeTree.Url.Domain
import IncludeTree.Url.Percent

/-!
# URLs

`Url` is an absolute http or https URL in normal form, as `Url.text` writes it. `Url.parse?` reads
one as browsers do: controls and blanks around it and tabs and line breaks within it are passed
over, any number of slashes or backslashes may stand before the host, the host is brought into its
normal form, dot segments of the path are resolved and every part is percent-encoded. Nothing else
is a remote location, so URLs of other schemes, and texts that are no URL, are refused alike.
-/

namespace IncludeTree

/-- The schemes of remote locations. -/
inductive Url.Scheme where
  /-- Plain. -/
  | http
  /-- Encrypted. -/
  | https
deriving DecidableEq, Repr

/-- The host of a URL. -/
inductive Url.Host where
  /-- A domain name in ASCII form. -/
  | domain (name : String)
  /-- An IPv4 address. -/
  | ipv4 (address : Nat)
  /-- An IPv6 address, by its eight groups. -/
  | ipv6 (groups : List Nat)
deriving DecidableEq, Repr

/-- An absolute http or https URL in normal form; the texts are percent-encoded. -/
structure Url where
  /-- The scheme. -/
  scheme : Url.Scheme
  /-- The user name, which may be empty. -/
  user : String
  /-- The password, which may be empty. -/
  password : String
  /-- The host. -/
  host : Url.Host
  /-- The port, unless it is the one that the scheme implies. -/
  port : Option Nat
  /-- The segments of the path; there is at least one, and an empty one at the end is a slash. -/
  path : List String
  /-- The query. -/
  query : Option String
  /-- The fragment. -/
  fragment : Option String
deriving DecidableEq, Repr

namespace Url

/-- The name of a scheme. -/
def Scheme.name : Scheme → String
  | http => "http"
  | https => "https"

/-- The port that a scheme implies. -/
def Scheme.port : Scheme → Nat
  | http => 80
  | https => 443

/-- The text of a host. -/
def Host.text : Host → String
  | domain name => name
  | ipv4 address => Ipv4.text address
  | ipv6 groups => "[" ++ Ipv6.text groups ++ "]"

/-- The text of a URL. -/
def text (u : Url) : String :=
  let credentials :=
    if u.user = "" && u.password = "" then ""
    else u.user ++ (if u.password = "" then "" else ":" ++ u.password) ++ "@"
  u.scheme.name ++ "://" ++ credentials ++ u.host.text
    ++ u.port.elim "" (fun p => ":" ++ toString p)
    ++ String.join (u.path.map ("/" ++ ·))
    ++ u.query.elim "" ("?" ++ ·) ++ u.fragment.elim "" ("#" ++ ·)

/-! ## Reading -/

/-- The text without the controls and blanks around it and the tabs and line breaks within it. -/
def clean (s : List Char) : List Char :=
  let isOuter := fun c : Char => c.toNat ≤ 0x20
  let inner := ((s.dropWhile isOuter).reverse.dropWhile isOuter).reverse
  inner.filter fun c => c ≠ '\t' && c ≠ '\n' && c ≠ '\r'

/-- The scheme before the first colon, and what follows that colon. -/
def readScheme? (s : List Char) : Option (Scheme × List Char) :=
  match s.dropWhile (· != ':') with
  | [] => none
  | _ :: rest =>
    let name := (s.takeWhile (· != ':')).map Char.toLower
    if name = ['h', 't', 't', 'p'] then some (.http, rest)
    else if name = ['h', 't', 't', 'p', 's'] then some (.https, rest)
    else none

/-- Whether a character is a slash of either kind. -/
def isSlash (c : Char) : Bool := c = '/' || c = '\\'

/-- Whether a character ends the part of a URL that names the server. -/
def endsAuthority (c : Char) : Bool := isSlash c || c = '?' || c = '#'

/-- What stands before the last at sign, if there is one, and what stands behind it. -/
def splitUser (authority : List Char) : Option (List Char) × List Char :=
  let behind := (authority.reverse.takeWhile (· != '@')).reverse
  if behind.length = authority.length then (none, authority)
  else (some (authority.take (authority.length - behind.length - 1)), behind)

/-- The length of the host that a text starts with: up to the first colon outside brackets. -/
def hostLength (bracketed : Bool) : List Char → Nat
  | [] => 0
  | c :: rest =>
    if c = ':' && !bracketed then 0
    else 1 + hostLength (if c = '[' then true else if c = ']' then false else bracketed) rest

/-- The host that a text denotes. -/
def readHost? (s : List Char) : Option Host :=
  match s with
  | [] => none
  | '[' :: rest =>
    if rest.getLast? == some ']' then (Ipv6.parse? rest.dropLast).map .ipv6 else none
  | _ => do
    let decoded ← Percent.characters? (Percent.decode (Text.bytes s))
    let name ← Domain.toAscii? decoded
    if name.isEmpty then none
    else if Ipv4.endsInNumber name then (Ipv4.parse? name).map .ipv4
    else some (.domain (String.ofList name))

/-- The port that stands behind a host with its colon; the one that the scheme implies is left
out. -/
def readPort? (scheme : Scheme) : List Char → Option (Option Nat)
  | [] => some none
  | _ :: digits =>
    if digits.all Char.isDigit then
      match number? 10 digits with
      | none => none
      | some n =>
        if n > 65535 then none
        else some (if digits.isEmpty || n = scheme.port then none else some n)
    else none

/-- Whether a segment stands for the present directory. -/
def isDot (segment : List Char) : Bool :=
  segment = ['.'] || segment.map Char.toLower = ['%', '2', 'e']

/-- Whether a segment stands for the directory above. -/
def isDotDot (segment : List Char) : Bool :=
  let s := segment.map Char.toLower
  s = ['.', '.'] || s = ['.', '%', '2', 'e'] || s = ['%', '2', 'e', '.']
    || s = ['%', '2', 'e', '%', '2', 'e']

/-- Whether a segment is the letter of a drive, which no dot segment removes. -/
def isDrive : List Char → Bool
  | [c, d] => c.isAlpha && (d = ':' || d = '|')
  | _ => false

/-- Resolves the dot segments of a path; `above` holds the segments read so far, newest first. -/
def resolveDots (above : List (List Char)) : List (List Char) → List (List Char)
  | [] => above.reverse
  | segment :: rest =>
    let above' :=
      if isDotDot segment then
        match above with
        | [] => []
        | top :: below => if isDrive top then top :: below else below
      else if isDot segment then above
      else segment :: above
    if rest.isEmpty && (isDotDot segment || isDot segment) then ([] :: above').reverse
    else resolveDots above' rest

/-- The segments of a path, dot segments resolved, from its text without the first slash. -/
def readPath (s : List Char) : List String :=
  let segments := (s.map fun c => if c = '\\' then '/' else c).splitOn '/'
  (resolveDots [] segments).map fun segment =>
    String.ofList (Percent.encode Percent.pathSet segment)

/-- The user name and the password before the host. -/
def readUser (s : List Char) : String × String :=
  let encode := fun part => String.ofList (Percent.encode Percent.userSet part)
  (encode (s.takeWhile (· != ':')), encode ((s.dropWhile (· != ':')).drop 1))

/-- The URL that a text denotes. -/
def parse? (s : String) : Option Url := do
  let (scheme, s) ← readScheme? (clean s.toList)
  let s := s.dropWhile isSlash
  let (credentials, server) := splitUser (s.takeWhile (!endsAuthority ·))
  let (user, password) := readUser (credentials.getD [])
  let host ← readHost? (server.take (hostLength false server))
  let port ← readPort? scheme (server.drop (hostLength false server))
  let s := s.dropWhile (!endsAuthority ·)
  let path := s.takeWhile (fun c => c != '?' && c != '#')
  let s := s.dropWhile (fun c => c != '?' && c != '#')
  let (query, fragment) := match s with
    | '?' :: s => (some (s.takeWhile (· != '#')), (s.dropWhile (· != '#')).tail?)
    | _ => (none, s.tail?)
  return {
    scheme, user, password, host, port
    path := readPath (path.drop 1)
    query := query.map fun q => String.ofList (Percent.encode Percent.querySet q)
    fragment := fragment.map fun f => String.ofList (Percent.encode Percent.fragmentSet f) }

end Url

/-- Whether a text is an absolute http or https URL with a host. -/
def isUrl (s : String) : Bool := (Url.parse? s).isSome

end IncludeTree
