import SoapGateway.Number.Power
import SoapGateway.Url.Host

/-!
# URLs

Reading a URL without a base and writing it in its normal form. Blanks at both ends and line ends
inside are passed over. The schemes of the web have special rules: their host must not be empty, a
backslash counts as a slash, and the path is never empty. `parse` says why a text is no URL, `text`
gives the normal form.
-/
namespace SoapGateway

structure Url where
  scheme : List Char
  username : List Char := []
  password : Option (List Char) := none
  host : Option Url.Host := none
  port : Option Nat := none
  path : List Char
  query : Option (List Char) := none
  fragment : Option (List Char) := none
  deriving DecidableEq, Repr

namespace Url

/-- The port of a scheme with special rules, if nothing else is said; `file` has none. -/
def specialPort? (scheme : List Char) : Option Nat :=
  [("http", 80), ("https", 443), ("ws", 80), ("wss", 443), ("ftp", 21)].lookup
    (String.ofList scheme)

def isFile (scheme : List Char) : Bool := scheme == "file".toList

def isSpecial (scheme : List Char) : Bool := (specialPort? scheme).isSome || isFile scheme

/-- The characters that end the part of a URL that names the server. -/
def endsAuthority (special : Bool) (c : Char) : Bool :=
  c == '/' || c == '?' || c == '#' || (special && c == '\\')

def inFragment (c : Char) : Bool := isControl c || [' ', '"', '<', '>', '\x60'].contains c

def inQuery (special : Bool) (c : Char) : Bool :=
  isControl c || [' ', '"', '#', '<', '>'].contains c || (special && c == '\'')

def inPath (c : Char) : Bool := inFragment c || ['#', '?', '\x7b', '\x7d'].contains c

def inUserinfo (c : Char) : Bool :=
  inPath c || ['/', ':', ';', '=', '@', '[', '\\', ']', '^', '|'].contains c

/-- A character of a scheme after the first one. -/
def isSchemeChar (c : Char) : Bool :=
  let c := Text.lowerAscii c
  ('a' ≤ c && c ≤ 'z') || ('0' ≤ c && c ≤ '9') || c == '+' || c == '-' || c == '.'

/-- The scheme in lower case and what follows its colon. -/
def splitScheme (s : List Char) : Option (List Char × List Char) :=
  let scheme := (s.takeWhile isSchemeChar).map Text.lowerAscii
  match scheme, s.dropWhile isSchemeChar with
  | c :: _, ':' :: rest => if 'a' ≤ c ∧ c ≤ 'z' then some (scheme, rest) else none
  | _, _ => none

/-- The parts before and after the last sign `@`, if there is one. -/
def splitUserinfo (s : List Char) : Option (List Char × List Char) :=
  let tail := (s.reverse.takeWhile (· != '@')).reverse
  if tail.length < s.length then some (s.take (s.length - tail.length - 1), tail) else none

/-- The part before the port; a colon in brackets does not begin a port. -/
def hostPart : Bool → List Char → List Char
  | _, [] => []
  | inside, c :: rest =>
    if c = ':' ∧ inside = false then []
    else c :: hostPart (if c = '[' then true else if c = ']' then false else inside) rest

/-- Reads a port. None is kept if nothing is written or the scheme implies it. -/
def portOf (scheme ds : List Char) : Except Fault (Option Nat) :=
  let n := Text.valueOf 10 ds
  if !ds.all Text.isDigit || Number.twoPow 16 ≤ n then .error .port
  else .ok (if ds.isEmpty || specialPort? scheme == some n then none else some n)

/-- A segment that stands for the place it is in. -/
def isHere (s : List Char) : Bool := [".", "%2e"].contains (String.ofList (s.map Text.lowerAscii))

/-- A segment that stands for the place above. -/
def isAbove (s : List Char) : Bool :=
  ["..", ".%2e", "%2e.", "%2e%2e"].contains (String.ofList (s.map Text.lowerAscii))

/-- Adds a segment to a path; `last` if no slash follows it. -/
def addSegment (path : List (List Char)) (last : Bool) (s : List Char) : List (List Char) :=
  if isAbove s then path.dropLast ++ (if last then [[]] else [])
  else if isHere s then path ++ (if last then [[]] else [])
  else path ++ [Text.percentEncode inPath s]

def addSegments (path : List (List Char)) : List (List Char) → List (List Char)
  | [] => path
  | [s] => addSegment path true s
  | s :: rest => addSegments (addSegment path false s) rest

/-- The path that a text after the server writes. -/
def pathOf (special : Bool) (s : List Char) : List Char :=
  let s := if special then s.map fun c => if c = '\\' then '/' else c else s
  let segments := match s with
    | '/' :: rest => addSegments [] (Text.splitAll '/' rest)
    | [] => if special then [[]] else []
    | s => addSegments [] (Text.splitAll '/' s)
  segments.flatMap fun segment => '/' :: segment

def splitTail (s : List Char) : List Char × Option (List Char) × Option (List Char) :=
  let (front, fragment) := Text.splitOnce '#' s
  let (front, query) := Text.splitOnce '?' front
  (front, query, fragment)

def withTail (u : Url) (query fragment : Option (List Char)) : Url :=
  { u with
    query := query.map (Text.percentEncode (inQuery (isSpecial u.scheme)))
    fragment := fragment.map (Text.percentEncode inFragment) }

def ofAuthority (scheme s : List Char) : Except Fault Url :=
  let special := isSpecial scheme
  let authority := s.takeWhile fun c => !endsAuthority special c
  let rest := s.dropWhile fun c => !endsAuthority special c
  let (userinfo, server) := match splitUserinfo authority with
    | some (userinfo, server) => (some userinfo, server)
    | none => (none, authority)
  let (username, password) := Text.splitOnce ':' (userinfo.getD [])
  let password := password.filter fun p => !p.isEmpty
  let written := !username.isEmpty || password.isSome
  let hostText := hostPart false server
  let afterColon := (server.drop hostText.length).drop 1
  -- A backslash ends a port even where it does not end a host.
  let portText := afterColon.takeWhile (· != '\\')
  let rest := afterColon.dropWhile (· != '\\') ++ rest
  if hostText.isEmpty ∧
      (special ∨ written ∨ server ≠ [] ∨ (userinfo = some [] ∧ rest ≠ [])) then .error .emptyHost
  else
    match (if special then Host.ofSpecial hostText else Host.ofOpaque hostText) with
    | .error f => .error f
    | .ok host =>
      match portOf scheme portText with
      | .error f => .error f
      | .ok port =>
        let (path, query, fragment) := splitTail rest
        .ok (withTail
          { scheme := scheme, username := Text.percentEncode inUserinfo username,
            password := password.map (Text.percentEncode inUserinfo), host := some host,
            port := port, path := pathOf special path } query fragment)

/-- Whether a text is a letter and a sign that together name a drive. -/
def isDrive : List Char → Bool
  | [c, d] =>
    let c := Text.lowerAscii c
    ('a' ≤ c && c ≤ 'z') && (d == ':' || d == '|')
  | _ => false

/-- The path of a file, without empty segments at its beginning. -/
def filePathOf (s : List Char) : List Char := '/' :: (pathOf true s).dropWhile (· == '/')

def ofFile (s : List Char) : Except Fault Url :=
  let scheme := "file".toList
  let plain := s.map fun c => if c = '\\' then '/' else c
  match plain with
  | '/' :: '/' :: _ =>
    let rest := s.drop 2
    let written := rest.takeWhile fun c => !endsAuthority true c
    let hostText := if isDrive written then [] else written
    let (path, query, fragment) := splitTail (rest.drop hostText.length)
    let host := if hostText.isEmpty then .ok .empty else Host.ofSpecial hostText
    host.map fun h =>
      let h := if h = .name "localhost".toList then .empty else h
      withTail { scheme := scheme, host := some h, path := filePathOf path } query fragment
  | _ =>
    let (path, query, fragment) := splitTail s
    .ok (withTail { scheme := scheme, host := some .empty, path := filePathOf path } query fragment)

def ofOther (scheme : List Char) : List Char → Except Fault Url
  | '/' :: '/' :: rest => ofAuthority scheme rest
  | s =>
    let (path, query, fragment) := splitTail s
    let path := match path with
      | '/' :: _ => pathOf false path
      | path => Text.percentEncode isControl path
    .ok (withTail { scheme := scheme, path := path } query fragment)

/-- The text that counts: without controls and blanks at its ends, and without tabs and line ends.
-/
def strip (s : List Char) : List Char :=
  (Text.trimBy (fun c => c.toNat ≤ 0x20) s).filter fun c => c != '\t' && c != '\n' && c != '\r'

def parse (text : String) : Except Fault Url :=
  match splitScheme (strip text.toList) with
  | none => .error .relative
  | some (scheme, rest) =>
    if isFile scheme then ofFile rest
    else if isSpecial scheme then
      ofAuthority scheme (rest.dropWhile fun c => c == '/' || c == '\\')
    else ofOther scheme rest

def hasHost (u : Url) : Bool := u.host.any (· != .empty)

/-- The credentials of a URL and the sign after them, if there are any. -/
def userinfoText (u : Url) : List Char :=
  match u.username, u.password with
  | [], none => []
  | name, none => name ++ ['@']
  | name, some password => name ++ ':' :: password ++ ['@']

/-- The server of a URL and what precedes it. A path that begins with two slashes is kept apart from
the scheme. -/
def authorityText (u : Url) : List Char :=
  match u.host with
  | none => if u.path.take 2 == "//".toList then "/.".toList else []
  | some host =>
    let port := match u.port with
      | none => []
      | some n => ':' :: Text.digits n
    "//".toList ++ u.userinfoText ++ host.text ++ port

def text (u : Url) : String :=
  let part (mark : Char) : Option (List Char) → List Char
    | none => []
    | some s => mark :: s
  String.ofList
    (u.scheme ++ ':' :: u.authorityText ++ u.path ++ part '?' u.query ++ part '#' u.fragment)

/-- The text of a part without its escapes, if it is one. -/
def partText? (s : List Char) : Option String := Utf8.decode? (Text.percentDecode (Utf8.encode s))

/-- A URL without credentials; they are kept if the name is no text. -/
def withoutCredentials (u : Url) : Url :=
  if (partText? u.username).isNone then u else { u with username := [], password := none }

end Url

end SoapGateway
