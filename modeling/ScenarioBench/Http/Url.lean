import ScenarioBench.Http.Host
import ScenarioBench.Text.Octets
import ScenarioBench.Text.Search

/-! Addresses of web resources.

An address is read leniently: blanks around it and line breaks in it do not count, backslashes stand
for slashes, a port that the scheme implies disappears, `.` and `..` are resolved in the path, and
what may not stand in a part is percent-encoded. Only addresses with the schemes of the web are read.
A user before the host is kept apart: it is not shown with the address.
-/

set_option autoImplicit false

namespace ScenarioBench.Http

inductive Scheme where
  | plain
  | secure
  deriving DecidableEq, Repr

namespace Scheme

def spelling : Scheme → String
  | plain => "http"
  | secure => "https"

def port : Scheme → Nat
  | plain => 80
  | secure => 443

end Scheme

structure Url where
  scheme : Scheme
  user : Option (String × String)
  host : String
  port : Option Nat
  path : String
  query : Option String
  fragment : Option String
  deriving DecidableEq, Repr

namespace Url

def authority (url : Url) : String :=
  url.host ++ (url.port.map fun port => ":" ++ toString port).getD ""

def target (url : Url) : String :=
  url.path ++ (url.query.map ("?" ++ ·)).getD ""

def text (url : Url) : String :=
  url.scheme.spelling ++ "://" ++ url.authority ++ url.target ++ (url.fragment.map ("#" ++ ·)).getD ""

def upperHex (value : Nat) : Char :=
  if value < 10 then Char.ofNat ('0'.toNat + value) else Char.ofNat ('A'.toNat + (value - 10))

def percent (octet : UInt8) : List Char :=
  ['%', upperHex (octet.toNat / 16), upperHex (octet.toNat % 16)]

/-- Percent-encode the characters that may not stand for themselves; those beyond ASCII never may. -/
def encode (reserved : Char → Bool) (characters : List Char) : String :=
  String.ofList (characters.flatMap fun character =>
    if character.toNat < 0x20 || 0x7E < character.toNat || reserved character then
      (Octets.ofText (String.singleton character)).flatMap percent
    else [character])

def inPath : Char → Bool := " \"#<>?`\x7b\x7d".toList.contains
def inQuery : Char → Bool := " \"#<>'".toList.contains
def inFragment : Char → Bool := " \"<>`".toList.contains

def splitAt (stops : Char → Bool) (characters : List Char) : List Char × List Char :=
  (characters.takeWhile fun character => !stops character,
    characters.dropWhile fun character => !stops character)

def segments : List Char → List (List Char)
  | [] => [[]]
  | head :: rest =>
    if head = '/' ∨ head = '\\' then [] :: segments rest
    else match segments rest with
      | [] => [[head]]
      | first :: others => (head :: first) :: others

def isHere (segment : List Char) : Bool :=
  [".", "%2e"].contains (String.ofList (segment.map Char.toLower))

def isParent (segment : List Char) : Bool :=
  ["..", ".%2e", "%2e.", "%2e%2e"].contains (String.ofList (segment.map Char.toLower))

/-- The segments of a path with `.` and `..` resolved; at the end they leave an empty segment. -/
def resolve (done : List (List Char)) : List (List Char) → List (List Char)
  | [] => done.reverse
  | segment :: rest =>
    if isParent segment then
      resolve (if rest.isEmpty then [] :: done.tail else done.tail) rest
    else if isHere segment then resolve (if rest.isEmpty then [] :: done else done) rest
    else resolve (segment :: done) rest

def normalPath (characters : List Char) : String :=
  match characters with
  | [] => "/"
  | _ :: rest =>
    String.join ((resolve [] (segments rest)).map fun segment => "/" ++ encode inPath segment)

def splitPort (authority : List Char) : List Char × Option (List Char) :=
  let inPort (character : Char) : Bool := character ≠ ':' && character ≠ ']'
  -- A colon within brackets belongs to the host.
  let port := (authority.reverse.takeWhile inPort).reverse
  let before := authority.take (authority.length - port.length)
  if before.getLast? = some ':' then (before.dropLast, some port) else (authority, none)

/-- The port of an authority: `none` when it is none, and no port when the scheme implies it. -/
def readPort (scheme : Scheme) : Option (List Char) → Option (Option Nat)
  | none | some [] => some none
  | some digits =>
    if digits.all Char.isDigit then
      match (String.ofList digits).toNat? with
      | some port =>
        if 65535 < port then none else some (if port = scheme.port then none else some port)
      | none => none
    else none

def readUser? (characters : List Char) : Option (String × String) := do
  let name ← (Host.decode (characters.takeWhile (· ≠ ':'))).toText?
  let password ← (Host.decode (characters.dropWhile (· ≠ ':')).tail).toText?
  if name.isEmpty && password.isEmpty then none else some (name, password)

def cleaned (text : String) : List Char :=
  let blank (character : Char) : Bool := character.toNat ≤ 0x20
  -- Blanks go at both ends, breaks everywhere.
  let trimmed := ((text.toList.dropWhile blank).reverse.dropWhile blank).reverse
  trimmed.filter fun character => character ≠ '\t' && character ≠ '\n' && character ≠ '\r'

def splitScheme? (characters : List Char) : Option (String × List Char) :=
  match characters.takeWhile (· ≠ ':'), characters.dropWhile (· ≠ ':') with
  | first :: others, _ :: rest =>
    if first.isAlpha && others.all fun c => c.isAlphanum || c = '+' || c = '-' || c = '.' then
      some (String.ofList ((first :: others).map Char.toLower), rest)
    else none
  | _, _ => none

def readRest? (scheme : Scheme) (characters : List Char) : Option Url := do
  let separator (character : Char) : Bool := character = '/' || character = '\\'
  let characters := characters.dropWhile separator
  let (authority, rest) := splitAt (fun c => separator c || c = '?' || c = '#') characters
  -- The last of several at signs ends the user.
  let server := (authority.reverse.takeWhile (· ≠ '@')).reverse
  let user := (authority.reverse.dropWhile (· ≠ '@')).tail.reverse
  let (host, port) := splitPort server
  let host ← Host.normal? host
  let port ← readPort scheme port
  let (path, rest) := splitAt (fun c => c = '?' || c = '#') rest
  let (query, fragment) := splitAt (· = '#') rest
  return {
    scheme := scheme, user := readUser? user, host := host, port := port, path := normalPath path
    query := if query.isEmpty then none else some (encode inQuery query.tail)
    fragment := if fragment.isEmpty then none else some (encode inFragment fragment.tail) }

def read? (text : String) : Option Url :=
  match splitScheme? (cleaned text) with
  | some ("http", rest) => readRest? .plain rest
  | some ("https", rest) => readRest? .secure rest
  | _ => none

def foreign? (text : String) : Option String :=
  match splitScheme? (cleaned text) with
  | some ("http", _) | some ("https", _) | none => none
  | some (scheme, rest) => some (scheme ++ ":" ++ encode (fun _ => false) rest)

end Url

end ScenarioBench.Http
