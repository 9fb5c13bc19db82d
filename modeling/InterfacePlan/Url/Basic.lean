import InterfacePlan.Text.Blank
import InterfacePlan.Url.Host

set_option autoImplicit false

namespace InterfacePlan

/-- The parts of a URL, normalised. -/
structure Url where
  scheme : List Char
  userInfo : List Char
  host : List Char
  port : Option Int
  path : List Char
  query : Option (List Char)
  fragment : Option (List Char)
  deriving DecidableEq

namespace Url

def maxLength : Nat := 65536

def isControl (c : Char) : Bool :=
  c.toNat < 0x20 || c.toNat = 0x7F

def firstControl? (s : List Char) : Option (Char × Nat) :=
  (s.find? isControl).map fun c => (c, s.findIdx isControl)

def isAsciiLetter (c : Char) : Bool :=
  ('a' ≤ c && c ≤ 'z') || ('A' ≤ c && c ≤ 'Z')

def isSchemeChar (c : Char) : Bool :=
  isAsciiLetter c || Json.Strict.isDigit c || c = '+' || c = '.' || c = '-'

/-- What stands before the first colon, where that can be a scheme, and the rest. A colon without
anything before it goes too. -/
def splitScheme (s : List Char) : List Char × List Char :=
  let name := s.takeWhile isSchemeChar
  match s.drop name.length with
  | ':' :: rest => if name.head?.all isAsciiLetter then (name, rest) else ([], s)
  | _ => ([], s)

/-- The authority between two slashes and the path, and the rest. -/
def splitAuthority (s : List Char) : List Char × List Char :=
  match s with
  | '/' :: '/' :: rest => rest.span fun c => c ≠ '/' && c ≠ '?' && c ≠ '#'
  | s => ([], s)

/-- What follows the mark `mark` up to the next `stop`, if the text begins with it, and the rest. -/
def splitMarked (mark : Char) (stop : Char → Bool) (s : List Char) :
    Option (List Char) × List Char :=
  match s with
  | c :: rest => if c = mark then (some (rest.takeWhile (!stop ·)), rest.dropWhile (!stop ·)) else (none, s)
  | [] => (none, [])

/-- What stands before the last at sign of an authority, and the rest. -/
def splitUserInfo (authority : List Char) : List Char × List Char :=
  let after := (authority.reverse.takeWhile (· ≠ '@')).reverse
  if after.length = authority.length then ([], authority)
  else (authority.take (authority.length - after.length - 1), after)

/-- The host at the start of a text, brackets included, and the text of the port after it. -/
def splitHost (s : List Char) : List Char × List Char :=
  let bracketed := (s.reverse.dropWhile (· ≠ ']')).reverse
  let host :=
    if s.head? = some '[' ∧ bracketed ≠ [] then bracketed else s.takeWhile (· ≠ ':')
  match s.drop host.length with
  | ':' :: port => (host, port)
  | port => (host, port)

def defaultPorts : List (String × Int) :=
  [("ftp", 21), ("http", 80), ("https", 443), ("ws", 80), ("wss", 443)]

/-- A port: an integer, blanks around it and underscores in it allowed. The default port of the scheme,
which must be written in lower case for that, is none. -/
def readPort (scheme port : List Char) : Except UrlError (Option Int) :=
  if port = [] then .ok none
  else
    let (negative, body) := Json.Strict.readSign (Text.trimChars port)
    match Json.groupedDigits? body with
    | none => .error (.port port)
    | some ds =>
      if Decimal.maxIntegerLength < ds.length then .error (.port port)
      else
        let n : Int := Json.Strict.digitsValue ds
        let n := if negative then -n else n
        .ok (if defaultPorts.lookup (String.ofList scheme) = some n then none else some n)

/-- The segments that are left when one dot means nothing and two take the segment before away; the
first, empty one of a path from the root stays. `kept` are those before, last first. -/
def withoutDots (kept : List (List Char)) : List (List Char) → List (List Char)
  | [] => kept.reverse
  | segment :: rest =>
    if segment = ['.'] then withoutDots kept rest
    else if segment = ['.', '.'] then
      withoutDots (if kept = [[]] then kept else kept.drop 1) rest
    else withoutDots (segment :: kept) rest

def normalPath (path : List Char) : List Char :=
  let segments := path.splitOn '/'
  if segments.any fun s => s = ['.'] || s = ['.', '.'] then
    List.intercalate ['/'] (withoutDots [] segments)
  else path

def checkPath (path : List Char) : Except UrlError Unit :=
  if ['/', '/'].isPrefixOf path then .error .leadingSlashes
  else if path.head? = some ':' then .error .leadingColon
  else .ok ()

/-- The parts of a text that is short enough and without control characters. -/
def ofParts (s : List Char) : Except UrlError Url :=
  let (scheme, rest) := splitScheme s
  let (authority, rest) := splitAuthority rest
  let (path, rest) := rest.span fun c => c ≠ '?' && c ≠ '#'
  let (query, rest) := splitMarked '?' (· = '#') rest
  let (fragment, _) := splitMarked '#' (fun _ => false) rest
  let (userInfo, rest) := splitUserInfo authority
  let (host, port) := splitHost rest
  match Host.encode host with
  | .error e => .error e
  | .ok host =>
    match readPort scheme port with
    | .error e => .error e
    | .ok port =>
      let userInfo := Percent.encode Percent.inUserInfo userInfo
      let isBare := scheme = [] ∧ userInfo = [] ∧ host = [] ∧ port = none
      match (if isBare then checkPath path else .ok ()) with
      | .error e => .error e
      | .ok () =>
        .ok
          { scheme := scheme.map Char.toLower
            userInfo := userInfo
            host := host
            port := port
            path := Percent.encode Percent.inPath (if isBare then path else normalPath path)
            query := query.map (Percent.encode Percent.inQuery)
            fragment := fragment.map (Percent.encode Percent.inFragment) }

def parse (s : String) : Except UrlError Url :=
  if maxLength < s.length then .error .tooLong
  else
    match firstControl? s.toList with
    | some (c, place) => .error (.control c place)
    | none => ofParts s.toList

def isAbsolute (url : Url) : Bool :=
  url.scheme ≠ [] && url.host ≠ []

def authorityText (url : Url) : List Char :=
  (if url.userInfo = [] then [] else url.userInfo ++ ['@'])
    ++ (if url.host.contains ':' then '[' :: url.host ++ [']'] else url.host)
    ++ (match url.port with
      | some n => ':' :: Decimal.intText n
      | none => [])

def queryText (url : Url) : List Char :=
  match url.query with
  | some query => '?' :: query
  | none => []

def render (url : Url) : List Char :=
  let authority := url.authorityText
  (if url.scheme = [] then [] else url.scheme ++ [':'])
    ++ (if authority = [] then [] else '/' :: '/' :: authority)
    ++ url.path ++ url.queryText
    ++ (match url.fragment with
      | some fragment => '#' :: fragment
      | none => [])

def rooted (url : Url) : List Char :=
  '/' :: (url.path ++ url.queryText).dropWhile (· = '/')

end Url

end InterfacePlan
