import InterfacePlan.Json.Number
import InterfacePlan.Text.Display
import InterfacePlan.Text.Letter
import InterfacePlan.Url.Percent
import InterfacePlan.Url.Punycode

set_option autoImplicit false

namespace InterfacePlan.Url

/-- Why a URL names nothing that a request can be sent to. -/
inductive UrlError where
  | tooLong
  | control (c : Char) (place : Nat)
  | addressV4 (host : List Char)
  | addressV6 (host : List Char)
  | name (host : List Char)
  | port (text : List Char)
  | leadingSlashes
  | leadingColon
  deriving DecidableEq

def shown (s : List Char) : String :=
  String.ofList (Text.display s)

def UrlError.message : UrlError → String
  | .tooLong => "URL too long"
  | .control c place =>
    "Invalid non-printable ASCII character in URL, " ++ shown [c] ++ " at position "
      ++ toString place ++ "."
  | .addressV4 host => "Invalid IPv4 address: " ++ shown host
  | .addressV6 host => "Invalid IPv6 address: " ++ shown host
  | .name host => "Invalid IDNA hostname: " ++ shown host
  | .port text => "Invalid port: " ++ shown text
  | .leadingSlashes => "Relative URLs cannot have a path starting with '//'"
  | .leadingColon => "Relative URLs cannot have a path starting with ':'"

namespace Host

open Json.Strict (isDigit digitsValue)

/-- Whether a text is four runs of digits with any one character between each two. What is no digit
divides two runs; a longer run is divided further by every other one of its inner digits. -/
def isFourRuns (s : List Char) : Bool :=
  let runs := s.splitOnP (!isDigit ·)
  runs.all (· ≠ []) && runs.length ≤ 4
    && 4 ≤ runs.foldl (fun n run => n + (run.length + 1) / 2) 0

def isOctet (s : List Char) : Bool :=
  s ≠ [] && s.length ≤ 3 && s.all isDigit && digitsValue s < 256
    && (s.length = 1 || s.head? ≠ some '0')

def isV4 (s : List Char) : Bool :=
  let parts := s.splitOn '.'
  parts.length = 4 && parts.all isOctet

def isHextet (s : List Char) : Bool :=
  s ≠ [] && s.length ≤ 4 && s.all fun c => (Json.Strict.hexValue? c).isSome

/-- The parts of an address between its colons; an address of the fourth version at its end counts as
two of them. -/
def hextets? (s : List Char) : Option (List (List Char)) :=
  let parts := s.splitOn ':'
  match parts.reverse with
  | last :: before =>
    if last.contains '.' then
      if isV4 last then some (before.reverse ++ [['0'], ['0']]) else none
    else some parts
  | [] => none

/-- Eight parts, or fewer if one place is left empty for the parts that are zero. -/
def areHextets (parts : List (List Char)) : Bool :=
  let inner := (parts.drop 1).dropLast
  if inner.contains [] then
    let high := parts.takeWhile (· ≠ [])
    let low := (parts.reverse.takeWhile (· ≠ [])).reverse
    let gaps := (inner.filter (· = [])).length
    let starts := parts.head? = some []
    let ends := parts.getLast? = some []
    let before := if starts then 0 else high.length
    let after := if ends then 0 else low.length
    let others := (if starts then 1 else 0) + (if ends then 1 else 0)
    gaps = 1 && before + after < 8 && before + after + others + 1 = parts.length
      && high.all isHextet && low.all isHextet
  else parts.length = 8 && parts.all isHextet

def isV6 (s : List Char) : Bool :=
  let address := s.takeWhile (· ≠ '%')
  let zone := s.drop address.length
  (zone = [] || (1 < zone.length && !(zone.drop 1).contains '%'))
    && 3 ≤ (address.splitOn ':').length
    && (hextets? address).any areHextets

/-- Whether a character may stand in a label of a name that is not ASCII; forms that stand for other
letters may not. -/
def inLabel (c : Char) : Bool :=
  ('a' ≤ c && c ≤ 'z') || isDigit c || c = '-'
    || (0x80 ≤ c.toNat && Text.isLetter c && (c.toNat < 0xF900 || 0x20000 ≤ c.toNat))

def isFullStop (c : Char) : Bool :=
  c = '.' || c = '。' || c = '．' || c = '｡'

/-- The mark before a label in Punycode. -/
def codeMark : List Char :=
  ['x', 'n', '-', '-']

def isAscii (s : List Char) : Bool :=
  s.all fun c => c.toNat < 0x80

/-- Hyphens stand inside a label, and two of them in its third and fourth place only in the mark. -/
def hasGoodHyphens (label : List Char) : Bool :=
  label.head? ≠ some '-' && label.getLast? ≠ some '-'
    && ((label.drop 2).take 2 ≠ ['-', '-'] || (isAscii label && codeMark.isPrefixOf label))

/-- A label of a name: ASCII as it is, anything else in Punycode after the mark. -/
def encodeLabel? (label : List Char) : Option (List Char) :=
  if label ≠ [] ∧ label.all inLabel ∧ hasGoodHyphens label then
    let written :=
      if isAscii label then label else codeMark ++ Punycode.encode label
    if written.length ≤ 63 then some written else none
  else none

/-- A name that is not ASCII; it may end in a full stop. -/
def encodeName? (name : List Char) : Option (List Char) :=
  let labels := (name.map fun c => if isFullStop c then '.' else c).splitOn '.'
  let rooted := 1 < labels.length ∧ labels.getLast? = some []
  let labels := if rooted then labels.dropLast else labels
  match labels.mapM encodeLabel? with
  | some written =>
    let name := List.intercalate ['.'] written
    if name.length ≤ 253 then some (if rooted then name ++ ['.'] else name) else none
  | none => none

/-- The small form of a letter, of those that names are likely to have. -/
def lower (c : Char) : Char :=
  let n := c.toNat
  if n < 0x80 then c.toLower
  else if (0xC0 ≤ n && n ≤ 0xDE && n ≠ 0xD7) || (0x391 ≤ n && n ≤ 0x3A9) || (0x410 ≤ n && n ≤ 0x42F)
  then Char.ofNat (n + 32)
  else if 0x400 ≤ n && n ≤ 0x40F then Char.ofNat (n + 80)
  else if ((0x100 ≤ n && n ≤ 0x137 && n ≠ 0x130) || (0x14A ≤ n && n ≤ 0x177)) && n % 2 = 0
  then Char.ofNat (n + 1)
  else if ((0x139 ≤ n && n ≤ 0x148) || (0x179 ≤ n && n ≤ 0x17E)) && n % 2 = 1
  then Char.ofNat (n + 1)
  else c

/-- A host as it is sent, without brackets. -/
def encode (host : List Char) : Except UrlError (List Char) :=
  if isFourRuns host then
    if isV4 host then .ok host else .error (.addressV4 host)
  else if host.head? = some '[' && host.getLast? = some ']' then
    let inner := (host.drop 1).dropLast
    if isV6 inner then .ok inner else .error (.addressV6 host)
  else if isAscii host then
    .ok (Percent.encode Percent.inHost (host.map Char.toLower))
  else
    match encodeName? (host.map lower) with
    | some name => .ok name
    | none => .error (.name host)

end Host

end InterfacePlan.Url
