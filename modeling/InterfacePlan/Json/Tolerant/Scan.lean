import InterfacePlan.Json.Number
import InterfacePlan.Text.Blank
import InterfacePlan.Text.Letter

set_option autoImplicit false

namespace InterfacePlan.Json.Tolerant

/-- What the reader is inside of: the key or the value of a member, or a list. -/
inductive Place where
  | key
  | value
  | item
  deriving DecidableEq

abbrev Places := List Place

def skipBlank (cs : List Char) : List Char :=
  cs.dropWhile Text.isBlank

/-- The text from the next mark on, empty if there is none. An odd number of backslashes right before a
mark escapes it; `escaped` says whether the number so far is odd. -/
def seekFrom (isMark : Char → Bool) (escaped : Bool) : List Char → List Char
  | [] => []
  | c :: rest =>
    if c = '\\' then seekFrom isMark (!escaped) rest
    else if isMark c && !escaped then c :: rest
    else seekFrom isMark false rest

def seek (isMark : Char → Bool) (cs : List Char) : List Char :=
  seekFrom isMark false cs

/-- The text from the next `mark` on. -/
def seekChar (mark : Char) (cs : List Char) : List Char :=
  seek (· = mark) cs

def isQuote (c : Char) : Bool :=
  c = '"' || c = '\'' || c = '“' || c = '”'

def isWordChar (c : Char) : Bool :=
  Text.isLetter c || Strict.isDigit c

def wordStart (cs : List Char) : List Char :=
  cs.dropWhile fun c => !isQuote c && !isWordChar c

/-- Whether a line comment ends before a character: with the line, or with what it stands in. -/
def endsComment (places : Places) (c : Char) : Bool :=
  c = '\n' || c = '\r' || (c = ']' && places.contains .item)
    || (c = '\x7d' && places.contains .value) || (c = ':' && places.contains .key)

def afterBlock : List Char → List Char
  | '*' :: '/' :: rest => rest
  | _ :: rest => afterBlock rest
  | [] => []

/-- The rest after the comment that begins a text; of a slash that begins none, the slash goes. -/
def afterComment (places : Places) (cs : List Char) : List Char :=
  match cs with
  | '/' :: '/' :: rest => rest.dropWhile fun c => !endsComment places c
  | '/' :: '*' :: '/' :: rest => rest
  | '/' :: '*' :: rest => afterBlock rest
  | '/' :: rest => rest
  | cs => cs.dropWhile fun c => !endsComment places c

/-- The values of words that stand without quotes. -/
def literals : List (List Char × Value) :=
  [("true".toList, .bool true), ("false".toList, .bool false), ("null".toList, .null),
    ("none".toList, .null)]

def mayEnd : List Char → Bool
  | [] => true
  | c :: _ => Text.isBlank c || c = ',' || c = ']' || c = '\x7d'

/-- The literal that begins a text, in any case, and what follows it. -/
def readLiteral? (cs : List Char) : Option (Value × List Char) :=
  literals.findSome? fun (word, v) =>
    let rest := cs.drop word.length
    if (cs.take word.length).map Char.toLower = word ∧ mayEnd rest then some (v, rest) else none

/-- Characters of numbers, and of dates and the like. In a list a comma ends a number. -/
def isNumberChar (place : Option Place) (c : Char) : Bool :=
  Strict.isDigit c || c = '-' || c = '+' || c = '.' || c = 'e' || c = 'E' || c = '/' || c = '_'
    || (c = ',' && place ≠ some .item)

/-- What the characters of a number come to: a number if they make one, their text if not. -/
def numberValue (cs : List Char) : Value :=
  let text := Value.text (String.ofList cs)
  if cs.contains ',' then text
  else if cs.any fun c => c = '.' || c = 'e' || c = 'E' then
    match decimalOfText? cs with
    | some x => .float x
    | none => text
  else
    let (negative, digits) := Strict.readSign cs
    if digits = [] || !digits.all Strict.isDigit || Decimal.maxIntegerLength < digits.length then
      text
    else
      let n : Int := Strict.digitsValue digits
      .int (if negative then -n else n)

/-- A number at the start of a text, and the rest. Where a letter comes after it there is none: the rest
is then to be read as a word. Of a mark at the end that nothing follows, nothing is taken. -/
def readNumber (place : Option Place) (cs : List Char) : Option Value × List Char :=
  let run := cs.takeWhile (isNumberChar place)
  let body := run.filter (· ≠ '_')
  let rest := cs.drop run.length
  if rest.head?.any Text.isLetter then (none, cs.drop (run.length - body.length))
  else
    match body.getLast? with
    | some last =>
      if last = '-' || last = '+' || last = 'e' || last = 'E' || last = '/' || last = ',' then
        (some (numberValue body.dropLast), cs.drop (run.length - 1))
      else (some (numberValue body), rest)
    | none => (some (numberValue body), rest)

end InterfacePlan.Json.Tolerant
