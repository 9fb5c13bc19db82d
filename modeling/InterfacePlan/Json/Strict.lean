import InterfacePlan.Decimal
import InterfacePlan.Value

set_option autoImplicit false

namespace InterfacePlan.Json

inductive Fault where
  | keyExpected
  | commaBeforeBrace
  | commaBeforeBracket
  | colonExpected
  | memberSeparator
  | itemSeparator
  | trailing
  | character
  | number
  | escape
  | unicodeEscape
  | unpairedSurrogate
  | surrogatePair
  deriving DecidableEq

/-- A step from a container to one of its values, as paths in messages show it. -/
inductive PathStep where
  | member
  | index (i : Nat)
  deriving DecidableEq

inductive StrictError where
  | truncated
  | malformed (fault : Fault) (byte : Nat)
  /-- A number overflows; the path leads from the innermost step outwards. -/
  | outOfRange (path : List PathStep)
  /-- An integer is too long; the path as before. -/
  | integerTooLong (path : List PathStep)
  deriving DecidableEq

def Fault.text : Fault → String
  | .keyExpected => "object keys must be strings"
  | .commaBeforeBrace => "trailing comma in object"
  | .commaBeforeBracket => "trailing comma in array"
  | .colonExpected => "expected ':'"
  | .memberSeparator => "expected ',' or '\x7d'"
  | .itemSeparator => "expected ',' or ']'"
  | .trailing => "trailing characters"
  | .character => "invalid character"
  | .number => "invalid number"
  | .escape => "invalid escape character in string"
  | .unicodeEscape => "invalid character in unicode escape"
  | .unpairedSurrogate => "unexpected end of escaped utf-16 surrogate pair"
  | .surrogatePair => "invalid utf-16 surrogate pair"

def PathStep.text : PathStep → String
  | .member => "[...]"
  | .index i => "[" ++ toString i ++ "]"

def pathText (path : List PathStep) : String :=
  "`$" ++ String.join (path.reverse.map PathStep.text) ++ "`"

def StrictError.message : StrictError → String
  | .truncated => "Input data was truncated"
  | .malformed fault byte => "JSON is malformed: " ++ fault.text ++ " (byte " ++ toString byte ++ ")"
  | .outOfRange path => "Number out of range - at " ++ pathText path
  | .integerTooLong path => "Integer value out of range - at " ++ pathText path

namespace Strict

/-- Where reading stopped: a malformed text by what was left of it, and bytes past that place. -/
inductive Stop where
  | truncated
  | malformed (fault : Fault) (rest : List Char) (past : Nat)
  | outOfRange (path : List PathStep)
  | integerTooLong (path : List PathStep)

abbrev Read (α : Type) := Except Stop (α × List Char)

def isBlank (c : Char) : Bool :=
  c = ' ' || c = '\n' || c = '\t' || c = '\r'

def skipBlank (cs : List Char) : List Char :=
  cs.dropWhile isBlank

def byteCount (cs : List Char) : Nat :=
  cs.foldl (fun n c => n + c.utf8Size) 0

def hexValue? (c : Char) : Option Nat :=
  if '0' ≤ c ∧ c ≤ '9' then some (c.toNat - 48)
  else if 'a' ≤ c ∧ c ≤ 'f' then some (c.toNat - 87)
  else if 'A' ≤ c ∧ c ≤ 'F' then some (c.toNat - 55)
  else none

def unit? (a b c d : Char) : Option Nat :=
  match hexValue? a, hexValue? b, hexValue? c, hexValue? d with
  | some a, some b, some c, some d => some (((a * 16 + b) * 16 + c) * 16 + d)
  | _, _, _, _ => none

def isHigh (unit : Nat) : Bool :=
  0xD800 ≤ unit && unit < 0xDC00

def isLow (unit : Nat) : Bool :=
  0xDC00 ≤ unit && unit < 0xE000

def joinPair (high low : Nat) : Char :=
  Char.ofNat (0x10000 + (high - 0xD800) * 1024 + (low - 0xDC00))

/-- Why the text after `\u` holds no four digits: it is too short, or its first other character. -/
def unicodeFault (rest : List Char) : Stop :=
  if byteCount (rest.take 4) < 4 then .truncated
  else .malformed .unicodeEscape (rest.dropWhile fun c => (hexValue? c).isSome) 1

def simpleEscape? : Char → Option Char
  | '"' => some '"'
  | '\\' => some '\\'
  | '/' => some '/'
  | 'b' => some '\x08'
  | 'f' => some '\x0c'
  | 'n' => some '\n'
  | 'r' => some '\r'
  | 't' => some '\t'
  | _ => none

/-- The text up to the closing quote; `done` is what was read of it, last character first. -/
def readText (done : List Char) : List Char → Read (List Char)
  | [] => .error .truncated
  | '"' :: rest => .ok (done.reverse, rest)
  | ['\\'] => .error .truncated
  | '\\' :: 'u' :: rest =>
    match rest with
    | a :: b :: c :: d :: tail =>
      match unit? a b c d with
      | none => .error (unicodeFault rest)
      | some high =>
        if isLow high then .error (.malformed .surrogatePair tail 0)
        else if isHigh high then
          match tail with
          | '\\' :: 'u' :: e :: f :: g :: h :: tail' =>
            match unit? e f g h with
            | none => .error (unicodeFault (e :: f :: g :: h :: tail'))
            | some low =>
              if isLow low then readText (joinPair high low :: done) tail'
              else .error (.malformed .surrogatePair tail' 0)
          | '\\' :: 'u' :: tail' =>
            .error (unicodeFault tail')
          | _ =>
            .error (if byteCount (tail.take 6) < 6 then .truncated
              else .malformed .unpairedSurrogate tail 0)
        else readText (Char.ofNat high :: done) tail
    | _ => .error (unicodeFault rest)
  | '\\' :: c :: rest =>
    match simpleEscape? c with
    | some x => readText (x :: done) rest
    | none => .error (.malformed .escape (c :: rest) 1)
  | c :: rest =>
    if c.toNat < 32 then .error (.malformed .character (c :: rest) 0)
    else readText (c :: done) rest

def isDigit (c : Char) : Bool :=
  '0' ≤ c && c ≤ '9'

def digitsValue (ds : List Char) : Nat :=
  ds.foldl (fun n c => n * 10 + (c.toNat - 48)) 0

def readFraction : List Char → Read (Option (List Char))
  | '.' :: rest =>
    let ds := rest.takeWhile isDigit
    if ds = [] then
      .error (if rest = [] then .truncated else .malformed .number rest 0)
    else .ok (some ds, rest.dropWhile isDigit)
  | rest => .ok (none, rest)

def readSign : List Char → Bool × List Char
  | '-' :: rest => (true, rest)
  | '+' :: rest => (false, rest)
  | rest => (false, rest)

def readExponent : List Char → Read (Option Int)
  | c :: rest =>
    if c = 'e' ∨ c = 'E' then
      let (negative, rest) := readSign rest
      let ds := rest.takeWhile isDigit
      if ds = [] then
        .error (if rest = [] then .truncated else .malformed .number rest 0)
      else
        let power : Int := digitsValue ds
        .ok (some (if negative then -power else power), rest.dropWhile isDigit)
    else .ok (none, c :: rest)
  | [] => .ok (none, [])

def readInteger (path : List PathStep) (negative : Bool) (whole : List Char) : Except Stop Value :=
  let length := if negative then whole.length + 1 else whole.length
  if Decimal.maxIntegerLength < length then .error (.integerTooLong path)
  else
    let n : Int := digitsValue whole
    .ok (.int (if negative then -n else n))

def readTail (path : List PathStep) (negative : Bool) (whole rest : List Char) : Read Value :=
  match readFraction rest with
  | .error stop => .error stop
  | .ok (fraction, rest) =>
    match readExponent rest with
    | .error stop => .error stop
    | .ok (power, rest) =>
      if fraction.isNone && power.isNone then
        match readInteger path negative whole with
        | .error stop => .error stop
        | .ok v => .ok (v, rest)
      else
        let places := fraction.getD []
        match Double.ofDecimal negative (digitsValue (whole ++ places))
            (power.getD 0 - places.length) with
        | .infinity _ => .error (.outOfRange path)
        | x => .ok (.float x, rest)

def readNumber (path : List PathStep) (negative : Bool) : List Char → Read Value
  | '0' :: rest =>
    match rest with
    | c :: _ =>
      if isDigit c then .error (.malformed .number rest 0) else readTail path negative ['0'] rest
    | [] => readTail path negative ['0'] []
  | cs =>
    let ds := cs.takeWhile isDigit
    if ds = [] then .error (if cs = [] then .truncated else .malformed .character cs 0)
    else readTail path negative ds (cs.dropWhile isDigit)

def readLiteral (word : List Char) (v : Value) (start rest : List Char) : Read Value :=
  if byteCount (rest.take word.length) < word.length then .error .truncated
  else if rest.take word.length = word then .ok (v, rest.drop word.length)
  else .error (.malformed .character start (word.length + 1))

mutual

/-- One value and what follows it. The fuel bounds the calls: two for each character are enough. -/
def readValue : Nat → List PathStep → List Char → Read Value
  | 0, _, _ => .error .truncated
  | fuel + 1, path, cs =>
    match skipBlank cs with
    | [] => .error .truncated
    | '"' :: rest =>
      match readText [] rest with
      | .error stop => .error stop
      | .ok (s, rest) => .ok (.text (String.ofList s), rest)
    | '{' :: rest =>
      match skipBlank rest with
      | '}' :: rest => .ok (.object [], rest)
      | rest => readMembers fuel path [] rest
    | '[' :: rest =>
      match skipBlank rest with
      | ']' :: rest => .ok (.list [], rest)
      | rest => readItems fuel path 0 [] rest
    | '-' :: rest => readNumber path true rest
    | 'n' :: rest => readLiteral ['u', 'l', 'l'] .null ('n' :: rest) rest
    | 't' :: rest => readLiteral ['r', 'u', 'e'] (.bool true) ('t' :: rest) rest
    | 'f' :: rest => readLiteral ['a', 'l', 's', 'e'] (.bool false) ('f' :: rest) rest
    | rest => readNumber path false rest

/-- The items from here to the closing bracket; `done` are those before, last first. -/
def readItems : Nat → List PathStep → Nat → List Value → List Char → Read Value
  | 0, _, _, _, _ => .error .truncated
  | fuel + 1, path, count, done, cs =>
    match readValue fuel (.index count :: path) cs with
    | .error stop => .error stop
    | .ok (v, rest) =>
      match skipBlank rest with
      | [] => .error .truncated
      | ']' :: rest => .ok (.list (v :: done).reverse, rest)
      | ',' :: rest =>
        match skipBlank rest with
        | ']' :: rest => .error (.malformed .commaBeforeBracket (']' :: rest) 0)
        | rest => readItems fuel path (count + 1) (v :: done) rest
      | rest => .error (.malformed .itemSeparator rest 0)

/-- The members from here to the closing brace; `done` are those before, last first. -/
def readMembers : Nat → List PathStep → Members → List Char → Read Value
  | 0, _, _, _ => .error .truncated
  | fuel + 1, path, done, cs =>
    match cs with
    | [] => .error .truncated
    | '"' :: rest =>
      match readText [] rest with
      | .error stop => .error stop
      | .ok (key, rest) =>
        match skipBlank rest with
        | [] => .error .truncated
        | ':' :: rest =>
          match readValue fuel (.member :: path) rest with
          | .error stop => .error stop
          | .ok (v, rest) =>
            let done := (.text (String.ofList key), v) :: done
            match skipBlank rest with
            | [] => .error .truncated
            | '}' :: rest => .ok (.object (Members.ofList done.reverse), rest)
            | ',' :: rest =>
              match skipBlank rest with
              | '}' :: rest => .error (.malformed .commaBeforeBrace ('}' :: rest) 0)
              | rest => readMembers fuel path done rest
            | rest => .error (.malformed .memberSeparator rest 0)
        | rest => .error (.malformed .colonExpected rest 0)
    | cs => .error (.malformed .keyExpected cs 0)

end

def readAll (cs : List Char) : Except Stop Value :=
  match readValue (2 * cs.length + 2) [] cs with
  | .error stop => .error stop
  | .ok (v, rest) =>
    match skipBlank rest with
    | [] => .ok v
    | rest => .error (.malformed .trailing rest 1)

def Stop.at (text : List Char) : Stop → StrictError
  | .truncated => .truncated
  | .malformed fault rest past => .malformed fault (byteCount text - byteCount rest + past)
  | .outOfRange path => .outOfRange path
  | .integerTooLong path => .integerTooLong path

end Strict

/-- Reads a text that is one JSON value and nothing else. A refusal says what is wrong and at which byte. -/
def decode (text : List Char) : Except StrictError Value :=
  (Strict.readAll text).mapError (Strict.Stop.at text)

end InterfacePlan.Json
