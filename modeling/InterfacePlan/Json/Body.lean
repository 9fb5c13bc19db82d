import InterfacePlan.Decimal
import InterfacePlan.Text.Encoding
import InterfacePlan.Value

set_option autoImplicit false

namespace InterfacePlan.Json

inductive BodyFault where
  | value
  | propertyName
  | colon
  | comma
  | trailing
  | controlCharacter
  | unterminated
  | escape
  | unicodeEscape
  deriving DecidableEq

inductive BodyError where
  | encoding (fault : Text.EncodingFault)
  | malformed (fault : BodyFault) (line column char : Nat)
  | tooManyDigits (count : Nat)
  /-- Lists and objects nest deeper than the stack has room for. -/
  | exhausted
  deriving DecidableEq

def BodyFault.text : BodyFault → String
  | .value => "Expecting value"
  | .propertyName => "Expecting property name enclosed in double quotes"
  | .colon => "Expecting ':' delimiter"
  | .comma => "Expecting ',' delimiter"
  | .trailing => "Extra data"
  | .controlCharacter => "Invalid control character at"
  | .unterminated => "Unterminated string starting at"
  | .escape => "Invalid \\escape"
  | .unicodeEscape => "Invalid \\uXXXX escape"

def BodyError.message : BodyError → String
  | .encoding fault => fault.message
  | .malformed fault line column char =>
    fault.text ++ ": line " ++ toString line ++ " column " ++ toString column
      ++ " (char " ++ toString char ++ ")"
  | .tooManyDigits count =>
    "Exceeds the limit (" ++ toString Decimal.maxIntegerLength
      ++ " digits) for integer string conversion: value has " ++ toString count
      ++ " digits; use sys.set_int_max_str_digits() to increase the limit"
  | .exhausted => "maximum recursion depth exceeded"

namespace Body

open Text (Code)

/-- Where reading stopped: by what was left of the text at the place that is to blame. -/
inductive Stop where
  | malformed (fault : BodyFault) (rest : List Code)
  | tooManyDigits (count : Nat)
  | exhausted

abbrev Read (α : Type) := Except Stop (α × List Code)

def isBlank : Code → Bool
  | .char c => c = ' ' || c = '\n' || c = '\t' || c = '\r'
  | .surrogate _ => false

def skipBlank (cs : List Code) : List Code :=
  cs.dropWhile isBlank

def hexValue? : Code → Option Nat
  | .char c =>
    if '0' ≤ c ∧ c ≤ '9' then some (c.toNat - 48)
    else if 'a' ≤ c ∧ c ≤ 'f' then some (c.toNat - 87)
    else if 'A' ≤ c ∧ c ≤ 'F' then some (c.toNat - 55)
    else none
  | .surrogate _ => none

def unit? (a b c d : Code) : Option Nat :=
  match hexValue? a, hexValue? b, hexValue? c, hexValue? d with
  | some a, some b, some c, some d => some (((a * 16 + b) * 16 + c) * 16 + d)
  | _, _, _, _ => none

def simpleEscape? : Code → Option Char
  | .char '"' => some '"'
  | .char '\\' => some '\\'
  | .char '/' => some '/'
  | .char 'b' => some '\x08'
  | .char 'f' => some '\x0c'
  | .char 'n' => some '\n'
  | .char 'r' => some '\r'
  | .char 't' => some '\t'
  | _ => none

/-- The low surrogate that an escape at the start of a text stands for, if it does; an escape is
looked at only if the text goes on after it. -/
def lowEscape? : List Code → Except Stop (Option Nat)
  | .char '\\' :: .char 'u' :: a :: b :: c :: d :: next :: rest =>
    match unit? a b c d with
    | none => .error (.malformed .unicodeEscape (.char 'u' :: a :: b :: c :: d :: next :: rest))
    | some low => .ok (if 0xDC00 ≤ low ∧ low < 0xE000 then some low else none)
  | _ => .ok none

/-- The escape that begins a text: its code point, and how many more code points it takes. -/
def readEscape (start : List Code) : List Code → Except Stop (Code × Nat)
  | _ :: .char 'u' :: rest =>
    match rest with
    | a :: b :: c :: d :: tail =>
      match unit? a b c d, tail with
      | none, _ | _, [] => .error (.malformed .unicodeEscape (.char 'u' :: rest))
      | some unit, tail =>
        if 0xD800 ≤ unit ∧ unit < 0xDC00 then
          match lowEscape? tail with
          | .error stop => .error stop
          | .ok (some low) => .ok (.ofNat (0x10000 + (unit - 0xD800) * 1024 + (low - 0xDC00)), 11)
          | .ok none => .ok (.surrogate unit, 5)
        else .ok (.ofNat unit, 5)
    | _ => .error (.malformed .unicodeEscape (.char 'u' :: rest))
  | back :: c :: rest =>
    match simpleEscape? c with
    | some x => .ok (.char x, 1)
    | none => .error (.malformed .escape (back :: c :: rest))
  | _ => .error (.malformed .unterminated start)

/-- The text up to the closing quote. `start` begins with the opening quote, `done` is what was read,
last code point first, and `skip` code points belong to an escape that was read. -/
def readText (start done : List Code) (skip : Nat) : List Code → Read (List Code)
  | [] => .error (.malformed .unterminated start)
  | c :: rest =>
    match skip with
    | skip + 1 => readText start done skip rest
    | 0 =>
      if c = .char '"' then .ok (done.reverse, rest)
      else if c = .char '\\' then
        match readEscape start (c :: rest) with
        | .error stop => .error stop
        | .ok (code, more) => readText start (code :: done) more rest
      else if c.isControl then .error (.malformed .controlCharacter (c :: rest))
      else readText start (c :: done) 0 rest

def digit? : Code → Option Nat
  | .char c => if '0' ≤ c ∧ c ≤ '9' then some (c.toNat - 48) else none
  | .surrogate _ => none

def isDigit (c : Code) : Bool :=
  (digit? c).isSome

def digitsValue (ds : List Code) : Nat :=
  ds.foldl (fun n c => n * 10 + (digit? c).getD 0) 0

/-- Digits after a point; a point without a digit after it belongs to what follows. -/
def readFraction : List Code → Option (List Code) × List Code
  | .char '.' :: rest =>
    let ds := rest.takeWhile isDigit
    if ds = [] then (none, .char '.' :: rest) else (some ds, rest.dropWhile isDigit)
  | rest => (none, rest)

def readSign : List Code → Bool × List Code
  | .char '-' :: rest => (true, rest)
  | .char '+' :: rest => (false, rest)
  | rest => (false, rest)

/-- A power of ten; an `e` without a digit after it belongs to what follows. -/
def readExponent : List Code → Option Int × List Code
  | c :: rest =>
    if c = .char 'e' ∨ c = .char 'E' then
      let (negative, tail) := readSign rest
      let ds := tail.takeWhile isDigit
      if ds = [] then (none, c :: rest)
      else
        let power : Int := digitsValue ds
        (some (if negative then -power else power), tail.dropWhile isDigit)
    else (none, c :: rest)
  | [] => (none, [])

def startsWith (word : String) (cs : List Code) : Bool :=
  let codes := word.toList.map Code.char
  cs.take codes.length = codes

def readNumber (cs : List Code) : Read Value :=
  let (negative, digits) :=
    match cs with
    | .char '-' :: rest => (true, rest)
    | rest => (false, rest)
  let whole :=
    match digits with
    | .char '0' :: _ => [Code.char '0']
    | rest => rest.takeWhile isDigit
  if whole = [] then .error (.malformed .value cs)
  else
    let (fraction, rest) := readFraction (digits.drop whole.length)
    let (power, rest) := readExponent rest
    if fraction.isNone && power.isNone then
      if Decimal.maxIntegerLength < whole.length then .error (.tooManyDigits whole.length)
      else
        let n : Int := digitsValue whole
        .ok (.int (if negative then -n else n), rest)
    else
      let places := fraction.getD []
      .ok (.float (Double.ofDecimal negative (digitsValue (whole ++ places))
        (power.getD 0 - places.length)), rest)

def words : List (String × Value) :=
  [("null", .null), ("true", .bool true), ("false", .bool false), ("NaN", .float .nan),
    ("Infinity", .float (.infinity false)), ("-Infinity", .float (.infinity true))]

mutual

/-- One value that begins here, and what follows it. Each list and each object takes one from the room
that is left for what is inside it. -/
def readValue : Nat → Nat → List Code → Read Value
  | 0, _, cs => .error (.malformed .value cs)
  | fuel + 1, room, cs =>
    match cs with
    | .char '"' :: rest =>
      match readText cs [] 0 rest with
      | .error stop => .error stop
      | .ok (s, rest) => .ok (.ofCodes s, rest)
    | .char '{' :: rest =>
      match room with
      | 0 => .error .exhausted
      | room + 1 =>
        match skipBlank rest with
        | .char '}' :: rest => .ok (.object [], rest)
        | rest => readMembers fuel room [] rest
    | .char '[' :: rest =>
      match room with
      | 0 => .error .exhausted
      | room + 1 =>
        match skipBlank rest with
        | .char ']' :: rest => .ok (.list [], rest)
        | rest => readItems fuel room [] rest
    | _ =>
      match words.find? fun w => startsWith w.1 cs with
      | some (word, v) => .ok (v, cs.drop word.length)
      | none => readNumber cs

def readItems : Nat → Nat → List Value → List Code → Read Value
  | 0, _, _, cs => .error (.malformed .value cs)
  | fuel + 1, room, done, cs =>
    match readValue fuel room cs with
    | .error stop => .error stop
    | .ok (v, rest) =>
      match skipBlank rest with
      | .char ']' :: rest => .ok (.list (v :: done).reverse, rest)
      | .char ',' :: rest => readItems fuel room (v :: done) (skipBlank rest)
      | rest => .error (.malformed .comma rest)

def readMembers : Nat → Nat → Members → List Code → Read Value
  | 0, _, _, cs => .error (.malformed .propertyName cs)
  | fuel + 1, room, done, cs =>
    match cs with
    | .char '"' :: rest =>
      match readText cs [] 0 rest with
      | .error stop => .error stop
      | .ok (key, rest) =>
        match skipBlank rest with
        | .char ':' :: rest =>
          match readValue fuel room (skipBlank rest) with
          | .error stop => .error stop
          | .ok (v, rest) =>
            let done := (.ofCodes key, v) :: done
            match skipBlank rest with
            | .char '}' :: rest => .ok (.object (Members.ofList done.reverse), rest)
            | .char ',' :: rest => readMembers fuel room done (skipBlank rest)
            | rest => .error (.malformed .comma rest)
        | rest => .error (.malformed .colon rest)
    | cs => .error (.malformed .propertyName cs)

end

/-- One value with nothing but blanks around it. -/
def readAll (room : Nat) (cs : List Code) : Except Stop Value :=
  match readValue (2 * cs.length + 2) room (skipBlank cs) with
  | .error stop => .error stop
  | .ok (v, rest) =>
    match skipBlank rest with
    | [] => .ok v
    | rest => .error (.malformed .trailing rest)

/-- Line and column of the place after `before`, both from one. -/
def lineColumn (before : List Code) : Nat × Nat :=
  (before.count (.char '\n') + 1, (before.reverse.takeWhile (· ≠ .char '\n')).length + 1)

def Stop.at (text : List Code) : Stop → BodyError
  | .malformed fault rest =>
    let char := text.length - rest.length
    let (line, column) := lineColumn (text.take char)
    .malformed fault line column char
  | .tooManyDigits count => .tooManyDigits count
  | .exhausted => .exhausted

def ofCodes (room : Nat) (text : List Code) : Except BodyError Value :=
  (readAll room text).mapError (Stop.at text)

end Body

/-- Reads the bytes of a body as one value, with room for so many lists and objects inside each other.
Lone surrogates, `NaN` and the infinities pass, and a number that overflows is infinite. -/
def decodeBody (room : Nat) (bytes : List UInt8) : Except BodyError Value :=
  match Text.Encoding.decodeDetected bytes with
  | .ok codes => Body.ofCodes room codes
  | .error fault => .error (.encoding fault)

end InterfacePlan.Json
