import InterfacePlan.Text.Code
import InterfacePlan.Text.Quoted

set_option autoImplicit false

namespace InterfacePlan.Text

inductive Encoding where
  | utf8
  | utf16 (bigEndian : Bool)
  | utf32 (bigEndian : Bool)
  deriving DecidableEq

inductive Flaw where
  | start
  | continuation
  | unfinished
  | truncated
  | outOfRange
  | surrogate
  deriving DecidableEq

def Flaw.text : Flaw → String
  | .start => "invalid start byte"
  | .continuation => "invalid continuation byte"
  | .unfinished => "unexpected end of data"
  | .truncated => "truncated data"
  | .outOfRange => "code point not in range(0x110000)"
  | .surrogate => "illegal encoding"

/-- A flaw of `width` bytes, the first of which is `byte` and stands at `place`. -/
structure EncodingFault where
  encoding : Encoding
  flaw : Flaw
  place : Nat
  width : Nat
  byte : UInt8
  deriving DecidableEq

namespace Encoding

def name : Encoding → String
  | .utf8 => "utf-8"
  | .utf16 bigEndian => if bigEndian then "utf-16-be" else "utf-16-le"
  | .utf32 bigEndian => if bigEndian then "utf-32-be" else "utf-32-le"

/-- The encoding that the first bytes of a JSON text show, and the length of its byte order mark. -/
def detect : List UInt8 → Encoding × Nat
  | 0x00 :: 0x00 :: 0xFE :: 0xFF :: _ => (.utf32 true, 4)
  | 0xFF :: 0xFE :: 0x00 :: 0x00 :: _ => (.utf32 false, 4)
  | 0xFE :: 0xFF :: _ => (.utf16 true, 2)
  | 0xFF :: 0xFE :: _ => (.utf16 false, 2)
  | 0xEF :: 0xBB :: 0xBF :: _ => (.utf8, 3)
  | [a, b] =>
    if a = 0 then (.utf16 true, 0) else if b = 0 then (.utf16 false, 0) else (.utf8, 0)
  | a :: b :: c :: d :: _ =>
    if a = 0 then (if b = 0 then .utf32 true else .utf16 true, 0)
    else if b = 0 then (if c = 0 ∧ d = 0 then .utf32 false else .utf16 false, 0)
    else (.utf8, 0)
  | _ => (.utf8, 0)

/-- The first bytes of a text: the code point they are, or their flaw, and how many they are. -/
inductive Step where
  | code (c : Code) (width : Nat)
  | flaw (f : Flaw) (width : Nat)

def isTail (b : UInt8) : Bool :=
  0x80 ≤ b && b < 0xC0

def tailBits (b : UInt8) : Nat :=
  b.toNat % 64

/-- A surrogate that stands alone, in `width` bytes. -/
def lone (surrogates : Bool) (unit width : Nat) : Step :=
  if surrogates then .code (.surrogate unit) width else .flaw .surrogate width

def utf8Step3 (surrogates : Bool) (a b : UInt8) (rest : List UInt8) : Step :=
  let isSurrogate := a = 0xED && 0xA0 ≤ b
  if !isTail b || (a = 0xE0 && b < 0xA0) || (isSurrogate && !surrogates) then
    .flaw .continuation 1
  else
    match rest with
    | [] => if isSurrogate then .flaw .continuation 1 else .flaw .unfinished 2
    | c :: _ =>
      if isTail c then
        .code (.ofNat (((a.toNat - 0xE0) * 64 + tailBits b) * 64 + tailBits c)) 3
      else .flaw .continuation (if isSurrogate then 1 else 2)

def utf8Step4 (a b : UInt8) (rest : List UInt8) : Step :=
  if !isTail b || (a = 0xF0 && b < 0x90) || (a = 0xF4 && 0x90 ≤ b) then .flaw .continuation 1
  else
    match rest with
    | [] => .flaw .unfinished 2
    | c :: rest =>
      if !isTail c then .flaw .continuation 2
      else
        match rest with
        | [] => .flaw .unfinished 3
        | d :: _ =>
          if isTail d then
            .code (.ofNat ((((a.toNat - 0xF0) * 64 + tailBits b) * 64 + tailBits c) * 64
              + tailBits d)) 4
          else .flaw .continuation 3

def utf8Step (surrogates : Bool) (a : UInt8) (rest : List UInt8) : Step :=
  if a < 0x80 then .code (.ofNat a.toNat) 1
  else if a < 0xC2 then .flaw .start 1
  else if a < 0xF5 then
    match rest with
    | [] => .flaw .unfinished 1
    | b :: rest =>
      if a < 0xE0 then
        if isTail b then .code (.ofNat ((a.toNat - 0xC0) * 64 + tailBits b)) 2
        else .flaw .continuation 1
      else if a < 0xF0 then utf8Step3 surrogates a b rest
      else utf8Step4 a b rest
  else .flaw .start 1

def unit16 (bigEndian : Bool) (a b : UInt8) : Nat :=
  if bigEndian then a.toNat * 256 + b.toNat else b.toNat * 256 + a.toNat

def utf16Step (surrogates bigEndian : Bool) (a : UInt8) (rest : List UInt8) : Step :=
  match rest with
  | [] => .flaw .truncated 1
  | b :: rest =>
    let unit := unit16 bigEndian a b
    if 0xD800 ≤ unit ∧ unit < 0xDC00 then
      match rest with
      | c :: d :: _ =>
        let next := unit16 bigEndian c d
        if 0xDC00 ≤ next ∧ next < 0xE000 then
          .code (.ofNat (0x10000 + (unit - 0xD800) * 1024 + (next - 0xDC00))) 4
        else lone surrogates unit 2
      | rest => if surrogates then lone true unit 2 else .flaw .unfinished (2 + rest.length)
    else if 0xDC00 ≤ unit ∧ unit < 0xE000 then lone surrogates unit 2
    else .code (.ofNat unit) 2

def utf32Step (surrogates bigEndian : Bool) (a : UInt8) (rest : List UInt8) : Step :=
  match rest with
  | b :: c :: d :: _ =>
    let n :=
      if bigEndian then ((a.toNat * 256 + b.toNat) * 256 + c.toNat) * 256 + d.toNat
      else ((d.toNat * 256 + c.toNat) * 256 + b.toNat) * 256 + a.toNat
    if 0x110000 ≤ n then .flaw .outOfRange 4
    else if 0xD800 ≤ n ∧ n < 0xE000 then lone surrogates n 4
    else .code (.ofNat n) 4
  | rest => .flaw .truncated (1 + rest.length)

/-- What begins with the byte `a`; `surrogates` says whether lone ones pass. -/
def step (encoding : Encoding) (surrogates : Bool) (a : UInt8) (rest : List UInt8) : Step :=
  match encoding with
  | .utf8 => utf8Step surrogates a rest
  | .utf16 bigEndian => utf16Step surrogates bigEndian a rest
  | .utf32 bigEndian => utf32Step surrogates bigEndian a rest

/-- Reads from `place` on; `skip` bytes belong to a code point that was read, `done` are those read,
last first. -/
def decodeFrom (encoding : Encoding) (place : Nat) (done : List Code) (skip : Nat) :
    List UInt8 → Except EncodingFault (List Code)
  | [] => .ok done.reverse
  | a :: rest =>
    match skip with
    | skip + 1 => decodeFrom encoding (place + 1) done skip rest
    | 0 =>
      match encoding.step true a rest with
      | .code c width => decodeFrom encoding (place + 1) (c :: done) (width - 1) rest
      | .flaw f width => .error ⟨encoding, f, place, width, a⟩

def decode (encoding : Encoding) (bytes : List UInt8) : Except EncodingFault (List Code) :=
  decodeFrom encoding 0 [] 0 bytes

/-- The code points of a JSON text. The mark of an encoding with wider units counts in places. -/
def decodeDetected (bytes : List UInt8) : Except EncodingFault (List Code) :=
  let (encoding, mark) := detect bytes
  decodeFrom encoding (if encoding = .utf8 then 0 else mark) [] 0 (bytes.drop mark)

/-- Reads any bytes as characters, `done` being those read, last first. -/
def replaceFrom (encoding : Encoding) (done : List Char) (skip : Nat) : List UInt8 → List Char
  | [] => done.reverse
  | a :: rest =>
    match skip with
    | skip + 1 => replaceFrom encoding done skip rest
    | 0 =>
      match encoding.step false a rest with
      | .code c width =>
        replaceFrom encoding ((c.char?.getD '\ufffd') :: done) (width - 1) rest
      | .flaw _ width => replaceFrom encoding ('\ufffd' :: done) (width - 1) rest

def replace (encoding : Encoding) (bytes : List UInt8) : List Char :=
  replaceFrom encoding [] 0 bytes

end Encoding

def EncodingFault.message (fault : EncodingFault) : String :=
  let bytes :=
    if fault.width = 1 then
      "byte 0x" ++ String.ofList (hex 2 fault.byte.toNat) ++ " in position " ++ toString fault.place
    else
      "bytes in position " ++ toString fault.place ++ "-" ++ toString (fault.place + fault.width - 1)
  "'" ++ fault.encoding.name ++ "' codec can't decode " ++ bytes ++ ": " ++ fault.flaw.text

end InterfacePlan.Text
