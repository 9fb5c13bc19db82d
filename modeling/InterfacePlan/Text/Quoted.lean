import InterfacePlan.Text.Code

set_option autoImplicit false

namespace InterfacePlan.Text

def hexDigit (n : Nat) : Char :=
  if n < 10 then Char.ofNat (48 + n) else Char.ofNat (87 + n)

/-- The low `width` hexadecimal digits of `n`, in lower case. -/
def hex : Nat → Nat → List Char
  | 0, _ => []
  | width + 1, n => hex width (n / 16) ++ [hexDigit (n % 16)]

def unitEscape (n : Nat) : List Char :=
  '\\' :: 'u' :: hex 4 n

def escape (c : Char) : List Char :=
  match c with
  | '"' => ['\\', '"']
  | '\\' => ['\\', '\\']
  | '\n' => ['\\', 'n']
  | '\r' => ['\\', 'r']
  | '\t' => ['\\', 't']
  | '\x08' => ['\\', 'b']
  | '\x0c' => ['\\', 'f']
  | _ => if c.toNat < 32 then unitEscape c.toNat else [c]

def escapeAscii (c : Char) : List Char :=
  if c.toNat < 128 then escape c
  else if c.toNat < 0x10000 then unitEscape c.toNat
  else
    let n := c.toNat - 0x10000
    unitEscape (0xD800 + n / 1024) ++ unitEscape (0xDC00 + n % 1024)

def quote (s : List Char) : List Char :=
  '"' :: s.flatMap escape ++ ['"']

/-- A surrogate that stands alone stays as it is. -/
def escapeCode : Code → List Code
  | .char c => (escape c).map .char
  | .surrogate unit => [.surrogate unit]

def quoteCodes (s : List Code) : List Code :=
  .char '"' :: s.flatMap escapeCode ++ [.char '"']

def escapeCodeAscii : Code → List Char
  | .char c => escapeAscii c
  | .surrogate unit => unitEscape unit

/-- Nothing but ASCII is left; a surrogate that stands alone is escaped like any other unit. -/
def quoteAscii (s : List Code) : List Char :=
  '"' :: s.flatMap escapeCodeAscii ++ ['"']

end InterfacePlan.Text
