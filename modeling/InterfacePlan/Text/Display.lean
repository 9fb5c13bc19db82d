import InterfacePlan.Text.Quoted
import InterfacePlan.Text.Printable

set_option autoImplicit false

namespace InterfacePlan.Text

def displayQuote (s : List Char) : Char :=
  if s.contains '\'' && !s.contains '"' then '"' else '\''

def displayEscape (quote : Char) (c : Char) : List Char :=
  if c = quote || c = '\\' then ['\\', c]
  else if c = '\n' then ['\\', 'n']
  else if c = '\r' then ['\\', 'r']
  else if c = '\t' then ['\\', 't']
  else if isPrintable c then [c]
  else if c.toNat < 0x100 then '\\' :: 'x' :: hex 2 c.toNat
  else if c.toNat < 0x10000 then '\\' :: 'u' :: hex 4 c.toNat
  else '\\' :: 'U' :: hex 8 c.toNat

def display (s : List Char) : List Char :=
  let quote := displayQuote s
  quote :: s.flatMap (displayEscape quote) ++ [quote]

end InterfacePlan.Text
