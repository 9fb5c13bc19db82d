set_option autoImplicit false

namespace InterfacePlan.Url.Percent

def digit (n : Nat) : Char :=
  if n < 10 then Char.ofNat (48 + n) else Char.ofNat (55 + n)

def encodeByte (b : UInt8) : List Char :=
  ['%', digit (b.toNat / 16), digit (b.toNat % 16)]

def encode (mayStand : Char → Bool) (s : List Char) : List Char :=
  s.flatMap fun c =>
    if mayStand c then [c] else (String.singleton c).toUTF8.data.toList.flatMap encodeByte

/-- Whether a character is printable ASCII and none of those that are listed. -/
def isOtherThan (listed : String) (c : Char) : Bool :=
  0x20 ≤ c.toNat && c.toNat < 0x7F && !listed.toList.contains c

def inPath : Char → Bool :=
  isOtherThan " \"#<>?\x60\x7b\x7d"

def inQuery : Char → Bool :=
  isOtherThan " \"#<>"

def inFragment : Char → Bool :=
  isOtherThan " \"<>\x60"

def inUserInfo : Char → Bool :=
  isOtherThan " \"#<>?\x60\x7b\x7d/;=@[\\]^|"

def inHost : Char → Bool :=
  isOtherThan " #/:<>?@[]^"

end InterfacePlan.Url.Percent
