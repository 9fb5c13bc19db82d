set_option autoImplicit false

namespace InterfacePlan.Text

def otherRanges : List (Nat × Nat) :=
  [ (0x80, 0xa9), (0xab, 0xb4), (0xb6, 0xb9), (0xbb, 0xbf), (0xd7, 0xd7), (0xf7, 0xf7),
    (0x2c2, 0x2c5), (0x2d2, 0x2df), (0x300, 0x36f), (0x483, 0x489), (0x660, 0x66d),
    (0x966, 0x96f), (0x2000, 0x2070), (0x2072, 0x207e), (0x2080, 0x208f), (0x20a0, 0x2101),
    (0x2150, 0x2182), (0x2189, 0x2bff), (0x2e00, 0x2e2e), (0x2e30, 0x2fff), (0x3000, 0x3004),
    (0x3007, 0x3030), (0x30a0, 0x30a0), (0x30fb, 0x30fb), (0xe000, 0xf8ff), (0xfe00, 0xfe6f),
    (0xfeff, 0xff20), (0xff3b, 0xff40), (0xff5b, 0xff65), (0xffe0, 0xffff), (0x1f000, 0x1ffff),
    (0xe0000, 0x10ffff) ]

def isLetter (c : Char) : Bool :=
  ('a' ≤ c && c ≤ 'z') || ('A' ≤ c && c ≤ 'Z')
    || (0x80 ≤ c.toNat && !otherRanges.any fun (first, last) => first ≤ c.toNat && c.toNat ≤ last)

end InterfacePlan.Text
