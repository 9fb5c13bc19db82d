import InterfacePlan.Schema.Issue

set_option autoImplicit false

namespace InterfacePlan

/-- What the machine and the libraries below supply, and nothing here defines. -/
structure Platform where
  /-- How many lists and objects the reader of bodies can be inside of before its stack is exhausted. -/
  room : Nat
  /-- Charsets beside those of `Text.Charset`, by their labels: the text of bytes, or why it cannot be
  told. -/
  charset? : String → Option (List UInt8 → Except String (List Text.Code))
  /-- The words about a value that is no request and the issues with it. -/
  prose : Value → List Schema.Issue → String

def Platform.bare (room : Nat) : Platform :=
  ⟨room, fun _ => none, fun _ _ => ""⟩

end InterfacePlan
