import InterfacePlan.Proofs.Source.Literal

set_option autoImplicit false

namespace InterfacePlan.Source

open Text (Code)

namespace Scan

def run (s : Scan) (text : List Code) : Scan :=
  text.foldl step s

/-- After so many code points, and not before, no brace is open. -/
structure ClosesAfter (s : Scan) (text : List Code) (n : Nat) : Prop where
  closed : (s.run (text.take n)).depth = 0
  still : ∀ m < n, (s.run (text.take m)).depth ≠ 0

end Scan

/-- What is split off ends where no brace is open for the first time. -/
theorem depth_of_splitLiteral {s : Scan} {cs literal rest : List Code}
    (split : splitLiteral s cs = some (literal, rest)) (within : s.depth ≠ 0) :
    ∃ c, cs = literal ++ c :: rest ∧ (s.run (literal ++ [c])).depth = 0 ∧
      ∀ m ≤ literal.length, (s.run (literal.take m)).depth ≠ 0 := by
  induction cs generalizing s literal with
  | nil => cases split
  | cons c cs ih =>
      rw [splitLiteral] at split
      split at split
      · rename_i closed
        cases split
        exact ⟨c, rfl, closed, fun _ _ => by rwa [List.take_nil]⟩
      · rename_i further
        obtain ⟨r, inner, same⟩ := Option.map_eq_some_iff.mp split
        cases same
        obtain ⟨last, whole, closed, still⟩ := ih inner further
        refine ⟨last, by rw [whole, List.cons_append], closed, ?_⟩
        intro m before
        cases m with
        | zero => exact within
        | succ m => exact still m (Nat.le_of_succ_le_succ before)

/-- The scanner that begins inside the brace before a sealed text comes to an end at the brace after it. -/
theorem Sealed.closesAfter {literal : List Code} (text : Sealed literal) (rest : List Code) :
    (Scan.inside 0).ClosesAfter (literal ++ .char '\x7d' :: rest) (literal.length + 1) := by
  have split := splitLiteral_of_transparent text.transparent rest
  obtain ⟨c, whole, closed, still⟩ := depth_of_splitLiteral split (Nat.succ_ne_zero 0)
  cases List.append_cancel_left whole
  constructor
  · rw [List.take_length_add_append]
    exact closed
  · intro m before
    have within : m ≤ literal.length := Nat.le_of_lt_succ before
    rw [List.take_append_of_le_length within]
    exact still m within

/-- A literal stands on one line, and the brace that closes it is the first at which none is open. This
holds for any value that has a literal, ill-formed texts in it or not, and whatever its keys are called. -/
theorem literal_delimited (shown : Key → List Code) {v : Value} {literal : List Code}
    (written : literalBy shown v = some literal) (rest : List Code) :
    (∀ c ∈ literal, c.isControl = false) ∧
      (Scan.inside 0).ClosesAfter (literal ++ .char '\x7d' :: rest) (literal.length + 1) := by
  have text : Sealed literal := sealed_literalBy written
  exact ⟨text.visible, text.closesAfter rest⟩

/-- Quotes, backslashes, braces and a line break in texts and keys, a surrogate that stands alone, keys that
are no texts, and an object without a literal of its own. -/
def untidyValue : Value :=
  .object
    [(.tuple [.text "\x7d\"", .null], .list [.text "\\\"\x7d\n", .foreign, .float .nan]),
      (.illFormed [.char '"', .surrogate 0xD83D, .char '\\'],
        .tuple [.illFormed [.surrogate 0xDC00, .char '\x7b']]),
      (.bool true, .object [])]

theorem literal_delimited_untidy : ∃ literal, literal? untidyValue = some literal ∧
    (∀ c ∈ literal, c.isControl = false) ∧
      (Scan.inside 0).ClosesAfter (literal ++ .char '\x7d' :: Text.codes "\" \x7d\x7d>")
        (literal.length + 1) :=
  ⟨_, rfl, literal_delimited Key.plain (v := untidyValue) rfl (Text.codes "\" \x7d\x7d>")⟩

end InterfacePlan.Source
