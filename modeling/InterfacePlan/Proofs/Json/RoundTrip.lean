import InterfacePlan.Proofs.Json.Extraction
import InterfacePlan.Proofs.Json.Received
import InterfacePlan.Proofs.Text.Digits

set_option autoImplicit false

namespace InterfacePlan.Json

theorem Numbers.within_shortIntegers : (integers.inter received).Within shortIntegers := by
  constructor
  · intro n both
    simp only [inter, Bool.and_eq_true] at both
    exact both.2
  · intro x both
    cases both

theorem shortIntegers_of_received {v : Value} (json : v.isJson .integers)
    (received : v.isJson .received) : v.isJson .shortIntegers := by
  apply Value.isJson_mono Numbers.within_shortIntegers
  rw [Value.isJson_inter, json, received]
  rfl

theorem Writes.extract_iff {members : Members} {text : List Char}
    (writes : Writes (.object members) text) (json : (Value.object members).isJson .integers)
    (repair : Bool) :
    extract repair (text.map .char) = .ok members ↔
      (Value.object members).isJson .shortIntegers := by
  constructor
  · -- What is extracted was received, however the text was written or repaired.
    intro extracted
    exact shortIntegers_of_received json (extract_isJson extracted)
  · intro short
    have extracted : extract repair ([] ++ text.map .char ++ []) = .ok members :=
      extract_written writes short repair List.not_mem_nil List.not_mem_nil
    rwa [List.nil_append, List.append_nil] at extracted

/-- An object without floats comes back from its text, under any indent and from either writer, exactly
if each of its integers is one that the reader takes. -/
theorem extract_encode_iff (members : Members) (json : (Value.object members).isJson .integers)
    (indent : Option Int) (repair : Bool) :
    ((∃ text, encode indent (.object members) = .ok text ∧ extract repair text = .ok members) ↔
      (Value.object members).isJson .shortIntegers) ∧
    ∀ text, Writes (.object members) text →
      (extract repair (text.map .char) = .ok members ↔
        (Value.object members).isJson .shortIntegers) := by
  have each : ∀ text, Writes (.object members) text →
      (extract repair (text.map .char) = .ok members ↔
        (Value.object members).isJson .shortIntegers) :=
    fun text writes => writes.extract_iff json repair
  obtain ⟨text, written⟩ := encode_isOk indent (Value.isJson_mono (Numbers.within_any _) json)
  have here := each text (writes_of_encode written)
  refine ⟨⟨?_, ?_⟩, each⟩
  · rintro ⟨codes, again, extracted⟩
    cases written.symm.trans again
    exact here.mp extracted
  · intro short
    exact ⟨_, written, here.mpr short⟩

/-- Braces, quotes and control characters in names and texts, an integer beyond 64 bits, empty
containers, and a key order that is not sorted. -/
def trickyMembers : Members :=
  [(.text "\x7d\"\x7b", .text "\\\x7d \x7b\n\x00é"),
    (.text "", .list [.int 18446744073709551616, .list [], .object [], .bool false, .null]),
    (.text "b", .object [(.text "z", .int (-9223372036854775809)), (.text "a", .text "")])]

/-- They come back although the dense writer, asked first, refuses them as a whole. -/
theorem extract_encode_iff_tricky : Dense.write false 0 (.object trickyMembers) = none ∧
    ∃ text, encode none (.object trickyMembers) = .ok text ∧
      extract true text = .ok trickyMembers :=
  ⟨by decide, (extract_encode_iff trickyMembers (by decide) none true).1.mpr (by decide)⟩

/-- A negative integer of 4300 digits is written, sign and all, but no text is read as it. -/
theorem extract_encode_long_negative :
    (Value.object [(.text "n", .int (Decimal.negativePower 4299))]).isJson .integers ∧
    ∃ text, encode none (.object [(.text "n", .int (Decimal.negativePower 4299))]) = .ok text ∧
      ∀ repair, extract repair text ≠
        .ok [(.text "n", .int (Decimal.negativePower 4299))] := by
  have json : (Value.object [(.text "n", .int (Decimal.negativePower 4299))]).isJson .integers := rfl
  obtain ⟨text, written⟩ := encode_isOk none (Value.isJson_mono (Numbers.within_any _) json)
  refine ⟨json, _, written, ?_⟩
  intro repair extracted
  have received := extract_isJson extracted
  rw [Value.isJson_object, Value.membersAreJson, Bool.and_eq_true,
    Value.isJson_received_int] at received
  have long := Decimal.lt_length_negativePower 4299
  exact absurd (Nat.lt_of_lt_of_le long received.2.1) (by decide)

end InterfacePlan.Json
