import InterfacePlan.Proofs.Json.Codes
import InterfacePlan.Proofs.Json.Written

set_option autoImplicit false

namespace InterfacePlan.Json

/-- A text of either writer is read as the value that it was written from, where numbers that are not
finite have become null. -/
theorem decode_of_write {v : Value} {text : List Char} (json : v.isJson .any) :
    (∀ lines, Dense.write lines 0 v = some text → decode text = .ok v.nulled) ∧
    (v.isJson .received → ∀ indent, encodePlain indent v = .ok (text.map .char) →
      decode text = .ok v.nulled) := by
  constructor
  · intro lines written
    exact Strict.decode_of_denotes (Dense.denotes_of_write lines json written)
  · intro received indent written
    rw [Value.nulled_of_received received]
    obtain ⟨own, same, denotes⟩ := Plain.denotes_of_write rfl received written
    rw [Text.chars_injective same]
    exact Strict.decode_of_denotes denotes

/-- With either indent that asks the dense writer first, a value has a text of strict JSON if the dense
writer takes it or if its numbers can be received. -/
theorem decode_encode {v : Value} (json : v.isJson .any) {indent : Option Int}
    (two : indent = none ∨ indent = some 2)
    (taken : v.isJson .received ∨ (Dense.write (indent = some 2) 0 v).isSome) :
    ∃ text : List Char, encode indent v = .ok (text.map .char) ∧ decode text = .ok v.nulled := by
  cases dense : Dense.write (indent = some 2) 0 v with
  | some text =>
      refine ⟨text, ?_, (decode_of_write json).1 _ dense⟩
      rw [encode, if_pos two, dense]
  | none =>
      rw [dense] at taken
      have received : v.isJson .received := taken.resolve_right (by simp)
      obtain ⟨text, written⟩ := encode_isOk indent json
      refine ⟨text, written, ?_⟩
      rw [encode, if_pos two, dense] at written
      exact (decode_of_write json).2 received indent written

/-- Numbers that are not finite, an empty list, and the negative zero, in an object that the dense writer
takes. -/
def specialMembers : Value :=
  .object [(.text "é", .list [.float .nan, .float (.infinity true), .list []]),
    (.text "", .float (Double.zero true))]

/-- The negative zero and the least number above zero, beside an integer beyond 64 bits. -/
def largeItems : Value :=
  .list [.float (Double.zero true), .float (.finite false 1 (-1074) (by decide)),
    .int 18446744073709551616]

/-- The one is read with nulls, and the other as it is though the dense writer refuses it. -/
theorem decode_encode_special :
    (∃ text : List Char, encode (some 2) specialMembers = .ok (text.map .char) ∧ decode text = .ok (.object
      [(.text "é", .list [.null, .null, .list []]), (.text "", .float (Double.zero true))])) ∧
    Dense.write false 0 largeItems = none ∧
    ∃ text : List Char, encode none largeItems = .ok (text.map .char) ∧ decode text = .ok largeItems :=
  ⟨decode_encode (v := specialMembers) (by decide +kernel) (.inr rfl) (.inr (by decide +kernel)),
    by decide +kernel,
    decode_encode (v := largeItems) (by decide +kernel) (.inl rfl) (.inl (by decide +kernel))⟩

/-- An integer that is too long for the reader is written in full, by the plain writer. -/
theorem encode_int_of_long {n : Int}
    (long : Decimal.maxIntegerLength < (Decimal.intText n).length) (indent : Option Int) :
    encode indent (.int n) = .ok ((Decimal.intText n).map .char) := by
  have large : ¬ Dense.fits n := by
    intro bounded
    have short := Dense.short_of_fits bounded
    omega
  have refused : Dense.write (indent = some 2) 0 (.int n) = none := by
    rw [Dense.write, if_neg large]
  unfold encode
  by_cases two : indent = none ∨ indent = some 2
  · rw [if_pos two, refused]
    rfl
  · rw [if_neg two]
    rfl

theorem decode_intText_of_long {n : Int}
    (long : Decimal.maxIntegerLength < (Decimal.intText n).length) (v : Value) :
    decode (Decimal.intText n) ≠ .ok v := by
  have read := Strict.readValue_intText (2 * (Decimal.intText n).length + 1) [] n Strict.Stops.nil
  rw [List.append_nil, if_neg (Nat.not_le.mpr long)] at read
  have refused : Strict.readAll (Decimal.intText n) = .error (.integerTooLong []) := by
    rw [Strict.readAll, read]
  rw [decode, refused]
  intro same
  cases same

/-- A number that is not finite, in a list that the dense writer refuses for its integer. -/
def nanBesideLarge : Value :=
  .list [.float .nan, .int 18446744073709551616]

/-- Such a list has a text that is no JSON, under both indents. The text of an integer of 4300 digits with
its sign is not read either, and the text of a surrogate that stands alone has no form in bytes to be
read. -/
theorem decode_encode_refused :
    (∀ indent : Option Int, indent = none ∨ indent = some 2 →
      ∃ text : List Char, encode indent nanBesideLarge = .ok (text.map .char) ∧
        ∀ v, decode text ≠ .ok v) ∧
    (∃ text : List Char, encode none (.int (Decimal.negativePower 4299)) = .ok (text.map .char) ∧
      ∀ v, decode text ≠ .ok v) ∧
    ∀ indent : Option Int, indent = none ∨ indent = some 2 →
      ∃ codes, encode indent (.illFormed [.surrogate 0xD800]) = .ok codes ∧
        Text.wellFormed? codes = none := by
  have refuses : ∀ text, (decode text).isOk = false → ∀ v, decode text ≠ .ok v := by
    intro text refused v read
    rw [read] at refused
    cases refused
  refine ⟨?_, ?_, ?_⟩
  · rintro indent (rfl | rfl)
    · exact ⟨"[NaN, 18446744073709551616]".toList, by decide +kernel,
        refuses _ (by decide +kernel)⟩
    · exact ⟨"[\n  NaN,\n  18446744073709551616\n]".toList, by decide +kernel,
        refuses _ (by decide +kernel)⟩
  · have long := Decimal.lt_length_negativePower 4299
    exact ⟨_, encode_int_of_long long none, decode_intText_of_long long⟩
  · have holds : (Value.illFormed [.surrogate 0xD800]).HoldsSurrogate 0xD800 :=
      .text .here (List.mem_singleton_self _)
    rintro indent (rfl | rfl)
    · exact ⟨_, rfl, holds.wellFormed?_encode none rfl⟩
    · exact ⟨_, rfl, holds.wellFormed?_encode (some 2) rfl⟩

end InterfacePlan.Json
