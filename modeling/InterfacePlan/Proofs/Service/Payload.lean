import InterfacePlan.Proofs.Json.Compact
import InterfacePlan.Proofs.Json.Written
import InterfacePlan.Request

set_option autoImplicit false

namespace InterfacePlan

/-- What measures a payload without deep nesting: the compact text of the dense writer if its integers fit
into 64 bits, and else the text of the plain writer with blanks between its parts. -/
theorem Json.encode_none_eq {v : Value} (json : v.isJson .any) (shallow : v.depth ≤ 64) :
    encode none v = .ok ((if v.isJson .sixtyFour then v.compact Dense.floats
      else v.line Plain.floats [' ']).map .char) := by
  have dense : Dense.write (decide (none = some (2 : Int))) 0 v = _ := Dense.write_eq json (by omega)
  rw [encode, if_pos (.inl rfl), dense]
  cases v.isJson .sixtyFour with
  | true => rfl
  | false => exact Plain.write_eq Plain.oneLine_spaced 0 json

namespace Payload

/-- A payload keeps the bounds exactly if its text is short enough and it does not nest too deep. -/
theorem check_eq_ok_iff {members : Members} {text : List Char}
    (written : Json.encode none (.object members) = .ok (text.map .char)) :
    check members = .ok () ↔
      (String.ofList text).utf8ByteSize ≤ 512 * 1024 ∧ (Value.object members).depth ≤ 64 := by
  have shallow := @Json.checkDepth_eq_ok_iff maxDepth (.object members)
  have most : maxSize = 512 * 1024 := rfl
  have deepest : maxDepth = 64 := rfl
  rw [check]
  simp only [written, Json.toBytes, Text.wellFormed?_chars, Json.checkSize]
  by_cases long : maxSize < (String.ofList text).utf8ByteSize
  · rw [if_pos long]
    constructor
    · intro refused
      cases refused
    · rintro ⟨short, -⟩
      omega
  · rw [if_neg long]
    simp only
    cases checked : Json.checkDepth maxDepth (.object members) with
    | ok _ =>
        have fits := shallow.mp checked
        exact iff_of_true rfl ⟨by omega, by omega⟩
    | error cause =>
        constructor
        · intro refused
          cases refused
        · rintro ⟨-, low⟩
          rw [shallow.mpr (by omega)] at checked
          cases checked

/-- The bytes that a payload is charged: those of its compact text, and if it has an integer beyond 64 bits
one more for each comma and each colon. -/
def charge (v : Value) : Nat :=
  if v.isJson .sixtyFour then Text.bytes (v.compact Json.Dense.floats)
  else Text.bytes (v.compact Json.Plain.floats) + v.separators

theorem check_iff_charge {members : Members} (json : (Value.object members).isJson .any) :
    check members = .ok () ↔
      charge (.object members) ≤ 512 * 1024 ∧ (Value.object members).depth ≤ 64 := by
  by_cases shallow : (Value.object members).depth ≤ 64
  · have written := Json.encode_none_eq json shallow
    rw [check_eq_ok_iff written, charge]
    cases (Value.object members).isJson .sixtyFour with
    | true => rfl
    | false =>
        have spaced := Value.bytes_line Json.Plain.floats [' '] json
        have blank : Text.bytes [' '] = 1 := rfl
        rw [blank, Nat.mul_one, Text.bytes] at spaced
        simp only [Bool.false_eq_true, ↓reduceIte, spaced]
  · obtain ⟨text, written⟩ := Json.encode_isOk none json
    rw [check_eq_ok_iff written]
    exact iff_of_false (fun fits => shallow fits.2) fun fits => shallow fits.2

/-- A payload whose integers fit into 64 bits passes exactly if its compact text is short enough and it
does not nest too deep. Any other is charged one byte more for each comma and each colon between its
parts, though it has a compact text as well. So integers can be exchanged for equally long ones as long
as that keeps the payload on its side of the 64 bits. -/
theorem check_exact {members : Members} (json : (Value.object members).isJson .any) :
    Json.Plain.write { layout := .compact } 0 (.object members) =
      .ok (((Value.object members).compact Json.Plain.floats).map .char) ∧
    ((Value.object members).isJson .sixtyFour → (check members = .ok () ↔
      Text.bytes ((Value.object members).compact Json.Dense.floats) ≤ 512 * 1024 ∧
        (Value.object members).depth ≤ 64)) ∧
    (¬ (Value.object members).isJson .sixtyFour → (check members = .ok () ↔
      Text.bytes ((Value.object members).compact Json.Plain.floats) +
          (Value.object members).separators ≤ 512 * 1024 ∧
        (Value.object members).depth ≤ 64)) ∧
    ∀ others, Value.Alike (.object members) (.object others) →
      (Value.object members).isJson .sixtyFour = (Value.object others).isJson .sixtyFour →
      (check members = .ok () ↔ check others = .ok ()) := by
  have passes := check_iff_charge json
  refine ⟨Json.Plain.write_eq Json.Plain.oneLine_compact 0 json, ?_, ?_, ?_⟩
  · intro fits
    rw [passes, charge, if_pos fits]
  · intro beyond
    rw [passes, charge, if_neg beyond]
  · intro others alike side
    have same := alike.sameMeasures
    rw [same.json] at json
    rw [passes, check_iff_charge json, charge, charge, side, same.depth, same.separators, same.bytes,
      same.bytes]

/-- A payload with `k` times the letter x and an integer. -/
def padded (k : Nat) (n : Int) : Members :=
  [(.text "a", .text (String.ofList (List.replicate k 'x'))), (.text "b", .int n)]

theorem bytes_quote_replicate (k : Nat) :
    Text.bytes (Text.quote (List.replicate k 'x')) = k + 2 := by
  have plain : (List.replicate k 'x').flatMap Text.escape = List.replicate k 'x' := by
    induction k with
    | zero => rfl
    | succ k ih => exact congrArg ('x' :: ·) ih
  have ascii : ∀ c ∈ List.replicate k 'x', c.toNat < 128 := by
    intro c inside
    rw [List.eq_of_mem_replicate inside]
    decide
  have mark : Text.bytes ['"'] = 1 := rfl
  rw [Text.quote, plain, List.cons_append, Text.bytes_cons, Text.bytes_append,
    Text.bytes_of_ascii ascii, List.length_replicate, mark]
  omega

theorem bytes_padded (k : Nat) (n : Int) (floats : FloatStyle) :
    Text.bytes ((Value.object (padded k n)).compact floats) =
      k + 13 + (Decimal.intText n).length := by
  have quoted := bytes_quote_replicate k
  have first : Text.bytes (Text.quote "a".toList ++ [':']) = 4 := rfl
  have second : Text.bytes (Text.quote "b".toList ++ [':']) = 4 := rfl
  have brackets : Text.bytes ['\x7b'] + Text.bytes ['\x7d'] = 2 := rfl
  have letters : (String.ofList (List.replicate k 'x')).toList = List.replicate k 'x' :=
    String.toList_ofList
  have parts : Value.lineMembers floats [] (padded k n) =
      [Text.quote "a".toList ++ [':'] ++ Text.quote (List.replicate k 'x'),
        Text.quote "b".toList ++ [':'] ++ Decimal.intText n] := by
    rw [padded, Value.lineMembers, Value.lineMembers, Value.lineMembers, Value.line, Value.line,
      letters]
    simp only [List.nil_append, List.append_assoc, List.singleton_append]
  rw [Value.compact, Value.line, Text.bytes_enclosed, parts]
  simp only [List.flatten_cons, List.flatten_nil, List.append_nil, Text.bytes_append, quoted, first,
    second, brackets, Decimal.bytes_intText, Text.bytes_nil, List.length_cons, List.length_nil]
  omega

theorem padded_isJson (k : Nat) (n : Int) : (Value.object (padded k n)).isJson .any :=
  Value.isJson_of_names ["a", "b"] rfl (by decide) rfl

/-- Two payloads of the most bytes. They differ by one in an integer, and that takes the second one
beyond 64 bits. -/
theorem check_exact_padded :
    Value.Alike (.object (padded 524255 18446744073709551615))
      (.object (padded 524255 18446744073709551616)) ∧
    Text.bytes ((Value.object (padded 524255 18446744073709551616)).compact Json.Plain.floats) =
      512 * 1024 ∧
    check (padded 524255 18446744073709551615) = .ok () ∧
    check (padded 524255 18446744073709551616) ≠ .ok () := by
  have within := (check_exact (padded_isJson 524255 18446744073709551615)).2.1 rfl
  have beyond := (check_exact (padded_isJson 524255 18446744073709551616)).2.2.1 Bool.false_ne_true
  have digits : (Decimal.intText 18446744073709551615).length = 20 := by decide +kernel
  have digits' : (Decimal.intText 18446744073709551616).length = 20 := by decide +kernel
  have size := bytes_padded 524255 18446744073709551616 Json.Plain.floats
  rw [digits'] at size
  refine ⟨?_, size, ?_, ?_⟩
  · exact .object (.cons _ (.same _) (.cons _ (.int (digits.trans digits'.symm)) .nil))
  · rw [within, bytes_padded, digits]
    exact ⟨Nat.le_refl _, by decide⟩
  · intro passes
    have charged := (beyond.mp passes).1
    have three : (Value.object (padded 524255 18446744073709551616)).separators = 3 := rfl
    rw [size, three] at charged
    omega

end Payload

end InterfacePlan
