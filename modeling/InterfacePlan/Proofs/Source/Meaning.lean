import InterfacePlan.Proofs.Source.Unique
import InterfacePlan.Proofs.Source.WellFormed

set_option autoImplicit false

namespace InterfacePlan.Source

open Json Json.Strict

theorem literalText_eq {v : Value} (json : v.isJson .integers) (proper : v ≠ .null) :
    literal? v = some ((literalText v).map .char) := by
  have written : ∃ text, literal? v = some text := by
    cases v with
    | null => exact absurd rfl proper
    | foreign => cases json
    | _ => exact ⟨_, rfl⟩
  obtain ⟨text, written⟩ := written
  have whole := wellFormed_literal json
  rw [literalText, whole.map_char_chars, written, Option.getD_some]

theorem isJson_short_int {n : Int} :
    (Value.int n).isJson .shortIntegers ↔
      (Decimal.intText n).length ≤ Decimal.maxIntegerLength := by
  simp only [Value.isJson, Numbers.shortIntegers, decide_eq_true_iff]

theorem denotes_list_literal {items : List Value}
    (each : List.Forall₂ Denotes (items.map literalText) items) :
    Denotes (literalText (.list items)) (.list items) := by
  have written := literalText_list_append items []
  rw [List.append_nil] at written
  rw [written]
  exact denotes_list .nil (.replicate 1) .nil each

theorem denotes_object_literal {members : Members}
    (each : List.Forall₂ DenotesMember (members.map memberText) members)
    (distinct : (members.map (·.1)).Nodup) :
    Denotes (literalText (.object members)) (.object members) := by
  have written := literalText_object_append members []
  rw [List.append_nil] at written
  rw [written]
  exact denotes_object (.replicate 1) (.replicate 1) (.replicate 1) each distinct

mutual

/-- A literal denotes its value if the integers in it are short, nulls inside containers included. -/
theorem denotes_literalText : ∀ {v : Value}, v.isJson .shortIntegers → Denotes (literalText v) v
  | .null, _ => denotes_null
  | .bool true, _ => denotes_true
  | .bool false, _ => denotes_false
  | .int n, short => literalText_int n ▸ denotes_int (isJson_short_int.mp short)
  | .text s, _ => literalText_text s ▸ denotes_quote s
  | .list _, json => denotes_list_literal (denotes_items json)
  | .object _, json =>
      denotes_object_literal (denotes_members (Value.isJson_object.mp json).2)
        (Value.isJson_object.mp json).1
  | .float _, json | .tuple _, json | .illFormed _, json | .foreign, json => nomatch json

theorem denotes_items : ∀ {items : List Value}, Value.itemsAreJson .shortIntegers items →
    List.Forall₂ Denotes (items.map literalText) items
  | [], _ => .nil
  | _ :: _, json => by
      rw [Value.itemsAreJson, Bool.and_eq_true] at json
      exact .cons (denotes_literalText json.1) (denotes_items json.2)

theorem denotes_members : ∀ {members : Members}, Value.membersAreJson .shortIntegers members →
    List.Forall₂ DenotesMember (members.map memberText) members
  | [], _ => .nil
  | (key, v) :: _, json => by
      cases key with
      | text s =>
          rw [Value.membersAreJson, Bool.and_eq_true] at json
          have value := denotes_literalText json.1
          have written : memberText (.text s, v) = Text.quote s.toList ++ ':' :: ([' '] ++ literalText v) :=
            congrArg (· ++ _) (chars_quote s)
          exact .cons ⟨s, [' '], literalText v, rfl, written, .replicate 1, value⟩
            (denotes_members json.2)
      | _ => cases json

end

/-- The literal of a JSON value is read back as that value exactly if its integers are short. -/
theorem decode_literalText_iff {v : Value} (json : v.isJson .integers) :
    decode (literalText v) = .ok v ↔ v.isJson .shortIntegers := by
  constructor
  · intro read
    exact shortIntegers_of_received json (decode_isJson read)
  · intro short
    exact decode_of_denotes (denotes_literalText short)

/-- Every JSON value without floats but null itself has a literal. No other such value has the same
one, and it is read back as the value exactly if the integers in the value are short. -/
theorem literal_meaning {v : Value} (json : v.isJson .integers) (proper : v ≠ .null) :
    ∃ text : List Char, literal? v = some (text.map .char) ∧
      (decode text = .ok v ↔ v.isJson .shortIntegers) ∧
      ∀ w, w.isJson .integers → literal? w = some (text.map .char) → w = v := by
  refine ⟨literalText v, literalText_eq json proper, decode_literalText_iff json, ?_⟩
  intro w json' written
  have same : literalText w = literalText v := by
    rw [literalText, written, Option.getD_some, Text.chars_map_char]
  exact literalText_inj json' json same

/-- A null, empty containers, quotes and braces in names and texts, and an integer beyond 64 bits. -/
theorem literal_meaning_tricky : Value.object trickyMembers ≠ .null ∧
    ∃ text : List Char, literal? (.object trickyMembers) = some (text.map .char) ∧
      decode text = .ok (.object trickyMembers) ∧
      ∀ w, w.isJson .integers → literal? w = some (text.map .char) → w = .object trickyMembers := by
  have proper : Value.object trickyMembers ≠ .null := by decide
  obtain ⟨text, written, read, only⟩ :=
    literal_meaning (v := .object trickyMembers) (by decide) proper
  exact ⟨proper, text, written, read.mpr (by decide), only⟩

/-- A negative integer of 4300 digits has a literal, which no reader of 4300 characters takes. -/
theorem literal_long_negative :
    (Value.object [(.text "n", .int (Decimal.negativePower 4299))]).isJson .integers ∧
    ∃ text : List Char,
      literal? (.object [(.text "n", .int (Decimal.negativePower 4299))]) = some (text.map .char) ∧
      decode text ≠ .ok (.object [(.text "n", .int (Decimal.negativePower 4299))]) := by
  have json : (Value.object [(.text "n", .int (Decimal.negativePower 4299))]).isJson .integers := rfl
  have long := Decimal.lt_length_negativePower 4299
  refine ⟨json, _, literalText_eq json (fun same => nomatch same), ?_⟩
  intro read
  have short := (decode_literalText_iff json).mp read
  rw [Value.isJson_object, Value.membersAreJson, Bool.and_eq_true, isJson_short_int] at short
  exact absurd (Nat.lt_of_lt_of_le long short.2.1) (by decide)

end InterfacePlan.Source
