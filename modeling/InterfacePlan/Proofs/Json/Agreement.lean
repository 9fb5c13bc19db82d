import InterfacePlan.Proofs.Prompt

set_option autoImplicit false

namespace InterfacePlan

namespace Json

namespace Dense

/-- The style of the plain writer that goes over lines as the dense writer does. -/
def lined : Plain.Style :=
  { layout := .lines 2 }

theorem enclose_eq (level : Nat) (left right : Char) (parts : List (List Char)) :
    Plain.enclose (.lines 2) level left right (parts.map (List.map .char)) =
      (enclose true level left right parts).map .char := by
  cases parts with
  | nil => rfl
  | cons part rest =>
      simp only [enclose, List.map_append, Text.map_join, List.append_assoc]
      simp only [Plain.enclose, List.map_append, List.append_assoc]
      rfl

mutual

/-- Inside any number of containers, what the dense writer takes the plain one writes alike. -/
theorem write_plain : ∀ {v : Value} {level : Nat} {text : List Char},
    (∀ x, ¬ (Value.float x).Inside v) → write true level v = some text →
      Plain.write lined level v = .ok (text.map .char)
  | .null, _, _, _, written | .bool true, _, _, _, written | .bool false, _, _, _, written => by
      cases written
      rfl
  | .text s, _, _, _, written => by
      cases written
      exact congrArg Except.ok (Text.quoteCodes_chars s.toList)
  | .int n, _, _, _, written => by
      rw [write] at written
      split at written
      · cases written
        rfl
      · cases written
  | .float x, _, _, floatFree, _ => absurd .here (floatFree x)
  | .list items, level, _, floatFree, written => by
      have itemsFree : ∀ v ∈ items, ∀ x, ¬ (Value.float x).Inside v :=
        fun v member x inside => floatFree x (.item member inside)
      rw [write] at written
      split at written
      · cases written
      · obtain ⟨parts, each, rfl⟩ := Option.map_eq_some_iff.mp written
        rw [Plain.write, writeItems_plain itemsFree each, ← enclose_eq]
        rfl
  | .tuple items, level, _, floatFree, written => by
      have itemsFree : ∀ v ∈ items, ∀ x, ¬ (Value.float x).Inside v :=
        fun v member x inside => floatFree x (.part member inside)
      rw [write] at written
      obtain ⟨parts, each, rfl⟩ := Option.map_eq_some_iff.mp written
      rw [Plain.write, writeItems_plain itemsFree each, ← enclose_eq]
      rfl
  | .object members, level, _, floatFree, written => by
      have membersFree : ∀ m ∈ members, ∀ x, ¬ (Value.float x).Inside m.2 :=
        fun m member x inside => floatFree x (.field member inside)
      rw [write] at written
      split at written
      · cases written
      · obtain ⟨parts, each, rfl⟩ := Option.map_eq_some_iff.mp written
        rw [Plain.write, writeMembers_plain membersFree each, ← enclose_eq]
        rfl
  | .illFormed _, _, _, _, written | .foreign, _, _, _, written => nomatch written

theorem writeItems_plain : ∀ {items : List Value} {level : Nat} {parts : List (List Char)},
    (∀ v ∈ items, ∀ x, ¬ (Value.float x).Inside v) → writeItems true level items = some parts →
      Plain.writeItems lined level items = .ok (parts.map (List.map .char))
  | [], _, _, _, written => by
      cases written
      rfl
  | v :: rest, level, _, floatFree, written => by
      rw [List.forall_mem_cons] at floatFree
      rw [writeItems] at written
      split at written
      · rename_i first others
        cases written
        rw [Plain.writeItems, write_plain floatFree.1 first, writeItems_plain floatFree.2 others]
        rfl
      · cases written

theorem writeMembers_plain : ∀ {members : Members} {level : Nat} {parts : List (List Char)},
    (∀ m ∈ members, ∀ x, ¬ (Value.float x).Inside m.2) →
      writeMembers true level members = some parts →
      Plain.writeMembers lined level members = .ok (parts.map (List.map .char))
  | [], _, _, _, written => by
      cases written
      rfl
  | (key, v) :: rest, level, _, floatFree, written => by
      rw [List.forall_mem_cons] at floatFree
      cases key with
      | text s =>
          rw [writeMembers] at written
          split at written
          · rename_i part _ first others
            cases written
            have spread : Plain.quote lined (Text.codes s) ++ (Plain.colon lined.layout).map .char ++
                part.map .char = (Text.quote s.toList ++ ':' :: ([' '] ++ part)).map Text.Code.char := by
              have quoted : Plain.quote lined (Text.codes s) = _ := Text.quoteCodes_chars s.toList
              rw [quoted, List.map_append, List.append_assoc]
              rfl
            rw [Plain.writeMembers, Plain.writeKey, write_plain floatFree.1 first,
              writeMembers_plain floatFree.2 others]
            simp only [spread]
            rfl
          · cases written
      | _ => cases written

end

end Dense

/-- Where there is no float, nothing shows which writer was taken. -/
theorem encode_lined {v : Value} (floatFree : ∀ x, ¬ (Value.float x).Inside v) :
    encode (some 2) v = encodePlain (some 2) v := by
  rw [encode, if_pos (.inr rfl)]
  split
  · rename_i text written
    exact (Dense.write_plain floatFree written).symm
  · rfl

end Json

/-- A value without floats has the text of the plain writer, whichever writer it is that wrote it, and a
prompt shows that text of a plan. -/
theorem Json.encode_two_eq_plain {v : Value} (floatFree : ∀ x, ¬ (Value.float x).Inside v) :
    encode (some 2) v = encodePlain (some 2) v ∧
    (v.Writable → ∃ text, encode (some 2) v = .ok text ∧ encodePlain (some 2) v = .ok text) ∧
    ∀ (plan : Plan) (message : List Text.Code) (mode : String), plan.toWire = v →
      Prompt.plannerUser message mode (some plan) =
        (encodePlain (some 2) v).map (Prompt.showing message mode) := by
  have same := encode_lined floatFree
  refine ⟨same, ?_, ?_⟩
  · intro writable
    obtain ⟨text, written⟩ : ∃ text : List Char, encodePlain (some 2) v = .ok (text.map .char) :=
      Plain.exists_write 0 writable fun x inside => absurd inside (floatFree x)
    exact ⟨text.map .char, same.trans written, written⟩
  · rintro plan message mode rfl
    rw [Prompt.plannerUser, same]

/-- A tuple with control characters, empty containers, and the least integer that the dense writer
takes. -/
def tightTuple : Value :=
  .tuple [.text "é\n\"\x00", .list [.object [], .tuple []],
    .object [(.text "", .int (-9223372036854775808)), (.text "b", .list [.null, .bool true])]]

theorem tightTuple_floatFree (x : Double) : ¬ (Value.float x).Inside tightTuple := by
  intro inside
  cases inside with
  | part member deeper =>
      simp only [List.mem_cons, List.not_mem_nil, or_false] at member
      rcases member with rfl | rfl | rfl
      · cases deeper
      · cases deeper with
        | item member deeper =>
            simp only [List.mem_cons, List.not_mem_nil, or_false] at member
            rcases member with rfl | rfl <;> cases deeper <;> contradiction
      · cases deeper with
        | field member deeper =>
            simp only [List.mem_cons, List.not_mem_nil, or_false] at member
            rcases member with rfl | rfl
            · cases deeper
            · cases deeper with
              | item member deeper =>
                  simp only [List.mem_cons, List.not_mem_nil, or_false] at member
                  rcases member with rfl | rfl <;> cases deeper

/-- Here it is the dense writer that writes. -/
theorem Json.encode_two_eq_plain_tuple :
    (Dense.write true 0 tightTuple).isSome ∧ (∀ x, ¬ (Value.float x).Inside tightTuple) ∧
    encode (some 2) tightTuple = encodePlain (some 2) tightTuple :=
  ⟨by decide +kernel, tightTuple_floatFree, (encode_two_eq_plain tightTuple_floatFree).1⟩

end InterfacePlan
