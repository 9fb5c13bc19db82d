import InterfacePlan.Json.Encode
import InterfacePlan.Proofs.Json.Floats
import InterfacePlan.Proofs.Results
import InterfacePlan.Proofs.Text.Codes
import InterfacePlan.Proofs.Text.Pieces

set_option autoImplicit false

namespace InterfacePlan.Json

open Strict (AllBlank Denotes DenotesMember)
open Text (Code)

/-- Parts between brackets, separated by commas, with blanks around each. -/
def Enclosed (left right : Char) (parts : List (List Char)) (text : List Char) : Prop :=
  ∃ before gap after, AllBlank before ∧ AllBlank gap ∧ AllBlank after ∧
    text = left :: (before ++ (Text.join (',' :: gap) parts ++ (after ++ [right])))

namespace Enclosed

variable {left right : Char} {parts : List (List Char)} {text : List Char}

theorem denotes_list (enclosed : Enclosed '[' ']' parts text) {items : List Value}
    (each : List.Forall₂ Denotes parts items) : Denotes text (.list items) := by
  obtain ⟨before, gap, after, beforeBlank, gapBlank, afterBlank, rfl⟩ := enclosed
  exact Strict.denotes_list beforeBlank gapBlank afterBlank each

theorem denotes_object (enclosed : Enclosed '\x7b' '\x7d' parts text) {members : Members}
    (each : List.Forall₂ DenotesMember parts members) (distinct : (members.map (·.1)).Nodup) :
    Denotes text (.object members) := by
  obtain ⟨before, gap, after, beforeBlank, gapBlank, afterBlank, rfl⟩ := enclosed
  exact Strict.denotes_object beforeBlank gapBlank afterBlank each distinct

theorem brackets (enclosed : Enclosed left right parts text) :
    ∃ inner, text = left :: (inner ++ [right]) := by
  obtain ⟨before, gap, after, -, -, -, rfl⟩ := enclosed
  refine ⟨before ++ (Text.join (',' :: gap) parts ++ after), ?_⟩
  simp only [List.append_assoc]

end Enclosed

namespace Dense

theorem breakLine_blank (lines : Bool) (level : Nat) : AllBlank (breakLine lines level) := by
  cases lines with
  | false => exact .nil
  | true => exact .cons rfl (.replicate _)

theorem enclosed_enclose (lines : Bool) (level : Nat) (left right : Char)
    (parts : List (List Char)) :
    Enclosed left right parts (enclose lines level left right parts) := by
  cases parts with
  | nil => exact ⟨[], [], [], .nil, .nil, .nil, rfl⟩
  | cons part rest =>
      refine ⟨breakLine lines (level + 1), breakLine lines (level + 1), breakLine lines level,
        breakLine_blank _ _, breakLine_blank _ _, breakLine_blank _ _, ?_⟩
      simp only [enclose, List.cons_append, List.append_assoc]

theorem short_of_fits {n : Int} (bounded : fits n) :
    (Decimal.intText n).length ≤ Decimal.maxIntegerLength := by
  have small : n.natAbs < Nat.pow 10 20 := by
    simp only [fits, Bool.and_eq_true, decide_eq_true_eq, Nat.pow_eq] at bounded ⊢
    omega
  have digits := Decimal.length_natText_le (by decide) small
  unfold Decimal.maxIntegerLength
  rcases Decimal.intText_cases n with ⟨-, same⟩ | ⟨-, same⟩
  · rw [same, List.length_cons]
    omega
  · rw [same]
    omega

theorem denotes_float (x : Double) : Denotes (floats.write x) (Value.float x).nulled := by
  cases x with
  | finite negative m q onGrid => exact Strict.denotes_float floats rfl
  | nan => exact Strict.denotes_null
  | infinity negative => cases negative <;> exact Strict.denotes_null

mutual

/-- What the dense writer takes, it writes so that it is read back, numbers that are not finite apart. -/
theorem denotes_of_write (lines : Bool) : ∀ {v : Value} {level : Nat} {text : List Char},
    v.isJson .any → write lines level v = some text → Denotes text v.nulled
  | .null, _, _, _, written => by
      cases written
      exact Strict.denotes_null
  | .bool true, _, _, _, written => by
      cases written
      exact Strict.denotes_true
  | .bool false, _, _, _, written => by
      cases written
      exact Strict.denotes_false
  | .int n, _, _, _, written => by
      rw [write] at written
      split at written
      · rename_i bounded
        cases written
        exact Strict.denotes_int (short_of_fits bounded)
      · cases written
  | .float x, _, _, _, written => by
      cases written
      exact denotes_float x
  | .text s, _, _, _, written => by
      cases written
      exact Strict.denotes_quote s
  | .list items, level, _, json, written => by
      rw [write] at written
      split at written
      · cases written
      · obtain ⟨parts, each, rfl⟩ := Option.map_eq_some_iff.mp written
        exact (enclosed_enclose lines level _ _ parts).denotes_list
          (items_denote_of_write lines json each)
  | .object members, level, _, json, written => by
      obtain ⟨distinct, json⟩ := Value.isJson_object.mp json
      rw [← Value.nulledMembers_keys] at distinct
      rw [write] at written
      split at written
      · cases written
      · obtain ⟨parts, each, rfl⟩ := Option.map_eq_some_iff.mp written
        exact (enclosed_enclose lines level _ _ parts).denotes_object
          (members_denote_of_write lines json each) distinct
  | .tuple _, _, _, json, _ | .illFormed _, _, _, json, _ | .foreign, _, _, json, _ => nomatch json

theorem items_denote_of_write (lines : Bool) :
    ∀ {items : List Value} {level : Nat} {parts : List (List Char)},
      Value.itemsAreJson .any items → writeItems lines level items = some parts →
      List.Forall₂ Denotes parts (Value.nulledItems items)
  | [], _, _, _, written => by
      cases written
      exact .nil
  | v :: rest, level, _, json, written => by
      rw [Value.itemsAreJson, Bool.and_eq_true] at json
      rw [writeItems] at written
      split at written
      · rename_i part parts first others
        cases written
        exact .cons (denotes_of_write lines json.1 first)
          (items_denote_of_write lines json.2 others)
      · cases written

theorem members_denote_of_write (lines : Bool) :
    ∀ {members : Members} {level : Nat} {parts : List (List Char)},
      Value.membersAreJson .any members → writeMembers lines level members = some parts →
      List.Forall₂ DenotesMember parts (Value.nulledMembers members)
  | [], _, _, _, written => by
      cases written
      exact .nil
  | (key, v) :: rest, level, _, json, written => by
      cases key with
      | text s =>
          rw [Value.membersAreJson, Bool.and_eq_true] at json
          rw [writeMembers] at written
          split at written
          · rename_i part parts first others
            cases written
            have blank : AllBlank (if lines then [' '] else []) := by
              cases lines with
              | false => exact .nil
              | true => exact .replicate 1
            exact .cons ⟨s, _, part, rfl, rfl, blank, denotes_of_write lines json.1 first⟩
              (members_denote_of_write lines json.2 others)
          · cases written
      | _ => cases written

end

end Dense

namespace Plain

theorem breakLine_blank (layout : Layout) (level : Nat) : AllBlank (breakLine layout level) := by
  cases layout with
  | lines indent => exact .cons rfl (.replicate _)
  | _ => exact .nil

theorem separator_eq (layout : Layout) (level : Nat) :
    ∃ gap, AllBlank gap ∧ separator layout level = ',' :: gap := by
  cases layout with
  | compact => exact ⟨[], .nil, rfl⟩
  | spaced => exact ⟨[' '], .replicate 1, rfl⟩
  | lines indent => exact ⟨_, breakLine_blank (.lines indent) level, rfl⟩

theorem colon_eq (layout : Layout) : ∃ gap, AllBlank gap ∧ colon layout = ':' :: gap := by
  cases layout with
  | compact => exact ⟨[], .nil, rfl⟩
  | _ => exact ⟨[' '], .replicate 1, rfl⟩

theorem enclosed_enclose (layout : Layout) (level : Nat) (left right : Char)
    (parts : List (List Char)) :
    ∃ text, enclose layout level left right (parts.map (List.map .char)) = text.map .char ∧
      Enclosed left right parts text := by
  cases parts with
  | nil => exact ⟨[left, right], rfl, [], [], [], .nil, .nil, .nil, rfl⟩
  | cons part rest =>
      obtain ⟨gap, blank, same⟩ := separator_eq layout (level + 1)
      refine ⟨left :: (breakLine layout (level + 1) ++ (Text.join (',' :: gap) (part :: rest) ++
        (breakLine layout level ++ [right]))), ?_, breakLine layout (level + 1), gap,
        breakLine layout level, breakLine_blank _ _, blank, breakLine_blank _ _, rfl⟩
      have joined := Text.map_join Code.char (',' :: gap) (part :: rest)
      rw [List.map_cons, List.map_cons] at joined
      simp only [enclose, same, List.map_cons, List.map_append, List.append_assoc, List.cons_append,
        joined]

theorem enclose_brackets (layout : Layout) (level : Nat) (left right : Char)
    (parts : List (List Code)) :
    ∃ inner, enclose layout level left right parts = .char left :: (inner ++ [.char right]) := by
  cases parts with
  | nil => exact ⟨[], rfl⟩
  | cons part rest =>
      refine ⟨(breakLine layout (level + 1)).map .char ++
        Text.join ((separator layout (level + 1)).map .char) (part :: rest) ++
        (breakLine layout level).map .char, ?_⟩
      simp only [enclose, List.map_cons, List.map_append, List.map_nil, List.cons_append,
        List.append_assoc]

variable {style : Style}

theorem quote_chars (style : Style) (s : List Char) :
    ∃ text : List Char, quote style (s.map .char) = text.map .char := by
  unfold quote
  split
  · exact ⟨_, rfl⟩
  · exact ⟨_, Text.quoteCodes_chars s⟩

/-- Whether a style has a text for each float of a class. -/
def Style.Takes (style : Style) (numbers : Numbers) : Prop :=
  ∀ x, numbers.float x → ∃ text, writeFloat style x = .ok text

theorem Style.takes_any (nonFinite : style.nonFinite) : style.Takes .any := by
  intro x _
  refine ⟨floats.write x, ?_⟩
  rw [writeFloat.eq_def]
  split
  · rfl
  · rw [if_pos nonFinite]

theorem Style.takes_received (style : Style) : style.Takes .received := by
  intro x finite
  cases x with
  | finite negative m q onGrid => exact ⟨_, rfl⟩
  | _ => cases finite

def Style.Covers (style : Style) (v : Value) : Prop :=
  ∀ x, (Value.float x).Inside v → ∃ text, writeFloat style x = .ok text

mutual

/-- Nothing that can be written is refused, if its floats may be written, and its text is one of
characters. -/
theorem exists_write : ∀ {v : Value} (level : Nat), v.Writable → style.Covers v →
    ∃ text : List Char, write style level v = .ok (text.map .char)
  | .null, _, _, _ | .bool _, _, _, _ | .int _, _, _, _ => ⟨_, rfl⟩
  | .float x, _, _, covers => by
      obtain ⟨text, written⟩ := covers x .here
      exact ⟨text, by rw [write, written]; rfl⟩
  | .text s, _, _, _ => by
      obtain ⟨text, same⟩ := quote_chars style s.toList
      exact ⟨text, congrArg Except.ok same⟩
  | .illFormed codes, _, writable, _ => absurd .here (writable.wellFormed codes)
  | .foreign, _, writable, _ => absurd .here writable.native
  | .list items, level, writable, covers => by
      obtain ⟨parts, written⟩ := @exists_writeItems items (level + 1)
        (fun v member => writable.of_inside (.item member .here))
        (fun v member x inside => covers x (.item member inside))
      obtain ⟨text, same, -⟩ := enclosed_enclose style.layout level '[' ']' parts
      exact ⟨text, by rw [write, written, Except.map, same]⟩
  | .tuple items, level, writable, covers => by
      obtain ⟨parts, written⟩ := @exists_writeItems items (level + 1)
        (fun v member => writable.of_inside (.part member .here))
        (fun v member x inside => covers x (.part member inside))
      obtain ⟨text, same, -⟩ := enclosed_enclose style.layout level '[' ']' parts
      exact ⟨text, by rw [write, written, Except.map, same]⟩
  | .object members, level, writable, covers => by
      obtain ⟨parts, written⟩ := @exists_writeMembers members (level + 1)
        (writable.named members .here)
        (fun m member => writable.of_inside (.field member .here))
        (fun m member x inside => covers x (.field member inside))
      obtain ⟨text, same, -⟩ := enclosed_enclose style.layout level '\x7b' '\x7d' parts
      exact ⟨text, by rw [write, written, Except.map, same]⟩

theorem exists_writeItems : ∀ {items : List Value} (level : Nat), (∀ v ∈ items, v.Writable) →
    (∀ v ∈ items, style.Covers v) →
    ∃ parts : List (List Char), writeItems style level items = .ok (parts.map (List.map .char))
  | [], _, _, _ => ⟨[], rfl⟩
  | v :: rest, level, writable, covers => by
      rw [List.forall_mem_cons] at writable covers
      obtain ⟨part, first⟩ := exists_write level writable.1 covers.1
      obtain ⟨parts, others⟩ := exists_writeItems level writable.2 covers.2
      exact ⟨part :: parts, by rw [writeItems, first, others]; rfl⟩

theorem exists_writeMembers : ∀ {members : Members} (level : Nat),
    (∀ m ∈ members, ∃ s, m.1 = .text s) → (∀ m ∈ members, m.2.Writable) →
    (∀ m ∈ members, style.Covers m.2) →
    ∃ parts : List (List Char), writeMembers style level members = .ok (parts.map (List.map .char))
  | [], _, _, _, _ => ⟨[], rfl⟩
  | (key, v) :: rest, level, named, writable, covers => by
      rw [List.forall_mem_cons] at named writable covers
      obtain ⟨s, rfl⟩ := named.1
      obtain ⟨name, same⟩ := quote_chars style s.toList
      obtain ⟨part, first⟩ := exists_write level writable.1 covers.1
      obtain ⟨parts, others⟩ := exists_writeMembers level named.2 writable.2 covers.2
      refine ⟨(name ++ colon style.layout ++ part) :: parts, ?_⟩
      rw [writeMembers, writeKey, Text.codes, same, first, others]
      simp only [Except.map, List.map_cons, List.map_append]

end

variable {numbers : Numbers}

theorem write_isOk (takes : style.Takes numbers) {v : Value} (level : Nat)
    (json : v.isJson numbers) : ∃ text : List Char, write style level v = .ok (text.map .char) :=
  exists_write level (Value.writable_of_isJson json) fun x inside => takes x (inside.isJson json)

mutual

/-- What the plain writer takes, it writes so that it is read back. -/
theorem denotes_of_write (unicode : style.ascii = false) :
    ∀ {v : Value} {level : Nat} {codes : List Code}, v.isJson .received →
      write style level v = .ok codes → ∃ text, codes = text.map .char ∧ Denotes text v
  | .null, _, _, _, written => by
      cases written
      exact ⟨_, rfl, Strict.denotes_null⟩
  | .bool true, _, _, _, written => by
      cases written
      exact ⟨_, rfl, Strict.denotes_true⟩
  | .bool false, _, _, _, written => by
      cases written
      exact ⟨_, rfl, Strict.denotes_false⟩
  | .int n, _, _, json, written => by
      cases written
      exact ⟨_, rfl, Strict.denotes_int (Value.isJson_received_int.mp json)⟩
  | .float x, _, _, finite, written => by
      cases x with
      | finite negative m q onGrid =>
          cases written
          exact ⟨_, rfl, Strict.denotes_float floats finite⟩
      | _ => cases finite
  | .text s, _, _, _, written => by
      rw [write, quote, unicode] at written
      cases written
      exact ⟨_, Text.quoteCodes_chars s.toList, Strict.denotes_quote s⟩
  | .list items, level, _, json, written => by
      rw [write] at written
      obtain ⟨_, each, rfl⟩ := exists_of_map written
      obtain ⟨parts, rfl, denote⟩ := items_denote_of_write unicode json each
      obtain ⟨text, same, enclosed⟩ := enclosed_enclose style.layout level '[' ']' parts
      exact ⟨text, same, enclosed.denotes_list denote⟩
  | .object members, level, _, json, written => by
      obtain ⟨distinct, json⟩ := Value.isJson_object.mp json
      rw [write] at written
      obtain ⟨_, each, rfl⟩ := exists_of_map written
      obtain ⟨parts, rfl, denote⟩ := members_denote_of_write unicode json each
      obtain ⟨text, same, enclosed⟩ := enclosed_enclose style.layout level '\x7b' '\x7d' parts
      exact ⟨text, same, enclosed.denotes_object denote distinct⟩
  | .tuple _, _, _, json, _ | .illFormed _, _, _, json, _ | .foreign, _, _, json, _ => nomatch json

theorem items_denote_of_write (unicode : style.ascii = false) :
    ∀ {items : List Value} {level : Nat} {written : List (List Code)},
      Value.itemsAreJson .received items → writeItems style level items = .ok written →
      ∃ parts, written = parts.map (List.map .char) ∧ List.Forall₂ Denotes parts items
  | [], _, _, _, written => by
      cases written
      exact ⟨[], rfl, .nil⟩
  | v :: rest, level, _, json, written => by
      rw [Value.itemsAreJson, Bool.and_eq_true] at json
      rw [writeItems] at written
      split at written
      · cases written
      · rename_i first
        obtain ⟨_, others, rfl⟩ := exists_of_map written
        obtain ⟨part, rfl, head⟩ := denotes_of_write unicode json.1 first
        obtain ⟨parts, rfl, tail⟩ := items_denote_of_write unicode json.2 others
        exact ⟨part :: parts, rfl, .cons head tail⟩

theorem members_denote_of_write (unicode : style.ascii = false) :
    ∀ {members : Members} {level : Nat} {written : List (List Code)},
      Value.membersAreJson .received members → writeMembers style level members = .ok written →
      ∃ parts, written = parts.map (List.map .char) ∧ List.Forall₂ DenotesMember parts members
  | [], _, _, _, written => by
      cases written
      exact ⟨[], rfl, .nil⟩
  | (key, v) :: rest, level, _, json, written => by
      cases key with
      | text s =>
          rw [Value.membersAreJson, Bool.and_eq_true] at json
          rw [writeMembers, writeKey, quote, unicode] at written
          simp only at written
          split at written
          · cases written
          · rename_i first
            obtain ⟨_, others, rfl⟩ := exists_of_map written
            obtain ⟨part, rfl, head⟩ := denotes_of_write unicode json.1 first
            obtain ⟨parts, rfl, tail⟩ := members_denote_of_write unicode json.2 others
            obtain ⟨gap, blank, same⟩ := colon_eq style.layout
            have member : DenotesMember (Text.quote s.toList ++ ':' :: (gap ++ part)) (.text s, v) :=
              ⟨s, gap, part, rfl, rfl, blank, head⟩
            refine ⟨_ :: parts, ?_, .cons member tail⟩
            simp only [Bool.false_eq_true, ↓reduceIte, Text.codes, Text.quoteCodes_chars, same,
              List.map_cons, List.map_append, List.append_assoc, List.cons_append]
      | _ => cases json

end

end Plain

theorem encode_isOk (indent : Option Int) {v : Value} (json : v.isJson .any) :
    ∃ text : List Char, encode indent v = .ok (text.map .char) := by
  have plain : ∃ text : List Char, encodePlain indent v = .ok (text.map .char) :=
    Plain.write_isOk (Plain.Style.takes_any rfl) 0 json
  unfold encode
  split
  · split
    · exact ⟨_, rfl⟩
    · exact plain
  · exact plain

/-- A body can be made of every JSON value without infinities and `nan`. -/
theorem encodeBody_isOk {v : Value} (json : v.isJson .received) :
    ∃ text, encodeBody v = .ok text := by
  obtain ⟨text, written⟩ : ∃ text : List Char,
      Plain.write { layout := .compact, nonFinite := false } 0 v = .ok (text.map .char) :=
    Plain.write_isOk (Plain.Style.takes_received _) 0 json
  exact ⟨String.ofList text, by rw [encodeBody, written]; simp only [toBytes, Text.wellFormed?_chars]⟩

/-- A text that one of the two writers has for a value, in one of its layouts. -/
inductive Writes (v : Value) (text : List Char) : Prop where
  | dense (lines : Bool) (written : Dense.write lines 0 v = some text)
  | plain (indent : Option Int) (written : encodePlain indent v = .ok (text.map .char))

theorem writes_of_encode {indent : Option Int} {v : Value} {text : List Char}
    (written : encode indent v = .ok (text.map .char)) : Writes v text := by
  unfold encode at written
  split at written
  · split at written
    · rename_i dense
      rw [Text.chars_injective (Except.ok.inj written)] at dense
      exact .dense _ dense
    · exact .plain _ written
  · exact .plain _ written

namespace Writes

variable {text : List Char}

theorem denotes {v : Value} (writes : Writes v text) (json : v.isJson .received) :
    Denotes text v := by
  cases writes with
  | dense lines written =>
      have denotes :=
        Dense.denotes_of_write lines (Value.isJson_mono (Numbers.within_any _) json) written
      rwa [Value.nulled_of_received json] at denotes
  | plain indent written =>
      obtain ⟨own, same, denotes⟩ := Plain.denotes_of_write rfl json written
      rwa [Text.chars_injective same]

theorem braces {members : Members} (writes : Writes (.object members) text) :
    ∃ inner, text = '\x7b' :: (inner ++ ['\x7d']) := by
  cases writes with
  | dense lines written =>
      rw [Dense.write] at written
      split at written
      · cases written
      · obtain ⟨parts, -, rfl⟩ := Option.map_eq_some_iff.mp written
        exact (Dense.enclosed_enclose lines 0 _ _ parts).brackets
  | plain indent written =>
      rw [encodePlain, Plain.write] at written
      obtain ⟨parts, -, made⟩ := exists_of_map written
      obtain ⟨inner, same⟩ := Plain.enclose_brackets (.ofIndent indent) 0 '\x7b' '\x7d' parts
      have whole : text.map .char = [.char '\x7b'] ++ (inner ++ [.char '\x7d']) := made.symm.trans same
      obtain ⟨own, rfl⟩ := Text.exists_chars_of_append whole
      refine ⟨own, Text.chars_injective (whole.trans ?_)⟩
      simp only [List.map_cons, List.map_append, List.map_nil, List.singleton_append]

end Writes

end InterfacePlan.Json
