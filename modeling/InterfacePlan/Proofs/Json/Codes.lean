import InterfacePlan.Json.Encode
import InterfacePlan.Proofs.Json.Body
import InterfacePlan.Proofs.Schema
import InterfacePlan.Proofs.Text.Codes
import InterfacePlan.Proofs.Text.Pieces

set_option autoImplicit false

namespace InterfacePlan

open Text (Code)

namespace Json

namespace Dense

mutual

theorem isWellFormed_of_write {lines : Bool} : ∀ {v : Value} {level : Nat} {text : List Char},
    write lines level v = some text → v.isWellFormed
  | .null, _, _, _ | .bool _, _, _, _ | .int _, _, _, _ | .float _, _, _, _ | .text _, _, _, _ => rfl
  | .list items, _, _, written => by
      rw [write] at written
      split at written
      · cases written
      · obtain ⟨parts, each, -⟩ := Option.map_eq_some_iff.mp written
        exact wellFormed_of_writeItems each
  | .tuple items, _, _, written => by
      obtain ⟨parts, each, -⟩ := Option.map_eq_some_iff.mp written
      exact wellFormed_of_writeItems each
  | .object members, _, _, written => by
      rw [write] at written
      split at written
      · cases written
      · obtain ⟨parts, each, -⟩ := Option.map_eq_some_iff.mp written
        exact wellFormed_of_writeMembers each
  | .illFormed _, _, _, written | .foreign, _, _, written => nomatch written

theorem wellFormed_of_writeItems {lines : Bool} :
    ∀ {items : List Value} {level : Nat} {parts : List (List Char)},
      writeItems lines level items = some parts → Value.itemsAreWellFormed items
  | [], _, _, _ => rfl
  | v :: rest, _, _, written => by
      rw [writeItems] at written
      split at written
      · rename_i first others
        rw [Value.itemsAreWellFormed, isWellFormed_of_write first, wellFormed_of_writeItems others]
        rfl
      · cases written

theorem wellFormed_of_writeMembers {lines : Bool} :
    ∀ {members : Members} {level : Nat} {parts : List (List Char)},
      writeMembers lines level members = some parts → Value.membersAreWellFormed members
  | [], _, _, _ => rfl
  | (key, v) :: rest, _, _, written => by
      cases key with
      | text s =>
          rw [writeMembers] at written
          split at written
          · rename_i first others
            rw [Value.membersAreWellFormed, isWellFormed_of_write first,
              wellFormed_of_writeMembers others]
            · rfl
            · intro codes same
              cases same
          · cases written
      | _ => cases written

end

end Dense

namespace Plain

variable {style : Style} {layout : Layout}

theorem write_ofCodes (style : Style) (level : Nat) (codes : List Code) :
    write style level (.ofCodes codes) = .ok (quote style codes) := by
  rw [Value.ofCodes]
  cases made : Text.wellFormed? codes with
  | none => rfl
  | some s => rw [Text.wellFormed?_eq_some_iff.mp made, write]

theorem exists_write_texts (style : Style) (level : Nat) (members : List (String × List Code)) :
    ∃ codes, write style level (.object (members.map fun m => (.text m.1, .ofCodes m.2))) =
      .ok codes := by
  have parts : ∃ parts, writeMembers style (level + 1)
      (members.map fun m => (.text m.1, .ofCodes m.2)) = .ok parts := by
    induction members with
    | nil => exact ⟨[], rfl⟩
    | cons m rest ih =>
        obtain ⟨parts, written⟩ := ih
        simp only [List.map_cons, writeMembers, writeKey, write_ofCodes, written, Except.map]
        exact ⟨_, rfl⟩
  obtain ⟨parts, written⟩ := parts
  exact ⟨_, by rw [write, written]; rfl⟩

theorem subset_enclose (level : Nat) (left right : Char) {part : List Code}
    {parts : List (List Code)} (member : part ∈ parts) :
    part ⊆ enclose layout level left right parts := by
  have joined := Text.subset_join ((separator layout (level + 1)).map .char) member
  cases parts with
  | nil => cases member
  | cons first rest =>
      exact List.subset_append_of_subset_left _ (List.subset_append_of_subset_right _ joined)

theorem exists_part_of_item {items : List Value} {level : Nat} {parts : List (List Code)}
    (written : writeItems style level items = .ok parts) {v : Value} (member : v ∈ items) :
    ∃ part ∈ parts, write style level v = .ok part := by
  induction items generalizing parts with
  | nil => cases member
  | cons first rest ih =>
      rw [writeItems] at written
      split at written
      · cases written
      · rename_i part begun
        obtain ⟨others, followed, rfl⟩ := exists_of_map written
        rcases List.mem_cons.mp member with rfl | member
        · exact ⟨part, List.mem_cons_self, begun⟩
        · obtain ⟨other, among, found⟩ := ih followed member
          exact ⟨other, List.mem_cons_of_mem _ among, found⟩

theorem exists_part_of_member {members : Members} {level : Nat} {parts : List (List Code)}
    (written : writeMembers style level members = .ok parts) {m : Key × Value}
    (member : m ∈ members) :
    ∃ key value, writeKey style m.1 = .ok key ∧ write style level m.2 = .ok value ∧
      key ++ (colon style.layout).map .char ++ value ∈ parts := by
  induction members generalizing parts with
  | nil => cases member
  | cons first rest ih =>
      obtain ⟨k, v⟩ := first
      rw [writeMembers] at written
      split at written
      · cases written
      · rename_i key named
        split at written
        · cases written
        · rename_i value begun
          obtain ⟨others, followed, rfl⟩ := exists_of_map written
          rcases List.mem_cons.mp member with rfl | member
          · exact ⟨key, value, named, begun, List.mem_cons_self⟩
          · obtain ⟨key, value, named, begun, among⟩ := ih followed member
            exact ⟨key, value, named, begun, List.mem_cons_of_mem _ among⟩

/-- What occurs in a value is written inside its text. -/
theorem exists_part_of_inside {v w : Value} (inside : w.Inside v) {level : Nat} {text : List Code}
    (written : write style level v = .ok text) :
    ∃ deeper part, write style deeper w = .ok part ∧ part ⊆ text := by
  induction inside generalizing level text with
  | here => exact ⟨level, text, written, List.Subset.refl text⟩
  | item member _ ih | part member _ ih =>
      obtain ⟨parts, each, rfl⟩ := exists_of_map written
      obtain ⟨whole, among, begun⟩ := exists_part_of_item each member
      obtain ⟨deeper, part, found, within⟩ := ih begun
      exact ⟨deeper, part, found, List.Subset.trans within (subset_enclose level _ _ among)⟩
  | field member _ ih =>
      obtain ⟨parts, each, rfl⟩ := exists_of_map written
      obtain ⟨key, value, -, begun, among⟩ := exists_part_of_member each member
      obtain ⟨deeper, part, found, within⟩ := ih begun
      have beside : part ⊆ key ++ (colon style.layout).map .char ++ value :=
        List.subset_append_of_subset_right _ within
      exact ⟨deeper, part, found, List.Subset.trans beside (subset_enclose level _ _ among)⟩

end Plain

end Json

namespace Value

theorem Inside.isWellFormed {v w : Value} (inside : w.Inside v) (wellFormed : v.isWellFormed) :
    w.isWellFormed := by
  induction inside with
  | here => exact wellFormed
  | item member _ ih | part member _ ih => exact ih (itemsAreWellFormed_iff.mp wellFormed _ member)
  | field member _ ih => exact ih (membersAreWellFormed_iff.mp wellFormed _ member).2

/-- A surrogate stands alone in a text that occurs in a value, or in a key there. -/
inductive HoldsSurrogate (v : Value) (unit : Nat) : Prop
  | text {codes : List Code} (inside : (illFormed codes).Inside v) (alone : .surrogate unit ∈ codes)
  | key {codes : List Code} {w : Value} {members : Members} (inside : (object members).Inside v)
      (member : (.illFormed codes, w) ∈ members) (alone : .surrogate unit ∈ codes)

namespace HoldsSurrogate

variable {v : Value} {unit : Nat} {text : List Code}

theorem isWellFormed_eq_false (holds : v.HoldsSurrogate unit) : v.isWellFormed = false := by
  rw [← Bool.not_eq_true]
  intro wellFormed
  cases holds with
  | text inside alone => cases inside.isWellFormed wellFormed
  | key inside member alone =>
      have each := membersAreWellFormed_iff.mp (inside.isWellFormed wellFormed)
      exact (each _ member).1 _ rfl

/-- Unless everything that is not ASCII is escaped, the surrogate stands in the text. -/
theorem mem_write {style : Json.Plain.Style} (unicode : style.ascii = false)
    (holds : v.HoldsSurrogate unit) {level : Nat}
    (written : Json.Plain.write style level v = .ok text) : .surrogate unit ∈ text := by
  have quoted : ∀ {codes : List Code}, .surrogate unit ∈ codes →
      .surrogate unit ∈ Json.Plain.quote style codes := by
    intro codes alone
    rw [Json.Plain.quote, unicode]
    exact Text.surrogate_mem_quoteCodes alone
  cases holds with
  | text inside alone =>
      obtain ⟨deeper, part, found, within⟩ := Json.Plain.exists_part_of_inside inside written
      cases found
      exact within (quoted alone)
  | key inside member alone =>
      obtain ⟨deeper, part, found, within⟩ := Json.Plain.exists_part_of_inside inside written
      obtain ⟨parts, each, rfl⟩ := exists_of_map found
      obtain ⟨key, value, named, -, among⟩ := Json.Plain.exists_part_of_member each member
      cases named
      have first := List.mem_append_left value
        (List.mem_append_left ((Json.Plain.colon style.layout).map .char) (quoted alone))
      exact within (Json.Plain.subset_enclose deeper _ _ among first)

/-- Whatever the indent, the text of a value that holds such a surrogate has no form in bytes. -/
theorem wellFormed?_encode (holds : v.HoldsSurrogate unit) (indent : Option Int)
    (written : Json.encode indent v = .ok text) : Text.wellFormed? text = none := by
  have plain : Json.encodePlain indent v = .ok text := by
    unfold Json.encode at written
    split at written
    · split at written
      -- The dense writer refuses ill-formed text, so it is the plain one that wrote.
      · rename_i taken
        have wellFormed := Json.Dense.isWellFormed_of_write taken
        rw [holds.isWellFormed_eq_false] at wellFormed
        cases wellFormed
      · exact written
    · exact written
  exact Text.wellFormed?_eq_none_iff.mpr ⟨unit, holds.mem_write rfl plain⟩

end HoldsSurrogate

theorem exists_holdsSurrogate {v : Value} {codes : List Code} (inside : (ofCodes codes).Inside v)
    (broken : ¬ Text.WellFormed codes) : ∃ unit, v.HoldsSurrogate unit := by
  obtain ⟨unit, alone⟩ := not_forall_not.mp fun none => broken (Text.wellFormed_iff.mpr none)
  rw [ofCodes_eq_illFormed broken] at inside
  exact ⟨unit, .text inside alone⟩

end Value

/-- A surrogate that stands alone keeps a value from being a body. -/
theorem Json.encodeBody_of_surrogate {v : Value} {unit : Nat} {codes : List Code}
    (holds : v.HoldsSurrogate unit)
    (written : Plain.write { layout := .compact, nonFinite := false } 0 v = .ok codes) :
    encodeBody v = .error .illFormed := by
  have none := Text.wellFormed?_eq_none_iff.mpr ⟨unit, holds.mem_write rfl written⟩
  rw [encodeBody, written]
  simp only [toBytes, none]

end InterfacePlan
