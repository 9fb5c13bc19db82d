import InterfacePlan.Json.Body
import InterfacePlan.Proofs.Json.Admitted
import InterfacePlan.Proofs.Json.Objects
import InterfacePlan.Proofs.Results

set_option autoImplicit false

namespace InterfacePlan

namespace Value

mutual

/-- Whether no text of a value, keys included, is ill-formed. -/
def isWellFormed : Value → Bool
  | .illFormed _ => false
  | .list items | .tuple items => itemsAreWellFormed items
  | .object members => membersAreWellFormed members
  | _ => true

def itemsAreWellFormed : List Value → Bool
  | [] => true
  | v :: rest => v.isWellFormed && itemsAreWellFormed rest

def membersAreWellFormed : Members → Bool
  | [] => true
  | (.illFormed _, _) :: _ => false
  | (_, v) :: rest => v.isWellFormed && membersAreWellFormed rest

end

theorem itemsAreWellFormed_iff {items : List Value} :
    itemsAreWellFormed items ↔ ∀ v ∈ items, v.isWellFormed := by
  induction items with
  | nil => simp [itemsAreWellFormed]
  | cons v rest ih => simp only [itemsAreWellFormed, Bool.and_eq_true, ih, List.forall_mem_cons]

theorem membersAreWellFormed_iff {members : Members} :
    membersAreWellFormed members ↔
      ∀ m ∈ members, (∀ codes, m.1 ≠ .illFormed codes) ∧ m.2.isWellFormed := by
  induction members with
  | nil => simp [membersAreWellFormed]
  | cons m rest ih =>
      obtain ⟨key, v⟩ := m
      rw [List.forall_mem_cons, ← ih]
      cases key <;> simp [membersAreWellFormed]

/-- A value that is a JSON value unless some text in it is ill-formed. -/
def IsReadable (v : Value) : Prop :=
  v.isWellFormed → v.isJson .any

theorem isReadable_list {items : List Value} (each : ∀ v ∈ items, v.IsReadable) :
    (list items).IsReadable := by
  intro wellFormed
  rw [isWellFormed, itemsAreWellFormed_iff] at wellFormed
  exact isJson_list.mpr fun v inside => each v inside (wellFormed v inside)

theorem isReadable_object {entries : Members} (named : Members.Named entries)
    (each : ∀ m ∈ entries, m.2.IsReadable) : (object (Members.ofList entries)).IsReadable := by
  intro wellFormed
  rw [isWellFormed, membersAreWellFormed_iff] at wellFormed
  rw [isJson_object, membersAreJson_iff]
  refine ⟨Members.nodup_ofList named, ?_⟩
  intro m inside
  have given := Members.mem_of_mem_ofList named inside
  have name := named m given
  obtain ⟨noSurrogate, value⟩ := wellFormed m inside
  refine ⟨?_, each m given value⟩
  obtain ⟨key, v⟩ := m
  cases key with
  | text s => exact ⟨s, rfl⟩
  | illFormed codes => exact absurd rfl (noSurrogate codes)
  | _ => cases name

theorem isReadable_ofCodes (codes : List Text.Code) : (ofCodes codes).IsReadable := by
  rw [ofCodes]
  split
  · exact fun _ => rfl
  · intro wellFormed
    cases wellFormed

end Value

namespace Json

namespace Body

open Text (Code)

private theorem isReadable_number {noDigits whole tooLong : Prop} [Decidable noDigits]
    [Decidable whole] [Decidable tooLong] {malformed long : Stop} {n : Int} {x : Double}
    {rest afterInt afterFloat : List Code} {v : Value}
    (read : (if noDigits then .error malformed
      else if whole then (if tooLong then .error long else .ok (.int n, afterInt))
      else .ok (.float x, afterFloat) : Read Value) = .ok (v, rest)) : v.IsReadable := by
  split at read
  · cases read
  · split at read
    · split at read
      · cases read
      · cases read
        exact fun _ => rfl
    · cases read
      exact fun _ => rfl

theorem readNumber_isReadable {cs rest : List Code} {v : Value}
    (read : readNumber cs = .ok (v, rest)) : v.IsReadable := by
  rw [readNumber.eq_def] at read
  exact isReadable_number read

theorem words_isReadable {w : String × Value} (inside : w ∈ words) : w.2.IsReadable := by
  have json : ∀ w ∈ words, w.2.isJson .any := by decide
  exact fun _ => json w inside

mutual

/-- With any fuel, what the reader gives is a JSON value or holds ill-formed text. -/
theorem readValue_isReadable : ∀ (fuel : Nat) {room : Nat} {cs rest : List Code} {v : Value},
    readValue fuel room cs = .ok (v, rest) → v.IsReadable
  | 0, _, _, _, _, read => nomatch read
  | fuel + 1, room, cs, rest, v, read => by
      rw [readValue.eq_def] at read
      simp only at read
      split at read
      · split at read
        · cases read
        · cases read
          exact Value.isReadable_ofCodes _
      · split at read
        · cases read
        · split at read
          · cases read
            exact fun _ => rfl
          · exact readMembers_isReadable fuel (List.forall_mem_nil _) (List.forall_mem_nil _) read
      · split at read
        · cases read
        · split at read
          · cases read
            exact fun _ => rfl
          · exact readItems_isReadable fuel (List.forall_mem_nil _) read
      · split at read
        · rename_i found
          cases read
          exact words_isReadable (List.mem_of_find?_eq_some found)
        · exact readNumber_isReadable read

theorem readItems_isReadable : ∀ (fuel : Nat) {room : Nat} {done : List Value}
    {cs rest : List Code} {v : Value}, (∀ w ∈ done, w.IsReadable) →
    readItems fuel room done cs = .ok (v, rest) → v.IsReadable
  | 0, _, _, _, _, _, _, read => nomatch read
  | fuel + 1, room, done, cs, rest, v, each, read => by
      rw [readItems] at read
      split at read
      · cases read
      · rename_i item tail item_read
        have more : ∀ w ∈ item :: done, w.IsReadable :=
          List.forall_mem_cons.mpr ⟨readValue_isReadable fuel item_read, each⟩
        split at read
        · cases read
          exact Value.isReadable_list fun w inside => more w (List.mem_reverse.mp inside)
        · exact readItems_isReadable fuel more read
        · cases read

theorem readMembers_isReadable : ∀ (fuel : Nat) {room : Nat} {done : Members}
    {cs rest : List Code} {v : Value}, Members.Named done → (∀ m ∈ done, m.2.IsReadable) →
    readMembers fuel room done cs = .ok (v, rest) → v.IsReadable
  | 0, _, _, _, _, _, _, _, read => nomatch read
  | fuel + 1, room, done, cs, rest, v, named, each, read => by
      rw [readMembers.eq_def] at read
      simp only at read
      split at read
      · split at read
        · cases read
        · rename_i key _ _
          split at read
          · split at read
            · cases read
            · rename_i item _ item_read
              have more : ∀ m ∈ (Key.ofCodes key, item) :: done, m.2.IsReadable :=
                List.forall_mem_cons.mpr ⟨readValue_isReadable fuel item_read, each⟩
              have names : Members.Named ((Key.ofCodes key, item) :: done) :=
                List.forall_mem_cons.mpr ⟨Key.isName_ofCodes key, named⟩
              split at read
              · cases read
                exact Value.isReadable_object (fun m inside => names m (List.mem_reverse.mp inside))
                  fun m inside => more m (List.mem_reverse.mp inside)
              · exact readMembers_isReadable fuel names more read
              · cases read
          · cases read
      · cases read

end

end Body

/-- The value of a body is a JSON value, if no text in it is ill-formed. -/
theorem decodeBody_isJson {room : Nat} {bytes : List UInt8} {v : Value}
    (decoded : decodeBody room bytes = .ok v) (wellFormed : v.isWellFormed) : v.isJson .any := by
  rw [decodeBody] at decoded
  split at decoded
  · have all := ok_of_mapError decoded
    rw [Body.readAll] at all
    split at all
    · cases all
    · rename_i read
      split at all
      · cases all
        exact Body.readValue_isReadable _ read wellFormed
      · cases all
  · cases decoded

end Json

end InterfacePlan
