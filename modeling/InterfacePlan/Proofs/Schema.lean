import InterfacePlan.Proofs.Json.Admitted
import InterfacePlan.Proofs.Text.Codes
import InterfacePlan.Schema.Lax
import Mathlib.Data.List.Nodup

set_option autoImplicit false

namespace InterfacePlan

theorem find_name_iff {α : Type} {all : List α} {name : α → String}
    (complete : ∀ a, a ∈ all) (distinct : (all.map name).Nodup) {s : String} {a : α} :
    all.find? (fun b => name b = s) = some a ↔ s = name a := by
  constructor
  · intro found
    exact Eq.symm (by simpa using List.find?_some found)
  · intro same
    cases found : all.find? (fun b => name b = s) with
    | none =>
        have unequal := List.find?_eq_none.mp found a (complete a)
        simp [same] at unequal
    | some b =>
        have named : name b = name a := by
          rw [← same]
          simpa using List.find?_some found
        rw [List.inj_on_of_nodup_map distinct (complete b) (complete a) named]

namespace Value

@[simp] theorem text?_ofCodes (codes : List Text.Code) : (ofCodes codes).text? = some codes := by
  rw [ofCodes]
  split
  · rename_i s whole
    rw [Text.wellFormed?_eq_some_iff.mp whole]
    rfl
  · rfl

theorem ofCodes_ne_of_text? {codes : List Text.Code} {v : Value} (other : v.text? = none) :
    ofCodes codes ≠ v := by
  rintro rfl
  rw [text?_ofCodes] at other
  cases other

theorem ofCodes_ne_null (codes : List Text.Code) : ofCodes codes ≠ .null :=
  ofCodes_ne_of_text? rfl

theorem ofCodes_codes (s : String) : ofCodes (Text.codes s) = .text s := by
  rw [ofCodes, Text.codes, Text.wellFormed?_chars, String.ofList_toList]

theorem ofCodes_isJson {numbers : Json.Numbers} {codes : List Text.Code}
    (whole : Text.WellFormed codes) : (ofCodes codes).isJson numbers := by
  obtain ⟨s, rfl⟩ := whole
  rw [ofCodes_codes]
  rfl

theorem ofCodes_eq_illFormed {codes : List Text.Code} (broken : ¬ Text.WellFormed codes) :
    ofCodes codes = .illFormed codes := by
  rw [ofCodes]
  cases made : Text.wellFormed? codes with
  | none => rfl
  | some s => exact absurd ⟨s, Text.wellFormed?_eq_some_iff.mp made⟩ broken

theorem eq_text_of_isJson {numbers : Json.Numbers} {v : Value} (json : v.isJson numbers)
    {codes : List Text.Code} (text : v.text? = some codes) :
    ∃ s, v = .text s ∧ codes = Text.codes s := by
  cases v with
  | text s =>
      cases text
      exact ⟨s, rfl, rfl⟩
  | illFormed _ => cases json
  | _ => cases text

end Value

theorem Members.text?_get_iff {members : Members} {name : String} {codes : List Text.Code} :
    ((Value.object members).get name).text? = some codes ↔
      ∃ v, members.get? name = some v ∧ v.text? = some codes := by
  rw [Value.get, get?]
  cases members.find? fun m => m.1 = .text name <;> simp [Value.text?]

namespace Schema

variable {α β : Type}

namespace Checked

def issues : Checked α → List Issue
  | .ok _ => []
  | .error issues => issues

theorem ap_eq_ok_iff {f : Checked (α → β)} {a : Checked α} {b : β} :
    f.ap a = .ok b ↔ ∃ g x, f = .ok g ∧ a = .ok x ∧ g x = b := by
  cases f <;> cases a <;> simp [ap]

theorem issues_ap (f : Checked (α → β)) (a : Checked α) :
    (f.ap a).issues = f.issues ++ a.issues := by
  cases f <;> cases a <;> simp [ap, issues]

theorem eq_error_of_any {a : Checked α} {p : Issue → Bool} (found : a.issues.any p) :
    ∃ issues, a = .error issues ∧ issues.any p := by
  cases a with
  | ok x => cases found
  | error issues => exact ⟨issues, rfl, found⟩

theorem under_eq_ok_iff {step : Step} {a : Checked α} {x : α} : a.under step = .ok x ↔ a = .ok x := by
  cases a <;> simp [under, Except.mapError]

end Checked

theorem guard_eq_ok_iff {problem : Problem} {holds : α → Bool} {a : Checked α} {x : α} :
    guard problem holds a = .ok x ↔ a = .ok x ∧ holds x := by
  cases a with
  | error e => simp [guard]
  | ok y =>
      rw [guard]
      split
      · rename_i met
        constructor
        · rintro ⟨⟩
          exact ⟨rfl, met⟩
        · exact And.left
      · rename_i unmet
        constructor
        · intro failed
          cases failed
        · rintro ⟨⟨⟩, met⟩
          exact absurd met unmet

theorem required_eq_ok_iff {members : Members} {name : String} {read : Value → Checked α} {a : α} :
    required members [name] read = .ok a ↔
      ∃ v, members.get? name = some v ∧ read v = .ok a := by
  rw [required, field, lookup?]
  cases members.get? name with
  | none => simp [lookup?, Checked.under_eq_ok_iff, Checked.fail]
  | some v => simp [Checked.under_eq_ok_iff]

theorem optional_eq_ok_iff {default : α} {members : Members} {name : String}
    {read : Value → Checked α} {a : α} :
    optional default members [name] read = .ok a ↔
      (members.get? name = none ∧ a = default) ∨
        ∃ v, members.get? name = some v ∧ read v = .ok a := by
  rw [optional, field, lookup?]
  cases members.get? name with
  | none =>
      simp only [lookup?, Checked.under_eq_ok_iff, Except.ok.injEq, true_and, reduceCtorEq, false_and,
        exists_false, or_false]
      exact eq_comm
  | some v => simp [Checked.under_eq_ok_iff]

theorem nullable_of_ne_null {read : Value → Checked α} {v : Value} (given : v ≠ .null) :
    nullable read v = (read v).map some := by
  cases v with
  | null => exact absurd rfl given
  | _ => rfl

theorem string_eq_ok_iff {v : Value} {codes : List Text.Code} :
    string v = .ok codes ↔ v.text? = some codes := by
  rw [string]
  cases v.text? <;> simp [Checked.fail]

theorem constrained_eq_ok_iff {read : String → Checked α} {v : Value} {a : α} :
    constrained read v = .ok a ↔ ∃ s, v.text? = some (Text.codes s) ∧ read s = .ok a := by
  rw [constrained, string]
  cases v.text? with
  | none => simp [Checked.fail]
  | some codes =>
      simp only [Option.some.injEq, ← Text.wellFormed?_eq_some_iff]
      cases Text.wellFormed? codes <;> simp [Checked.fail]

theorem nonEmptyString_eq_ok_iff {v : Value} {s : String} :
    nonEmptyString v = .ok s ↔ v.text? = some (Text.codes s) ∧ s ≠ "" := by
  rw [nonEmptyString, constrained_eq_ok_iff]
  constructor
  · rintro ⟨t, text, read⟩
    split at read
    · cases read
    · rename_i filled
      cases read
      exact ⟨text, filled⟩
  · rintro ⟨text, filled⟩
    exact ⟨s, text, if_neg filled⟩

theorem record_eq_ok {members taken : Members} (read : record (.object members) = .ok taken) :
    taken = members := by
  rw [record] at read
  split at read
  · cases read
    rfl
  · cases read

theorem record_of_isJson {numbers : Json.Numbers} {members : Members}
    (json : (Value.object members).isJson numbers) : record (.object members) = .ok members := by
  have issues : keyIssues members = [] := by
    rw [keyIssues, List.filterMap_eq_nil_iff]
    intro m inside
    have keys := (Value.isJson_object.mp json).2
    obtain ⟨s, key⟩ := (Value.membersAreJson_iff.mp keys m inside).1
    obtain ⟨k, v⟩ := m
    cases key
    rfl
  rw [record, issues]

end Schema

end InterfacePlan
