import InterfacePlan.Json.Reply
import InterfacePlan.Proofs.Json.Admitted
import InterfacePlan.Proofs.Json.Objects
import InterfacePlan.Proofs.Json.Tokens
import InterfacePlan.Proofs.Results
import Mathlib.Data.List.Induction
import Mathlib.Data.List.TakeWhile

set_option autoImplicit false

namespace InterfacePlan

namespace Double

theorem isSome_units? {x : Double} (number : x ≠ .nan)
    (bounded : ∀ negative, x = .infinity negative → False) : x.units?.isSome := by
  cases x with
  | nan => exact absurd rfl number
  | infinity negative => exact (bounded negative rfl).elim
  | finite negative m q onGrid => rfl

theorem ofParts_ne_nan (negative : Bool) (m : Nat) (q : Int) : ofParts negative m q ≠ .nan := by
  unfold ofParts
  split
  · exact Double.noConfusion
  · split <;> exact Double.noConfusion

theorem ofDecimal_ne_nan (negative : Bool) (digits : Nat) (exponent : Int) :
    ofDecimal negative digits exponent ≠ .nan := by
  unfold ofDecimal
  split
  · exact Double.noConfusion
  · split
    · exact Double.noConfusion
    · split
      · exact Double.noConfusion
      · split <;> exact ofParts_ne_nan _ _ _

end Double

namespace Decimal

theorem length_intText_le {n : Nat} (negative : Bool) {k : Nat} (short : (natText n).length ≤ k) :
    (intText (if negative then -(n : Int) else n)).length ≤ if negative then k + 1 else k := by
  rcases intText_cases (if negative then -(n : Int) else n) with ⟨below, same⟩ | ⟨above, same⟩
  · cases negative with
    | false => simp at below; omega
    | true =>
        have value : (-(n : Int)).natAbs = n := by omega
        simp only [↓reduceIte] at same ⊢
        rw [same, List.length_cons, value]
        omega
  · have value : (if negative then -(n : Int) else n).natAbs = n := by
      split <;> omega
    rw [same, value]
    split <;> omega

end Decimal

namespace Json.Strict

theorem digitsValue_lt {ds : List Char} (digits : ∀ c ∈ ds, isDigit c) :
    digitsValue ds < Nat.pow 10 ds.length := by
  induction ds using List.reverseRec with
  | nil => decide
  | append_singleton ds c ih =>
      have before := ih fun d inside => digits d (List.mem_append_left _ inside)
      have digit : isDigit c := digits c (List.mem_append_right ds List.mem_cons_self)
      have small : c.toNat ≤ 57 := by
        simp only [isDigit, Bool.and_eq_true, decide_eq_true_eq] at digit
        exact digit.2
      have larger : Nat.pow 10 (ds.length + 1) = Nat.pow 10 ds.length * 10 := rfl
      rw [digitsValue_append_singleton, List.length_append, List.length_singleton, larger]
      omega

theorem readInteger_isJson {path : List PathStep} {negative : Bool} {whole : List Char} {v : Value}
    (digits : ∀ c ∈ whole, isDigit c) (some : whole ≠ [])
    (read : readInteger path negative whole = .ok v) : v.isJson .received := by
  simp only [readInteger] at read
  by_cases long : Decimal.maxIntegerLength <
      (if negative then whole.length + 1 else whole.length)
  · rw [if_pos long] at read
    cases read
  · rw [if_neg long] at read
    cases read
    have length := Decimal.length_natText_le (List.length_pos_iff.mpr some) (digitsValue_lt digits)
    have text := Decimal.length_intText_le negative length
    apply decide_eq_true
    omega

theorem readTail_isJson {path : List PathStep} {negative : Bool} {whole cs rest : List Char}
    {v : Value} (digits : ∀ c ∈ whole, isDigit c) (some : whole ≠ [])
    (read : readTail path negative whole cs = .ok (v, rest)) : v.isJson .received := by
  rw [readTail] at read
  split at read
  · cases read
  · split at read
    · cases read
    · split at read
      · split at read
        · cases read
        · rename_i integer
          cases read
          exact readInteger_isJson digits some integer
      · simp only at read
        split at read
        · cases read
        · rename_i bounded
          cases read
          apply Double.isSome_units?
          · exact Double.ofDecimal_ne_nan _ _ _
          · exact bounded

theorem readNumber_isJson {path : List PathStep} {negative : Bool} {cs rest : List Char}
    {v : Value} (read : readNumber path negative cs = .ok (v, rest)) : v.isJson .received := by
  have zero : ∀ c ∈ ['0'], isDigit c := by
    intro c inside
    rw [List.mem_singleton.mp inside]
    rfl
  unfold readNumber at read
  split at read
  · split at read
    · split at read
      · cases read
      · exact readTail_isJson zero (List.cons_ne_nil _ _) read
    · exact readTail_isJson zero (List.cons_ne_nil _ _) read
  · simp only at read
    split at read
    · cases read
    · rename_i some
      exact readTail_isJson (fun c inside => (List.mem_takeWhile_imp inside)) some read

theorem readLiteral_isJson {word start cs rest : List Char} {v w : Value}
    (json : v.isJson .received) (read : readLiteral word v start cs = .ok (w, rest)) :
    w.isJson .received := by
  rw [readLiteral] at read
  split at read
  · cases read
  · split at read
    · cases read
      exact json
    · cases read

end Json.Strict

namespace Members

variable {numbers : Json.Numbers}

theorem ofList_isJson {entries : Members} (json : Value.membersAreJson numbers entries) :
    (Value.object (ofList entries)).isJson numbers := by
  rw [Value.membersAreJson_iff] at json
  have names : Named entries := by
    intro m inside
    obtain ⟨s, name⟩ := (json m inside).1
    rw [name]
    rfl
  rw [Value.isJson_object, Value.membersAreJson_iff]
  exact ⟨nodup_ofList names, fun m inside => json m (mem_of_mem_ofList names inside)⟩

end Members

namespace Value

theorem isJson_of_reversed {numbers : Json.Numbers} {done : List Value} {v : Value}
    (json : itemsAreJson numbers done) (last : v.isJson numbers) :
    (list (v :: done).reverse).isJson numbers := by
  rw [isJson_list]
  intro w inside
  rcases List.mem_cons.mp (List.mem_reverse.mp inside) with rfl | inside
  · exact last
  · exact itemsAreJson_iff.mp json w inside

theorem membersAreJson_reverse {numbers : Json.Numbers} {done : Members}
    (json : membersAreJson numbers done) : membersAreJson numbers done.reverse := by
  rw [membersAreJson_iff] at json ⊢
  intro m inside
  exact json m (List.mem_reverse.mp inside)

end Value

namespace Json

namespace Strict

mutual

/-- With any fuel, what the reader gives is a JSON value of the numbers it takes. -/
theorem readValue_isJson : ∀ (fuel : Nat) {path : List PathStep} {cs rest : List Char} {v : Value},
    readValue fuel path cs = .ok (v, rest) → v.isJson .received
  | 0, _, _, _, _, read => nomatch read
  | fuel + 1, path, cs, rest, v, read => by
      rw [readValue] at read
      split at read
      · cases read
      · split at read
        · cases read
        · cases read
          rfl
      · split at read
        · cases read
          rfl
        · exact readMembers_isJson fuel rfl read
      · split at read
        · cases read
          rfl
        · exact readItems_isJson fuel rfl read
      · exact readNumber_isJson read
      · exact readLiteral_isJson rfl read
      · exact readLiteral_isJson rfl read
      · exact readLiteral_isJson rfl read
      · exact readNumber_isJson read

theorem readItems_isJson : ∀ (fuel : Nat) {path : List PathStep} {count : Nat} {done : List Value}
    {cs rest : List Char} {v : Value}, Value.itemsAreJson .received done →
    readItems fuel path count done cs = .ok (v, rest) → v.isJson .received
  | 0, _, _, _, _, _, _, _, read => nomatch read
  | fuel + 1, path, count, done, cs, rest, v, json, read => by
      rw [readItems] at read
      split at read
      · cases read
      · rename_i item tail item_read
        have itemJson := readValue_isJson fuel item_read
        split at read
        · cases read
        · cases read
          exact Value.isJson_of_reversed json itemJson
        · split at read
          · cases read
          · refine readItems_isJson fuel ?_ read
            rw [Value.itemsAreJson, itemJson, json]
            rfl
        · cases read

theorem readMembers_isJson : ∀ (fuel : Nat) {path : List PathStep} {done : Members}
    {cs rest : List Char} {v : Value}, Value.membersAreJson .received done →
    readMembers fuel path done cs = .ok (v, rest) → v.isJson .received
  | 0, _, _, _, _, _, _, read => nomatch read
  | fuel + 1, path, done, cs, rest, v, json, read => by
      rw [readMembers.eq_def] at read
      simp only at read
      split at read
      · cases read
      · split at read
        · cases read
        · split at read
          · cases read
          · split at read
            · cases read
            · rename_i item _ item_read
              have itemJson := readValue_isJson fuel item_read
              have more : ∀ name : String,
                  Value.membersAreJson .received ((.text name, item) :: done) := by
                intro name
                rw [Value.membersAreJson, itemJson, json]
                rfl
              split at read
              · cases read
              · cases read
                exact Members.ofList_isJson (Value.membersAreJson_reverse (more _))
              · split at read
                · cases read
                · exact readMembers_isJson fuel (more _) read
              · cases read
          · cases read
      · cases read

end

end Strict

/-- Every value that is decoded is a JSON value of the numbers that are received. -/
theorem decode_isJson {text : List Char} {v : Value} (decoded : decode text = .ok v) :
    v.isJson .received := by
  rw [decode, Strict.readAll] at decoded
  split at decoded
  · cases decoded
  · rename_i read
    split at decoded
    · cases decoded
      exact Strict.readValue_isJson _ read
    · cases decoded

/-- Repaired or not, a span is given as what some text was decoded as. -/
theorem decodeSpan_isJson {repair : Bool} {span : List Char} {v : Value}
    (read : decodeSpan repair span = .ok v) : v.isJson .received := by
  rw [decodeSpan] at read
  split at read
  · rename_i decoded
    cases read
    exact decode_isJson decoded
  · split at read
    · split at read
      · cases read
      · exact decode_isJson (ok_of_mapError read)
    · cases read

theorem extract_isJson {repair : Bool} {reply : List Text.Code} {members : Members}
    (extracted : extract repair reply = .ok members) :
    (Value.object members).isJson .received := by
  rw [extract] at extracted
  split at extracted
  · cases extracted
  · split at extracted
    · cases extracted
    · split at extracted
      · cases extracted
      · rename_i read
        cases extracted
        exact decodeSpan_isJson read
      · cases extracted

end Json

end InterfacePlan
