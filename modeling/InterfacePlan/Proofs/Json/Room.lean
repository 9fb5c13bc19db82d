import InterfacePlan.Json.Body
import InterfacePlan.Proofs.Results
import Mathlib.Data.List.Infix

set_option autoImplicit false

namespace InterfacePlan.Json

open Text (Code)

namespace Body

/-- How many lists and objects a text can open. -/
def opens (cs : List Code) : Nat :=
  cs.countP fun c => c = .char '[' || c = .char '\x7b'

theorem opens_le_of_suffix {rest cs : List Code} (left : rest <:+ cs) : opens rest ≤ opens cs :=
  left.sublist.countP_le

/-- A reader that leaves the end of its text, and that is short of room only where more is opened than
there is room for. -/
inductive Bounded {α : Type} (room : Nat) (cs : List Code) : Read α → Prop
  | read {a : α} {rest : List Code} (left : rest <:+ cs) : Bounded room cs (.ok (a, rest))
  | malformed (fault : BodyFault) (rest : List Code) :
      Bounded room cs (.error (.malformed fault rest))
  | tooManyDigits (count : Nat) : Bounded room cs (.error (.tooManyDigits count))
  | exhausted (deep : room < opens cs) : Bounded room cs (.error .exhausted)

variable {α : Type} {room : Nat} {cs tail : List Code} {result : Read α}

theorem Bounded.of_suffix (bounded : Bounded room tail result) (left : tail <:+ cs) :
    Bounded room cs result := by
  cases bounded with
  | read further => exact .read (further.trans left)
  | malformed fault rest => exact .malformed fault rest
  | tooManyDigits count => exact .tooManyDigits count
  | exhausted deep => exact .exhausted (Nat.lt_of_lt_of_le deep (opens_le_of_suffix left))

/-- A bracket takes one from the room, and it is one that is opened. -/
theorem Bounded.of_open {c : Code} (bracket : c = .char '[' ∨ c = .char '\x7b')
    (bounded : Bounded room tail result) : Bounded (room + 1) (c :: tail) result := by
  cases bounded with
  | read further => exact .read (further.trans (List.suffix_cons c tail))
  | malformed fault rest => exact .malformed fault rest
  | tooManyDigits count => exact .tooManyDigits count
  | exhausted deep =>
      have one : opens (c :: tail) = opens tail + 1 := by
        rcases bracket with rfl | rfl <;> exact List.countP_cons_of_pos rfl
      exact .exhausted (by omega)

theorem skipBlank_suffix (cs : List Code) : skipBlank cs <:+ cs :=
  List.dropWhile_suffix _

theorem Bounded.stop {β : Type} {stop : Stop} (bounded : @Bounded α room tail (.error stop))
    (left : tail <:+ cs) : @Bounded β room cs (.error stop) := by
  cases bounded with
  | malformed fault rest => exact .malformed fault rest
  | tooManyDigits count => exact .tooManyDigits count
  | exhausted deep => exact .exhausted (Nat.lt_of_lt_of_le deep (opens_le_of_suffix left))

theorem Bounded.suffix {a : α} {rest : List Code} (bounded : Bounded room cs (.ok (a, rest))) :
    rest <:+ cs := by
  cases bounded with
  | read left => exact left

theorem exists_malformed_of_lowEscape? {cs : List Code} {stop : Stop}
    (refused : lowEscape? cs = .error stop) : ∃ fault rest, stop = .malformed fault rest := by
  rw [lowEscape?.eq_def] at refused
  split at refused
  · split at refused
    · cases refused
      exact ⟨_, _, rfl⟩
    · cases refused
  · cases refused

theorem exists_malformed_of_readEscape {start cs : List Code} {stop : Stop}
    (refused : readEscape start cs = .error stop) : ∃ fault rest, stop = .malformed fault rest := by
  rw [readEscape.eq_def] at refused
  split at refused
  · split at refused
    · split at refused
      · cases refused
        exact ⟨_, _, rfl⟩
      · cases refused
        exact ⟨_, _, rfl⟩
      · split at refused
        · split at refused
          · rename_i low
            cases refused
            exact exists_malformed_of_lowEscape? low
          · cases refused
          · cases refused
        · cases refused
    · cases refused
      exact ⟨_, _, rfl⟩
  · split at refused
    · cases refused
    · cases refused
      exact ⟨_, _, rfl⟩
  · cases refused
    exact ⟨_, _, rfl⟩

theorem readText_bounded (room : Nat) (start done : List Code) (skip : Nat) (cs : List Code) :
    Bounded room cs (readText start done skip cs) := by
  induction cs generalizing done skip with
  | nil => exact .malformed .unterminated start
  | cons c rest ih =>
      have left := List.suffix_cons c rest
      rw [readText.eq_def]
      simp only
      split
      · exact (ih _ _).of_suffix left
      · split
        · exact .read left
        · split
          · split
            · rename_i refused
              obtain ⟨fault, place, rfl⟩ := exists_malformed_of_readEscape refused
              exact .malformed fault place
            · exact (ih _ _).of_suffix left
          · split
            · exact .malformed .controlCharacter (c :: rest)
            · exact (ih _ _).of_suffix left

theorem readFraction_suffix (cs : List Code) : (readFraction cs).2 <:+ cs := by
  rw [readFraction.eq_def]
  split
  · simp only
    split
    · exact List.suffix_refl _
    · exact (List.dropWhile_suffix _).trans (List.suffix_cons _ _)
  · exact List.suffix_refl _

theorem readSign_suffix (cs : List Code) : (readSign cs).2 <:+ cs := by
  rw [readSign.eq_def]
  split
  · exact List.suffix_cons _ _
  · exact List.suffix_cons _ _
  · exact List.suffix_refl _

theorem readExponent_suffix (cs : List Code) : (readExponent cs).2 <:+ cs := by
  rw [readExponent.eq_def]
  split
  · rename_i c rest
    have left : (readSign rest).2 <:+ c :: rest :=
      (readSign_suffix rest).trans (List.suffix_cons c rest)
    simp only
    split
    · split
      · exact List.suffix_refl _
      · exact (List.dropWhile_suffix _).trans left
    · exact List.suffix_refl _
  · exact List.suffix_refl _

private theorem bounded_number {noDigits whole tooLong : Prop} [Decidable noDigits]
    [Decidable whole] [Decidable tooLong] {fault : BodyFault} {count : Nat} {v w : Value}
    {rest : List Code} (left : rest <:+ cs) :
    Bounded room cs (if noDigits then .error (.malformed fault cs)
      else if whole then (if tooLong then .error (.tooManyDigits count) else .ok (v, rest))
      else .ok (w, rest)) := by
  split
  · exact .malformed fault cs
  · split
    · split
      · exact .tooManyDigits count
      · exact .read left
    · exact .read left

theorem readNumber_bounded (room : Nat) (cs : List Code) : Bounded room cs (readNumber cs) := by
  have parts : ∀ digits : List Code, digits <:+ cs → ∀ n,
      (readExponent (readFraction (digits.drop n)).2).2 <:+ cs := by
    intro digits left n
    exact (readExponent_suffix _).trans
      ((readFraction_suffix _).trans ((List.drop_suffix n digits).trans left))
  rw [readNumber.eq_def]
  refine bounded_number (parts _ ?_ _)
  split
  · exact List.suffix_cons _ _
  · exact List.suffix_refl _

mutual

theorem readValue_bounded : ∀ (fuel room : Nat) (cs : List Code),
    Bounded room cs (readValue fuel room cs)
  | 0, _, cs => .malformed .value cs
  | fuel + 1, room, cs => by
      rw [readValue.eq_def]
      simp only
      split
      · rename_i rest
        have text := readText_bounded room (.char '"' :: rest) [] 0 rest
        split <;> rename_i read <;> rw [read] at text
        · exact text.stop (List.suffix_cons _ _)
        · exact .read (text.suffix.trans (List.suffix_cons _ _))
      · rename_i rest
        split
        · exact .exhausted (by simp [opens])
        · refine .of_open (.inr rfl) (Bounded.of_suffix ?_ (skipBlank_suffix rest))
          split
          · rename_i tail closed
            rw [closed]
            exact .read (List.suffix_cons _ _)
          · exact readMembers_bounded fuel _ [] _
      · rename_i rest
        split
        · exact .exhausted (by simp [opens])
        · refine .of_open (.inl rfl) (Bounded.of_suffix ?_ (skipBlank_suffix rest))
          split
          · rename_i tail closed
            rw [closed]
            exact .read (List.suffix_cons _ _)
          · exact readItems_bounded fuel _ [] _
      · split
        · exact .read (List.drop_suffix _ _)
        · exact readNumber_bounded room cs

theorem readItems_bounded : ∀ (fuel room : Nat) (done : List Value) (cs : List Code),
    Bounded room cs (readItems fuel room done cs)
  | 0, _, _, cs => .malformed .value cs
  | fuel + 1, room, done, cs => by
      have item := readValue_bounded fuel room cs
      rw [readItems]
      split <;> rename_i read <;> rw [read] at item
      · exact item.stop (List.suffix_refl cs)
      · rename_i v rest
        have left : skipBlank rest <:+ cs := (skipBlank_suffix rest).trans item.suffix
        split
        · rename_i tail next
          rw [next] at left
          exact .read ((List.suffix_cons _ tail).trans left)
        · rename_i tail next
          rw [next] at left
          exact (readItems_bounded fuel room _ _).of_suffix
            ((skipBlank_suffix tail).trans ((List.suffix_cons _ tail).trans left))
        · exact .malformed .comma _

theorem readMembers_bounded : ∀ (fuel room : Nat) (done : Members) (cs : List Code),
    Bounded room cs (readMembers fuel room done cs)
  | 0, _, _, cs => .malformed .propertyName cs
  | fuel + 1, room, done, cs => by
      rw [readMembers.eq_def]
      simp only
      split
      · rename_i afterQuote
        have text := readText_bounded room (.char '"' :: afterQuote) [] 0 afterQuote
        split <;> rename_i readKey <;> rw [readKey] at text
        · exact text.stop (List.suffix_cons _ _)
        · rename_i key afterKey
          have left : skipBlank afterKey <:+ .char '"' :: afterQuote :=
            (skipBlank_suffix afterKey).trans (text.suffix.trans (List.suffix_cons _ _))
          split
          · rename_i afterColon colon
            rw [colon] at left
            have begun : skipBlank afterColon <:+ .char '"' :: afterQuote :=
              (skipBlank_suffix afterColon).trans ((List.suffix_cons _ _).trans left)
            have item := (readValue_bounded fuel room (skipBlank afterColon)).of_suffix begun
            split <;> rename_i read <;> rw [read] at item
            · exact item.stop (List.suffix_refl _)
            · rename_i v rest
              have left := (skipBlank_suffix rest).trans item.suffix
              split
              · rename_i tail next
                rw [next] at left
                exact .read ((List.suffix_cons _ tail).trans left)
              · rename_i tail next
                rw [next] at left
                exact (readMembers_bounded fuel room _ _).of_suffix
                  ((skipBlank_suffix tail).trans ((List.suffix_cons _ tail).trans left))
              · exact .malformed .comma _
          · exact .malformed .colon _
      · exact .malformed .propertyName _

end

end Body

/-- Only a text that opens more lists and objects than there is room for exhausts its reader. -/
theorem room_lt_of_exhausted {room : Nat} {bytes : List UInt8}
    (unread : decodeBody room bytes = .error .exhausted) :
    ∃ codes, Text.Encoding.decodeDetected bytes = .ok codes ∧ room < Body.opens codes := by
  rw [decodeBody] at unread
  split at unread
  · rename_i codes decoded
    refine ⟨codes, decoded, ?_⟩
    rw [Body.ofCodes, Body.readAll] at unread
    have value := Body.readValue_bounded (2 * codes.length + 2) room (Body.skipBlank codes)
    split at unread
    · rename_i stop read
      rw [read] at value
      cases value.of_suffix (Body.skipBlank_suffix codes) with
      | exhausted deep => exact deep
      | _ => cases unread
    · split at unread <;> cases unread
  · cases unread

example : decodeBody 1 "[[]]".toUTF8.data.toList = .error .exhausted := by
  decide +kernel

end InterfacePlan.Json
