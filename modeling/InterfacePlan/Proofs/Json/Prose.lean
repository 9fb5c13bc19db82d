import InterfacePlan.Proofs.Json.Extraction

set_option autoImplicit false

namespace InterfacePlan.Json

open Text (Code)

/-- The widest stretch of a text between braces that open and close: no brace opens before it and none
closes after it. -/
def Braced (text inner : List Code) : Prop :=
  ∃ before after, .char '\x7b' ∉ before ∧ .char '\x7d' ∉ after ∧
    text = before ++ .char '\x7b' :: (inner ++ .char '\x7d' :: after)

variable {text inner prose rest : List Code}

private theorem dropWhile_cases (brace : Code) (text : List Code) :
    text.dropWhile (· ≠ brace) = [] ∨
      ∃ before after, brace ∉ before ∧ text = before ++ brace :: after ∧
        text.dropWhile (· ≠ brace) = brace :: after := by
  induction text with
  | nil => exact .inl rfl
  | cons c text ih =>
      by_cases here : c = brace
      · subst here
        exact .inr ⟨[], text, List.not_mem_nil, rfl, by simp⟩
      · have dropped : (c :: text).dropWhile (· ≠ brace) = text.dropWhile (· ≠ brace) := by
          simp [here]
        rw [dropped]
        rcases ih with none | ⟨before, after, absent, same, left⟩
        · exact .inl none
        · refine .inr ⟨c :: before, after, ?_, by rw [same, List.cons_append], left⟩
          rw [List.mem_cons, not_or]
          exact ⟨Ne.symm here, absent⟩

/-- The span is found exactly where a brace opens before one that closes. -/
theorem objectSpan?_eq_some_iff {span : List Code} :
    objectSpan? text = some span ↔
      ∃ inner, Braced text inner ∧ span = .char '\x7b' :: (inner ++ [.char '\x7d']) := by
  constructor
  · intro spanned
    simp only [objectSpan?] at spanned
    split at spanned
    · cases spanned
    · rename_i found
      cases spanned
      rcases dropWhile_cases (.char '\x7b') text with none | ⟨before, tail, noOpen, same, left⟩
      · rw [none] at found
        exact absurd rfl found
      · rw [left] at found ⊢
        rcases dropWhile_cases (.char '\x7d') (.char '\x7b' :: tail).reverse with
          none | ⟨after, inner, noClose, reversed, left⟩
        · rw [none] at found
          exact absurd rfl found
        · -- Read backwards, what is left ends with the opening brace.
          have forward : .char '\x7b' :: tail = inner.reverse ++ .char '\x7d' :: after.reverse := by
            rw [← List.reverse_inj, reversed]
            simp
          obtain ⟨middle, opens⟩ : ∃ middle, inner.reverse = .char '\x7b' :: middle := by
            cases front : inner.reverse with
            | nil =>
                rw [front] at forward
                cases forward
            | cons c middle =>
                rw [front] at forward
                exact ⟨middle, by rw [(List.cons.inj forward).1]⟩
          rw [opens, List.cons_append] at forward
          refine ⟨middle, ⟨before, after.reverse, noOpen, ?_, ?_⟩, ?_⟩
          · rwa [List.mem_reverse]
          · rw [same, forward]
          · rw [left, List.reverse_cons, opens, List.cons_append]
  · rintro ⟨inner, ⟨before, after, noOpen, noClose, rfl⟩, rfl⟩
    exact objectSpan?_wrapped noOpen noClose inner

theorem objectSpan?_eq_none_iff : objectSpan? text = none ↔ ¬ ∃ inner, Braced text inner := by
  rw [Option.eq_none_iff_forall_ne_some]
  constructor
  · rintro none ⟨inner, braced⟩
    exact none _ (objectSpan?_eq_some_iff.mpr ⟨inner, braced, rfl⟩)
  · intro none span spanned
    obtain ⟨inner, braced, -⟩ := objectSpan?_eq_some_iff.mp spanned
    exact none ⟨inner, braced⟩

namespace Strict

/-- Behind the first member the reader comes to an object or to no value. -/
theorem readMembers_isObject : ∀ (fuel : Nat) {path : List PathStep} {done : Members}
    {cs rest : List Char} {v : Value}, readMembers fuel path done cs = .ok (v, rest) → v.isObject
  | 0, _, _, _, _, _, read => by cases read
  | fuel + 1, path, done, cs, rest, v, read => by
      rw [readMembers.eq_def] at read
      simp only at read
      split at read
      · cases read
      · split at read
        · cases read
        · split at read
          · cases read
          · split at read
            · cases read
            · split at read
              · cases read
              · cases read
                rfl
              · split at read
                · cases read
                · exact readMembers_isObject fuel read
              · cases read
          · cases read
      · cases read

/-- What begins with an opening brace is read as an object. -/
theorem readValue_isObject {fuel : Nat} {path : List PathStep} {cs rest : List Char} {v : Value}
    (read : readValue fuel path ('\x7b' :: cs) = .ok (v, rest)) : v.isObject := by
  cases fuel with
  | zero => cases read
  | succ fuel =>
      rw [readValue_brace] at read
      split at read
      · cases read
        rfl
      · exact readMembers_isObject fuel read

end Strict

theorem decode_isObject {cs : List Char} {v : Value} (decoded : decode ('\x7b' :: cs) = .ok v) :
    ∃ members, v = .object members := by
  have object : v.isObject := by
    have read := ok_of_mapError decoded
    rw [Strict.readAll] at read
    split at read
    · cases read
    · rename_i whole
      split at read
      · cases read
        exact Strict.readValue_isObject whole
      · cases read
  cases v with
  | object members => exact ⟨members, rfl⟩
  | _ => cases object

theorem surrogate_not_mem (unit : Nat) (cs : List Char) : .surrogate unit ∉ cs.map Code.char := by
  intro inside
  obtain ⟨c, -, other⟩ := List.mem_map.mp inside
  cases other

/-- The text of an object, given what is between its braces. -/
def inBraces (inner : List Char) : List Char :=
  '\x7b' :: (inner ++ ['\x7d'])

variable {repair : Bool}

theorem extract_of_not_braced (none : ¬ ∃ inner, Braced text inner) :
    extract repair text = .error .noObject := by
  rw [extract, objectSpan?_trim, objectSpan?_eq_none_iff.mpr none]

theorem extract_of_surrogate {unit : Nat} (here : Braced text inner)
    (alone : .surrogate unit ∈ inner) : extract repair text = .error .illFormed := by
  have spanned := objectSpan?_eq_some_iff.mpr ⟨inner, here, rfl⟩
  have illFormed : Text.wellFormed? (.char '\x7b' :: (inner ++ [.char '\x7d'])) = none := by
    rw [Option.eq_none_iff_forall_ne_some]
    intro s made
    apply surrogate_not_mem unit s.toList
    rw [← Text.codes, ← Text.wellFormed?_eq_some_iff.mp made]
    exact List.mem_cons_of_mem _ (List.mem_append_left _ alone)
  rw [extract, objectSpan?_trim, spanned]
  simp only [illFormed]

/-- What is between the braces alone decides, and how it is decoded. -/
theorem extract_of_braced {inner : List Char} (here : Braced text (inner.map .char)) :
    extract repair text =
      match decodeSpan repair (inBraces inner) with
      | .error e => .error e
      | .ok (.object members) => .ok members
      | .ok v => .error (.notObject v.kindName) := by
  have spanned := objectSpan?_eq_some_iff.mpr ⟨_, here, rfl⟩
  have chars : Code.char '\x7b' :: (inner.map .char ++ [.char '\x7d']) =
      (inBraces inner).map .char := by
    simp only [inBraces, List.map_cons, List.map_append, List.map_nil]
  rw [extract, objectSpan?_trim, spanned, chars]
  cases decoded : decodeSpan repair (inBraces inner) with
  | error e => simp only [Text.wellFormed?_chars, String.toList_ofList, decoded]
  | ok v => cases v <;> simp only [Text.wellFormed?_chars, String.toList_ofList, decoded]

/-- A text has no braces around anything, or characters between them, or a surrogate among them. -/
theorem braced_cases (text : List Code) :
    (¬ ∃ inner, Braced text inner) ∨ (∃ inner : List Char, Braced text (inner.map .char)) ∨
      ∃ inner unit, Braced text inner ∧ .surrogate unit ∈ inner := by
  by_cases some : ∃ inner, Braced text inner
  · obtain ⟨inner, here⟩ := some
    cases chars : inner.all Code.isChar with
    | true =>
        refine .inr (.inl ⟨inner.filterMap Code.char?, ?_⟩)
        rwa [Text.map_char_filterMap chars]
    | false =>
        obtain ⟨c, inside, other⟩ := List.all_eq_false.mp chars
        cases c with
        | char c => exact absurd rfl other
        | surrogate unit => exact .inr (.inr ⟨inner, unit, here, inside⟩)
  · exact .inl some

theorem Braced.unique {other : List Code} (here : Braced text inner) (again : Braced text other) :
    inner = other := by
  have spanned := objectSpan?_eq_some_iff.mpr ⟨inner, here, rfl⟩
  rw [objectSpan?_eq_some_iff.mpr ⟨other, again, rfl⟩, Option.some.injEq, List.cons.injEq,
    List.append_cancel_right_eq] at spanned
  exact spanned.2.symm

/-- Without repair an object is extracted exactly if it is what the strict reader takes the braces and
what is between them for. -/
theorem extract_eq_ok_iff {members : Members} :
    extract false text = .ok members ↔
      ∃ inner : List Char, Braced text (inner.map .char) ∧
        decode (inBraces inner) = .ok (.object members) := by
  rcases braced_cases text with none | ⟨inner, here⟩ | ⟨inner, unit, here, alone⟩
  · rw [extract_of_not_braced none]
    constructor
    · intro same
      cases same
    · rintro ⟨inner, here, -⟩
      exact absurd ⟨_, here⟩ none
  · have only : ∀ other : List Char, Braced text (other.map .char) → other = inner := by
      intro other again
      exact List.map_injective_iff.mpr (fun _ _ => Code.char.inj) (again.unique here)
    rw [extract_of_braced here, decodeSpan]
    constructor
    · intro extracted
      refine ⟨inner, here, ?_⟩
      cases decoded : decode (inBraces inner) with
      | error cause =>
          rw [decoded] at extracted
          cases extracted
      | ok v =>
          obtain ⟨found, rfl⟩ := decode_isObject decoded
          rw [decoded] at extracted
          cases extracted
          rfl
    · rintro ⟨other, again, decoded⟩
      rw [only other again] at decoded
      rw [decoded]
  · rw [extract_of_surrogate here alone]
    constructor
    · intro same
      cases same
    · rintro ⟨other, again, -⟩
      rw [here.unique again] at alone
      exact absurd alone (surrogate_not_mem unit other)

/-- The strict reader gives an object or refuses, so that nothing else is extracted without repair. -/
theorem extract_ne_notObject (text : List Code) (kind : String) :
    extract false text ≠ .error (.notObject kind) := by
  rcases braced_cases text with none | ⟨inner, here⟩ | ⟨inner, unit, here, alone⟩
  · rw [extract_of_not_braced none]
    intro same
    cases same
  · rw [extract_of_braced here, decodeSpan]
    cases decoded : decode (inBraces inner) with
    | error cause =>
        intro same
        cases same
    | ok v =>
        obtain ⟨members, rfl⟩ := decode_isObject decoded
        intro same
        cases same
  · rw [extract_of_surrogate here alone]
    intro same
    cases same

/-- What keeps a text from being read at all: no braces, or a surrogate that stands alone between
them. -/
theorem extract_eq_error_iff (repair : Bool) (text : List Code) :
    (extract repair text = .error .noObject ↔ ¬ ∃ inner, Braced text inner) ∧
    (extract repair text = .error .illFormed ↔
      ∃ inner unit, Braced text inner ∧ .surrogate unit ∈ inner) := by
  rcases braced_cases text with none | ⟨inner, here⟩ | ⟨inner, unit, here, alone⟩
  · rw [extract_of_not_braced none]
    refine ⟨iff_of_true rfl none, iff_of_false (by decide) ?_⟩
    rintro ⟨inner, -, here, -⟩
    exact none ⟨inner, here⟩
  · have chars : ¬ ∃ other unit, Braced text other ∧ .surrogate unit ∈ other := by
      rintro ⟨other, unit, again, alone⟩
      rw [again.unique here] at alone
      exact surrogate_not_mem unit inner alone
    have read : ∀ e, extract repair text = .error e → e ≠ .noObject ∧ e ≠ .illFormed := by
      rw [extract_of_braced here]
      cases decoded : decodeSpan repair (inBraces inner) with
      | error cause =>
          rintro e ⟨⟩
          rcases decodeSpan_eq_error decoded with rfl | ⟨cause, rfl | rfl⟩ <;>
            exact ⟨ReplyError.noConfusion, ReplyError.noConfusion⟩
      | ok v =>
          rintro e same
          cases v <;> cases same <;> exact ⟨ReplyError.noConfusion, ReplyError.noConfusion⟩
    exact ⟨iff_of_false (fun refused => (read _ refused).1 rfl) (fun none => none ⟨_, here⟩),
      iff_of_false (fun refused => (read _ refused).2 rfl) chars⟩
  · rw [extract_of_surrogate here alone]
    exact ⟨iff_of_false (by decide) (fun none => none ⟨_, here⟩),
      iff_of_true rfl ⟨inner, unit, here, alone⟩⟩

theorem extract_append (noOpen : .char '\x7b' ∉ prose) (noClose : .char '\x7d' ∉ rest)
    (repair : Bool) (text : List Code) :
    extract repair (prose ++ text ++ rest) = extract repair text := by
  rw [extract, extract, objectSpan?_trim, objectSpan?_trim, objectSpan?_append noOpen noClose]

/-- Prose around a text changes nothing about what is extracted from it or why nothing is. Without
repair an object is extracted exactly if a brace opens before one that closes and the strict reader
takes the widest such stretch, as whatever value. Only a surrogate that stands alone between the braces
is refused without being read. -/
theorem extract_in_prose (noOpen : .char '\x7b' ∉ prose) (noClose : .char '\x7d' ∉ rest)
    (repair : Bool) (text : List Code) :
    extract repair (prose ++ text ++ rest) = extract repair text ∧
    ((∃ members, extract false text = .ok members) ↔ ∃ inner : List Char,
      Braced text (inner.map .char) ∧ ∃ v, decode (inBraces inner) = .ok v) ∧
    (∀ members, extract false text = .ok members ↔ ∃ inner : List Char,
      Braced text (inner.map .char) ∧ decode (inBraces inner) = .ok (.object members)) ∧
    (∀ kind, extract false text ≠ .error (.notObject kind)) ∧
    (extract repair text = .error .noObject ↔ ¬ ∃ inner, Braced text inner) ∧
    (extract repair text = .error .illFormed ↔
      ∃ inner unit, Braced text inner ∧ .surrogate unit ∈ inner) := by
  have taken : (∃ members, extract false text = .ok members) ↔ ∃ inner : List Char,
      Braced text (inner.map .char) ∧ ∃ v, decode (inBraces inner) = .ok v := by
    constructor
    · rintro ⟨members, extracted⟩
      obtain ⟨inner, here, decoded⟩ := extract_eq_ok_iff.mp extracted
      exact ⟨inner, here, _, decoded⟩
    · rintro ⟨inner, here, v, decoded⟩
      obtain ⟨members, rfl⟩ := decode_isObject decoded
      exact ⟨members, extract_eq_ok_iff.mpr ⟨inner, here, decoded⟩⟩
  exact ⟨extract_append noOpen noClose repair text, taken, fun _ => extract_eq_ok_iff,
    extract_ne_notObject text, extract_eq_error_iff repair text⟩

/-- A closing brace and a quote stand before the object, an opening one and blanks after it. -/
theorem extract_in_prose_braces :
    .char '\x7b' ∉ Text.codes "\x7d So \"far: " ∧ .char '\x7d' ∉ Text.codes " \x7b\n" ∧
    extract true (Text.codes "\x7d So \"far: " ++ Text.codes "\x7b\"a\x7d\": [\"\x7b\"]\x7d." ++
      Text.codes " \x7b\n") = .ok [(.text "a\x7d", .list [.text "\x7b"])] := by
  have noOpen : .char '\x7b' ∉ Text.codes "\x7d So \"far: " := by decide
  have noClose : .char '\x7d' ∉ Text.codes " \x7b\n" := by decide
  refine ⟨noOpen, noClose, ?_⟩
  rw [(extract_in_prose noOpen noClose true (Text.codes "\x7b\"a\x7d\": [\"\x7b\"]\x7d.")).1]
  decide +kernel

end InterfacePlan.Json
