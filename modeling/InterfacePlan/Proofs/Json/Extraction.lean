import InterfacePlan.Json.Reply
import InterfacePlan.Proofs.Json.Written
import InterfacePlan.Proofs.Text.Codes

set_option autoImplicit false

namespace InterfacePlan

namespace Json

variable {prose rest : List Text.Code}

private theorem dropWhile_prose {brace : Text.Code} (absent : brace ∉ prose)
    (more : List Text.Code) :
    (prose ++ brace :: more).dropWhile (· ≠ brace) = brace :: more := by
  have all : ∀ c ∈ prose, decide (c ≠ brace) = true := by
    intro c inside
    apply decide_eq_true
    rintro rfl
    exact absent inside
  exact Text.dropWhile_stretch all (decide_eq_false fun other => other rfl) more

/-- The span of an object in prose is the object. -/
theorem objectSpan?_wrapped (noOpen : .char '\x7b' ∉ prose) (noClose : .char '\x7d' ∉ rest)
    (inner : List Text.Code) :
    objectSpan? (prose ++ .char '\x7b' :: (inner ++ .char '\x7d' :: rest)) =
      some (.char '\x7b' :: (inner ++ [.char '\x7d'])) := by
  have reversed : (Text.Code.char '\x7b' :: (inner ++ .char '\x7d' :: rest)).reverse =
      rest.reverse ++ .char '\x7d' :: (inner.reverse ++ [.char '\x7b']) := by
    simp only [List.reverse_cons, List.reverse_append, List.append_assoc, List.cons_append,
      List.nil_append]
  have absent : Text.Code.char '\x7d' ∉ rest.reverse := by
    rwa [List.mem_reverse]
  rw [objectSpan?, dropWhile_prose noOpen, reversed, dropWhile_prose absent]
  simp only [List.reverse_cons, List.reverse_append, List.reverse_reverse, List.reverse_nil,
    List.cons_append, List.nil_append, reduceCtorEq, ↓reduceIte]

/-- Prose around a text leaves its span as it is, or without one. -/
theorem objectSpan?_append (noOpen : .char '\x7b' ∉ prose) (noClose : .char '\x7d' ∉ rest)
    (text : List Text.Code) : objectSpan? (prose ++ text ++ rest) = objectSpan? text := by
  have before : ∀ c ∈ prose, decide (c ≠ .char '\x7b') = true := by
    intro c inside
    apply decide_eq_true
    rintro rfl
    exact noOpen inside
  have after : ∀ c ∈ rest.reverse, decide (c ≠ .char '\x7d') = true := by
    intro c inside
    apply decide_eq_true
    rintro rfl
    exact noClose (List.mem_reverse.mp inside)
  rw [objectSpan?, objectSpan?, List.append_assoc, List.dropWhile_append_of_pos before,
    List.dropWhile_append]
  by_cases opens : (text.dropWhile (· ≠ .char '\x7b')).isEmpty
  · -- The first brace that opens, if there is one at all, is behind the last one that closes.
    have closed : (rest.dropWhile (· ≠ .char '\x7b')).reverse.dropWhile (· ≠ .char '\x7d') = [] := by
      rw [List.dropWhile_eq_nil_iff]
      intro c inside
      apply after c
      rw [List.mem_reverse] at inside ⊢
      exact (List.dropWhile_sublist _).mem inside
    rw [if_pos opens, closed, List.isEmpty_iff.mp opens]
    rfl
  · rw [if_neg opens, List.reverse_append, List.dropWhile_append_of_pos after]

private theorem ne_brace_of_isBlankCode {brace : Char} (visible : Text.isBlank brace = false)
    {c : Text.Code} (blank : Text.isBlankCode c) : c ≠ .char brace := by
  rintro rfl
  rw [Text.isBlankCode, visible] at blank
  cases blank

/-- The span of a text is that of the text without the blanks at its ends. -/
theorem objectSpan?_trim (text : List Text.Code) : objectSpan? (Text.trim text) = objectSpan? text := by
  obtain ⟨front, back, same, frontBlank, backBlank⟩ := Text.exists_ends Text.isBlankCode text
  have noOpen : .char '\x7b' ∉ front := fun inside =>
    ne_brace_of_isBlankCode (by decide) (frontBlank _ inside) rfl
  have noClose : .char '\x7d' ∉ back := fun inside =>
    ne_brace_of_isBlankCode (by decide) (backBlank _ inside) rfl
  have around := objectSpan?_append noOpen noClose (Text.trim text)
  rw [Text.trim, ← same] at around
  exact around.symm

/-- The object that was written is extracted, with repair or without. -/
theorem extract_written {members : Members} {text : List Char}
    (writes : Writes (.object members) text) (json : (Value.object members).isJson .shortIntegers)
    (repair : Bool) (noOpen : .char '\x7b' ∉ prose) (noClose : .char '\x7d' ∉ rest) :
    extract repair (prose ++ text.map .char ++ rest) = .ok members := by
  have decoded : decode text = .ok (.object members) :=
    Strict.decode_of_denotes
      (writes.denotes (Value.isJson_mono Numbers.shortIntegers_within_received json))
  obtain ⟨inner, rfl⟩ := writes.braces
  have arranged : prose ++ ('\x7b' :: (inner ++ ['\x7d'])).map Text.Code.char ++ rest =
      prose ++ .char '\x7b' :: (inner.map .char ++ .char '\x7d' :: rest) := by
    simp only [List.map_cons, List.map_append, List.map_nil, List.append_assoc, List.cons_append,
      List.nil_append]
  have spanned : Text.Code.char '\x7b' :: (inner.map .char ++ [.char '\x7d']) =
      ('\x7b' :: (inner ++ ['\x7d'])).map Text.Code.char := by
    simp only [List.map_cons, List.map_append, List.map_nil]
  rw [arranged, extract, objectSpan?_trim, objectSpan?_wrapped noOpen noClose, spanned]
  simp only [Text.wellFormed?_chars, decodeSpan, String.toList_ofList, decoded]

theorem mem_of_mem_objectSpan? {text span : List Text.Code} (spanned : objectSpan? text = some span)
    {c : Text.Code} (inside : c ∈ span) : c ∈ text := by
  simp only [objectSpan?] at spanned
  split at spanned
  · cases spanned
  · cases spanned
    have kept := (List.dropWhile_sublist _).mem (List.mem_reverse.mp inside)
    exact (List.dropWhile_sublist _).mem (List.mem_reverse.mp kept)

/-- What a span is refused for: a reader refuses it, or repair makes nothing of it. -/
theorem decodeSpan_eq_error {repair : Bool} {span : List Char} {e : ReplyError}
    (refused : decodeSpan repair span = .error e) :
    e = .unrepairable ∨ ∃ cause, e = .malformed cause ∨ e = .repairMalformed cause := by
  rw [decodeSpan] at refused
  split at refused
  · cases refused
  · rename_i cause _
    split at refused
    · split at refused
      · cases refused
        exact .inl rfl
      · rename_i text _
        cases again : decode text with
        | ok v =>
            rw [again] at refused
            cases refused
        | error cause =>
            rw [again] at refused
            cases refused
            exact .inr ⟨cause, .inr rfl⟩
    · cases refused
      exact .inr ⟨cause, .inl rfl⟩

theorem decodeSpan_ne_illFormed (repair : Bool) (span : List Char) :
    decodeSpan repair span ≠ .error .illFormed := by
  intro refused
  rcases decodeSpan_eq_error refused with same | ⟨cause, same | same⟩ <;> cases same

theorem extract_codes_ne_illFormed (repair : Bool) (s : String) :
    extract repair (Text.codes s) ≠ .error .illFormed := by
  rw [extract, objectSpan?_trim]
  split
  · intro same
    cases same
  · rename_i span spanned
    have chars : span.all Text.Code.isChar = true := by
      rw [List.all_eq_true]
      intro c inside
      obtain ⟨d, -, rfl⟩ := List.mem_map.mp (mem_of_mem_objectSpan? spanned inside)
      rfl
    have wellFormed : Text.wellFormed? span =
        some (String.ofList (span.filterMap Text.Code.char?)) := by
      rw [Text.wellFormed?, chars]
      rfl
    simp only [wellFormed]
    have sound := decodeSpan_ne_illFormed repair
      (String.ofList (span.filterMap Text.Code.char?)).toList
    split
    · rename_i e refused
      rw [refused] at sound
      exact fun same => sound (by cases same; rfl)
    · intro same
      cases same
    · intro same
      cases same

end Json

end InterfacePlan
