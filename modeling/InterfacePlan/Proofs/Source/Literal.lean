import InterfacePlan.Proofs.Source.Scan
import InterfacePlan.Proofs.Text.Digits
import InterfacePlan.Source.Literal

set_option autoImplicit false

namespace InterfacePlan

/-- The characters from the plus sign to the last letter, among them all of numbers. -/
def isNumeral (c : Char) : Bool :=
  43 ≤ c.toNat && c.toNat ≤ 122

theorem isNumeral_of_isDigit {c : Char} (digit : c.isDigit) : isNumeral c := by
  simp only [Char.isDigit, Bool.and_eq_true, decide_eq_true_eq] at digit
  have least : 48 ≤ c.toNat := digit.1
  have greatest : c.toNat ≤ 57 := digit.2
  simp only [isNumeral, Bool.and_eq_true, decide_eq_true_eq]
  omega

namespace Decimal

theorem natText_numerals {n : Nat} : ∀ c ∈ natText n, isNumeral c :=
  fun _ inside => isNumeral_of_isDigit (isDigit_of_mem_natText inside)

theorem intText_numerals {n : Int} : ∀ c ∈ intText n, isNumeral c := by
  intro c inside
  rcases intText_chars inside with rfl | digit
  · rfl
  · exact isNumeral_of_isDigit digit

end Decimal

namespace FloatStyle

variable {digits : List Char}

private theorem zeros_numerals (n : Nat) : ∀ c ∈ List.replicate n '0', isNumeral c := by
  intro c inside
  rw [List.eq_of_mem_replicate inside]
  rfl

theorem positional_numerals (all : ∀ c ∈ digits, isNumeral c) (exponent : Int) :
    ∀ c ∈ positional digits exponent, isNumeral c := by
  intro c inside
  simp only [positional] at inside
  split at inside
  · simp only [List.mem_append, List.mem_cons, List.not_mem_nil, or_false] at inside
    rcases inside with (inside | inside) | rfl | rfl
    · exact all c inside
    · exact zeros_numerals _ c inside
    · rfl
    · rfl
  · split at inside
    · simp only [List.mem_append, List.mem_cons] at inside
      rcases inside with inside | rfl | inside
      · exact all c (List.mem_of_mem_take inside)
      · rfl
      · exact all c (List.mem_of_mem_drop inside)
    · simp only [List.mem_cons, List.mem_append] at inside
      rcases inside with rfl | rfl | inside | inside
      · rfl
      · rfl
      · exact zeros_numerals _ c inside
      · exact all c inside

theorem scientific_numerals (style : FloatStyle) (all : ∀ c ∈ digits, isNumeral c)
    (exponent : Int) : ∀ c ∈ style.scientific digits exponent, isNumeral c := by
  intro c inside
  simp only [scientific, List.mem_append, List.mem_cons] at inside
  rcases inside with (inside | inside) | rfl | sign | inside | inside
  · exact all c (List.mem_of_mem_take inside)
  · split at inside
    · cases inside
    · rcases List.mem_cons.mp inside with rfl | inside
      · rfl
      · exact all c (List.mem_of_mem_drop inside)
  · rfl
  · rw [sign]
    split <;> rfl
  · exact zeros_numerals _ c inside
  · exact Decimal.natText_numerals c inside

theorem magnitude_numerals (style : FloatStyle) {m : Nat} {q : Int} (onGrid : OnGrid m q) :
    ∀ c ∈ style.magnitude m q onGrid, isNumeral c := by
  intro c inside
  simp only [magnitude] at inside
  split at inside
  · exact List.all_eq_true.mp rfl c inside
  · split at inside
    · exact positional_numerals Decimal.natText_numerals _ c inside
    · exact scientific_numerals style Decimal.natText_numerals _ c inside

theorem display_numerals (x : Double) : ∀ c ∈ display.write x, isNumeral c := by
  intro c inside
  cases x with
  | nan => exact List.all_eq_true.mp rfl c inside
  | infinity negative => cases negative <;> exact List.all_eq_true.mp rfl c inside
  | finite negative m q onGrid =>
      rw [write] at inside
      split at inside
      · rcases List.mem_cons.mp inside with rfl | inside
        · rfl
        · exact magnitude_numerals display onGrid c inside
      · exact magnitude_numerals display onGrid c inside

end FloatStyle

namespace Source

open Text (Code)

theorem floatLiteral_numerals (x : Double) : ∀ c ∈ floatLiteral x, isNumeral c := by
  intro c inside
  rw [floatLiteral.eq_def] at inside
  split at inside
  · exact List.all_eq_true.mp rfl c inside
  · rename_i negative
    cases negative <;> exact List.all_eq_true.mp rfl c inside
  · split at inside
    · split at inside
      · exact Decimal.intText_numerals c inside
      · exact FloatStyle.display_numerals _ c inside
    · exact FloatStyle.display_numerals _ c inside

/-- Text of a literal: on one line, and without an end of its own for the scanner. -/
structure Sealed (text : List Code) : Prop where
  transparent : Transparent text
  visible : ∀ c ∈ text, c.isControl = false

namespace Sealed

variable {first second text : List Code}

theorem append (head : Sealed first) (tail : Sealed second) : Sealed (first ++ second) := by
  refine ⟨head.transparent.append tail.transparent, ?_⟩
  intro c inside
  rcases List.mem_append.mp inside with inside | inside
  · exact head.visible c inside
  · exact tail.visible c inside

theorem of_plain (plain : ∀ c ∈ text, isPlain c && !c.isControl) : Sealed text := by
  have both : ∀ c ∈ text, isPlain c ∧ c.isControl = false := by
    intro c inside
    have here := plain c inside
    rwa [Bool.and_eq_true, Bool.not_eq_true'] at here
  exact ⟨transparent_plain fun c inside => (both c inside).1, fun c inside => (both c inside).2⟩

theorem of_numerals {text : List Char} (all : ∀ c ∈ text, isNumeral c) : Sealed (text.map .char) := by
  apply of_plain
  rw [List.forall_mem_map]
  intro c inside
  have numeral := all c inside
  have apart : ∀ d : Char, isNumeral d = false → Code.char c ≠ .char d := by
    rintro d other same
    rw [← Code.char.inj same, numeral] at other
    cases other
  simp only [isNumeral, Bool.and_eq_true, decide_eq_true_eq] at numeral
  simp only [isPlain, Code.isControl, Bool.and_eq_true, decide_eq_true_eq, Bool.not_eq_true',
    decide_eq_false_iff_not]
  exact ⟨⟨⟨apart '"' rfl, apart '\x7b' rfl⟩, apart '\x7d' rfl⟩, by omega⟩

theorem braces (inner : Sealed text) : Sealed (.char '\x7b' :: (text ++ [.char '\x7d'])) := by
  refine ⟨inner.transparent.braces, ?_⟩
  intro c inside
  simp only [List.mem_cons, List.mem_append, List.not_mem_nil, or_false] at inside
  rcases inside with rfl | inside | rfl
  · rfl
  · exact inner.visible c inside
  · rfl

end Sealed

theorem visible_escape (c : Char) : ∀ d ∈ Text.escape c, 32 ≤ d.toNat := by
  unfold Text.escape
  split
  case h_8 =>
    split
    · rename_i control
      intro d inside
      rw [Text.unitEscape, List.mem_cons, List.mem_cons] at inside
      rcases inside with rfl | rfl | inside
      · decide
      · decide
      · exact (hex_of_control control d inside).2
    · rename_i visible
      intro d inside
      rw [List.mem_singleton.mp inside]
      omega
  all_goals exact List.all_iff_forall_prop.mp rfl

theorem visible_escapeCode (c : Code) : ∀ d ∈ Text.escapeCode c, d.isControl = false := by
  cases c with
  | char c =>
      rw [Text.escapeCode, List.forall_mem_map]
      exact fun d inside => decide_eq_false (Nat.not_lt.mpr (visible_escape c d inside))
  | surrogate unit =>
      intro d inside
      rw [List.mem_singleton.mp inside]
      rfl

theorem sealed_quoteCodes (s : List Code) : Sealed (Text.quoteCodes s) := by
  refine ⟨transparent_quoteCodes s, ?_⟩
  intro c inside
  simp only [Text.quoteCodes, List.mem_append, List.mem_cons, List.mem_flatMap, List.not_mem_nil,
    or_false] at inside
  rcases inside with (rfl | ⟨d, -, inside⟩) | rfl
  · rfl
  · exact visible_escapeCode d c inside
  · rfl

theorem sealed_join {separator : List Code} (between : Sealed separator)
    {parts : List (List Code)} (each : ∀ part ∈ parts, Sealed part) :
    Sealed (Text.join separator parts) := by
  induction parts with
  | nil => exact ⟨fun depth => passes_nil _, fun c inside => nomatch inside⟩
  | cons part rest ih =>
      by_cases last : rest = []
      · subst last
        exact each part List.mem_cons_self
      · rw [Text.join_cons last]
        exact ((each part List.mem_cons_self).append between).append
          (ih fun other inside => each other (List.mem_cons_of_mem part inside))

theorem sealed_items {parts : List (List Code)} (each : ∀ part ∈ parts, Sealed part) :
    Sealed (brackets ['['] [']'] parts) := by
  have opened : Sealed [.char '['] := .of_plain (List.all_eq_true.mp rfl)
  have between : Sealed [.char ',', .char ' '] := .of_plain (List.all_eq_true.mp rfl)
  have closed : Sealed [.char ']'] := .of_plain (List.all_eq_true.mp rfl)
  exact (opened.append (sealed_join between each)).append closed

theorem sealed_members {parts : List (List Code)} (each : ∀ part ∈ parts, Sealed part) :
    Sealed (brackets ['\x7b', ' '] [' ', '\x7d'] parts) := by
  have space : Sealed [.char ' '] := .of_plain (List.all_eq_true.mp rfl)
  have between : Sealed [.char ',', .char ' '] := .of_plain (List.all_eq_true.mp rfl)
  have inner := ((space.append (sealed_join between each)).append space).braces
  simpa only [brackets, List.map_cons, List.map_nil, List.cons_append, List.append_assoc,
    List.nil_append] using inner

theorem Sealed.getD {literal : Option (List Code)}
    (written : ∀ text, literal = some text → Sealed text) :
    Sealed (literal.getD (nullLiteral.map .char)) := by
  cases literal with
  | none => exact .of_numerals (List.all_eq_true.mp rfl)
  | some text => exact written text rfl

variable {shown : Key → List Code}

mutual

/-- Every literal is sealed, whatever its value holds and whatever its keys are called. -/
theorem sealed_literalBy : ∀ {v : Value} {text : List Code},
    literalBy shown v = some text → Sealed text
  | .bool true, _, literal | .bool false, _, literal => by
      cases literal
      exact .of_numerals (List.all_eq_true.mp rfl)
  | .int n, _, literal => by
      cases literal
      exact .of_numerals Decimal.intText_numerals
  | .float x, _, literal => by
      cases literal
      exact .of_numerals (floatLiteral_numerals x)
  | .text s, _, literal => by
      cases literal
      exact sealed_quoteCodes (Text.codes s)
  | .illFormed codes, _, literal => by
      cases literal
      exact sealed_quoteCodes codes
  | .list items, _, literal | .tuple items, _, literal => by
      cases literal
      exact sealed_items (sealed_itemsBy items)
  | .object members, _, literal => by
      cases literal
      exact sealed_members (sealed_membersBy members)

theorem sealed_itemsBy : ∀ (items : List Value), ∀ part ∈ itemsBy shown items, Sealed part
  | [], _, inside => nomatch inside
  | v :: rest, part, inside => by
      rw [itemsBy, List.mem_cons] at inside
      rcases inside with rfl | inside
      · exact .getD fun text literal => sealed_literalBy literal
      · exact sealed_itemsBy rest part inside

theorem sealed_membersBy : ∀ (members : Members),
    ∀ part ∈ membersBy shown members, Sealed part
  | [], _, inside => nomatch inside
  | (key, v) :: rest, part, inside => by
      rw [membersBy, List.mem_cons] at inside
      rcases inside with rfl | inside
      · have colon : Sealed [.char ':', .char ' '] := .of_plain (List.all_eq_true.mp rfl)
        have value : Sealed ((literalBy shown v).getD (nullLiteral.map .char)) :=
          .getD fun text literal => sealed_literalBy literal
        exact (sealed_quoteCodes (shown key)).append (colon.append value)
      · exact sealed_membersBy rest part inside

end

end Source

end InterfacePlan
