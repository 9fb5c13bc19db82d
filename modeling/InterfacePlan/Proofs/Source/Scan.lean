import InterfacePlan.Proofs.Text.Pieces
import InterfacePlan.Text.Quoted
import Mathlib.Data.Bool.AllAny

set_option autoImplicit false

namespace InterfacePlan.Source

open Text (Code)

/-- Where the scanner is: how many braces are open, whether a quote is, and whether a backslash has
just been read inside it. -/
structure Scan where
  depth : Nat
  quoted : Bool := false
  escaped : Bool := false
  deriving DecidableEq

namespace Scan

def step (s : Scan) (c : Code) : Scan :=
  if s.quoted then
    if s.escaped then { s with escaped := false }
    else if c = .char '\\' then { s with escaped := true }
    else if c = .char '"' then { s with quoted := false }
    else s
  else if c = .char '"' then { s with quoted := true }
  else if c = .char '\x7b' then { s with depth := s.depth + 1 }
  else if c = .char '\x7d' then { s with depth := s.depth - 1 }
  else s

/-- Outside quotes, with a brace open around everything and others inside it. -/
def inside (depth : Nat) : Scan :=
  ⟨depth + 1, false, false⟩

def insideQuotes (depth : Nat) : Scan :=
  ⟨depth + 1, true, false⟩

end Scan

open Scan (inside insideQuotes)

/-- What stands before the brace that closes the outermost one, and what follows that brace. -/
def splitLiteral (s : Scan) : List Code → Option (List Code × List Code)
  | [] => none
  | c :: rest =>
    if (s.step c).depth = 0 then some ([], rest)
    else (splitLiteral (s.step c) rest).map fun r => (c :: r.1, r.2)

theorem length_of_splitLiteral {s : Scan} {cs literal rest : List Code}
    (split : splitLiteral s cs = some (literal, rest)) : rest.length < cs.length := by
  induction cs generalizing s literal with
  | nil => cases split
  | cons c cs ih =>
      rw [splitLiteral] at split
      split at split
      · cases split
        exact Nat.lt_succ_self _
      · obtain ⟨r, inner, same⟩ := Option.map_eq_some_iff.mp split
        cases same
        exact Nat.lt_succ_of_lt (ih inner)

/-- The scanner passes over a text without finding the end, from one place to another. -/
def Passes (s : Scan) (text : List Code) (after : Scan) : Prop :=
  ∀ rest, splitLiteral s (text ++ rest) =
    (splitLiteral after rest).map fun r => (text ++ r.1, r.2)

theorem passes_nil (s : Scan) : Passes s [] s := by
  intro rest
  cases found : splitLiteral s rest <;> simp [found]

theorem Passes.append {s middle after : Scan} {first second : List Code}
    (head : Passes s first middle) (tail : Passes middle second after) :
    Passes s (first ++ second) after := by
  intro rest
  rw [List.append_assoc, head, tail, Option.map_map]
  congr 1
  funext r
  simp only [Function.comp_apply, List.append_assoc]

theorem passes_char {s : Scan} {c : Code} (within : (s.step c).depth ≠ 0) :
    Passes s [c] (s.step c) := by
  intro rest
  rw [List.singleton_append, splitLiteral, if_neg within]
  rfl

theorem Passes.cons {s after : Scan} {c : Code} {text : List Code}
    (within : (s.step c).depth ≠ 0) (tail : Passes (s.step c) text after) :
    Passes s (c :: text) after :=
  (passes_char within).append tail

/-- At any depth of braces the scanner passes over the text and is where it was. -/
def Transparent (text : List Code) : Prop :=
  ∀ depth, Passes (inside depth) text (inside depth)

/-- What means nothing to the scanner outside quotes. -/
def isPlain (c : Code) : Bool :=
  c ≠ .char '"' && c ≠ .char '\x7b' && c ≠ .char '\x7d'

theorem Transparent.append {first second : List Code} (head : Transparent first)
    (tail : Transparent second) : Transparent (first ++ second) :=
  fun depth => (head depth).append (tail depth)

theorem step_plain {c : Code} (plain : isPlain c) (depth : Nat) :
    (inside depth).step c = inside depth := by
  simp only [isPlain, ne_eq, decide_not, Bool.and_eq_true, Bool.not_eq_true',
    decide_eq_false_iff_not] at plain
  simp only [Scan.step, inside, plain, Bool.false_eq_true, ↓reduceIte]

theorem transparent_plain {text : List Code} (plain : ∀ c ∈ text, isPlain c) :
    Transparent text := by
  intro depth
  induction text with
  | nil => exact passes_nil _
  | cons c text ih =>
      have here := step_plain (plain c List.mem_cons_self) depth
      apply Passes.cons
      · rw [here]
        exact Nat.succ_ne_zero depth
      · rw [here]
        exact ih fun d further => plain d (List.mem_cons_of_mem c further)

theorem passes_quoted {text : List Code} (all : ∀ c ∈ text, c ≠ .char '"' ∧ c ≠ .char '\\')
    (depth : Nat) :
    Passes (insideQuotes depth) text (insideQuotes depth) := by
  induction text with
  | nil => exact passes_nil _
  | cons c text ih =>
      have here : (insideQuotes depth).step c = insideQuotes depth := by
        simp only [Scan.step, insideQuotes, all c List.mem_cons_self, Bool.false_eq_true,
          ↓reduceIte]
      apply Passes.cons
      · rw [here]
        exact Nat.succ_ne_zero depth
      · rw [here]
        exact ih fun d further => all d (List.mem_cons_of_mem c further)

/-- A backslash takes the character after it along. -/
theorem passes_backslash (c : Code) (depth : Nat) :
    Passes (insideQuotes depth) [.char '\\', c] (insideQuotes depth) := by
  have first : Passes (insideQuotes depth) [.char '\\'] ⟨depth + 1, true, true⟩ :=
    passes_char (Nat.succ_ne_zero depth)
  have second : Passes ⟨depth + 1, true, true⟩ [c] (insideQuotes depth) :=
    passes_char (Nat.succ_ne_zero depth)
  exact first.append second

theorem hex_of_control {n : Nat} (control : n < 32) :
    ∀ c ∈ Text.hex 4 n, (c ≠ '"' ∧ c ≠ '\\') ∧ 32 ≤ c.toNat := by
  have each : ∀ m : Nat, m < 32 →
      (Text.hex 4 m).all fun c => (c ≠ '"' ∧ c ≠ '\\') ∧ 32 ≤ c.toNat := by
    decide
  exact List.all_iff_forall_prop.mp (each n control)

theorem passes_escape (c : Char) (depth : Nat) :
    Passes (insideQuotes depth) ((Text.escape c).map .char) (insideQuotes depth) := by
  unfold Text.escape
  split
  case h_8 noQuote noBackslash _ _ _ _ _ =>
    split
    · rename_i control
      have digits : ∀ d ∈ (Text.hex 4 c.toNat).map Code.char, d ≠ .char '"' ∧ d ≠ .char '\\' := by
        rw [List.forall_mem_map]
        intro d inside
        simpa only [ne_eq, Code.char.injEq] using (hex_of_control control d inside).1
      exact (passes_backslash (.char 'u') depth).append (passes_quoted digits depth)
    · apply passes_quoted
      intro d inside
      rw [List.mem_singleton.mp inside]
      exact ⟨fun same => noQuote (Code.char.inj same), fun same => noBackslash (Code.char.inj same)⟩
  all_goals exact passes_backslash _ depth

theorem passes_escapeCode (c : Code) (depth : Nat) :
    Passes (insideQuotes depth) (Text.escapeCode c) (insideQuotes depth) := by
  cases c with
  | char c => exact passes_escape c depth
  | surrogate unit =>
      apply passes_quoted
      intro d inside
      rw [List.mem_singleton.mp inside]
      exact ⟨Code.noConfusion, Code.noConfusion⟩

theorem transparent_quoteCodes (s : List Code) : Transparent (Text.quoteCodes s) := by
  intro depth
  have escapes : Passes (insideQuotes depth) (s.flatMap Text.escapeCode) (insideQuotes depth) := by
    induction s with
    | nil => exact passes_nil _
    | cons c s ih =>
        rw [List.flatMap_cons]
        exact (passes_escapeCode c depth).append ih
  have opened : Passes (inside depth) [.char '"'] (insideQuotes depth) :=
    passes_char (Nat.succ_ne_zero depth)
  have closed : Passes (insideQuotes depth) [.char '"'] (inside depth) :=
    passes_char (Nat.succ_ne_zero depth)
  exact (opened.append escapes).append closed

theorem Transparent.braces {text : List Code} (transparent : Transparent text) :
    Transparent (.char '\x7b' :: (text ++ [.char '\x7d'])) := by
  intro depth
  have opened : Passes (inside depth) [.char '\x7b'] (inside (depth + 1)) :=
    passes_char (Nat.succ_ne_zero (depth + 1))
  have closed : Passes (inside (depth + 1)) [.char '\x7d'] (inside depth) :=
    passes_char (Nat.succ_ne_zero depth)
  exact opened.append ((transparent (depth + 1)).append closed)

/-- The end of a transparent literal is the brace that follows it. -/
theorem splitLiteral_of_transparent {literal : List Code} (transparent : Transparent literal)
    (rest : List Code) :
    splitLiteral (inside 0) (literal ++ .char '\x7d' :: rest) = some (literal, rest) := by
  rw [transparent 0]
  have closed : splitLiteral (inside 0) (.char '\x7d' :: rest) = some ([], rest) := rfl
  rw [closed, Option.map_some, List.append_nil]

end InterfacePlan.Source
