import InterfacePlan.Proofs.Json.RoundTrip
import InterfacePlan.Source.Literal

set_option autoImplicit false

namespace InterfacePlan

open Json.Strict

namespace Decimal

variable {rest rest' : List Char}

theorem natText_append_inj {n m : Nat} (ends : NoDigit rest) (ends' : NoDigit rest')
    (same : natText n ++ rest = natText m ++ rest') : n = m ∧ rest = rest' := by
  have digits := congrArg (List.takeWhile isDigit) same
  have left := congrArg (List.dropWhile isDigit) same
  rw [takeWhile_digits (fun _ => isDigit_of_mem_natText) ends,
    takeWhile_digits (fun _ => isDigit_of_mem_natText) ends'] at digits
  rw [dropWhile_digits (fun _ => isDigit_of_mem_natText) ends,
    dropWhile_digits (fun _ => isDigit_of_mem_natText) ends'] at left
  have value := congrArg digitsValue digits
  rw [digitsValue_natText, digitsValue_natText] at value
  exact ⟨value, left⟩

theorem natText_begins (n : Nat) : ∃ c tail, natText n = c :: tail ∧ c.isDigit := by
  cases text : natText n with
  | nil => exact absurd text (natText_ne_nil n)
  | cons c tail =>
      have inside : c ∈ natText n := by simp [text]
      exact ⟨c, tail, rfl, Decimal.isDigit_of_mem_natText inside⟩

theorem minus_append_ne {n : Nat} {tail : List Char} : '-' :: tail ≠ natText n ++ rest := by
  obtain ⟨c, digits, text, digit⟩ := natText_begins n
  rw [text, List.cons_append]
  intro same
  rw [← (List.cons.inj same).1] at digit
  exact absurd digit (by decide)

theorem intText_append_inj {n m : Int} (ends : NoDigit rest) (ends' : NoDigit rest')
    (same : intText n ++ rest = intText m ++ rest') : n = m ∧ rest = rest' := by
  rcases intText_cases n with ⟨sign, text⟩ | ⟨sign, text⟩
  · rcases intText_cases m with ⟨sign', text'⟩ | ⟨sign', text'⟩
    · rw [text, text', List.cons_append, List.cons_append] at same
      obtain ⟨value, left⟩ := natText_append_inj ends ends' (List.cons.inj same).2
      exact ⟨by omega, left⟩
    · rw [text, text'] at same
      exact absurd same minus_append_ne
  · rcases intText_cases m with ⟨sign', text'⟩ | ⟨sign', text'⟩
    · rw [text, text'] at same
      exact absurd same.symm minus_append_ne
    · rw [text, text'] at same
      obtain ⟨value, left⟩ := natText_append_inj ends ends' same
      exact ⟨by omega, left⟩

end Decimal

namespace Source

theorem quote_append_inj {s t : String} {rest rest' : List Char}
    (same : Text.quote s.toList ++ rest = Text.quote t.toList ++ rest') : s = t ∧ rest = rest' := by
  rw [quote_append, quote_append] at same
  have read := congrArg (readText []) (List.cons.inj same).2
  rw [readText_quote, readText_quote] at read
  have parts := Except.ok.inj read
  exact ⟨String.toList_injective (Prod.mk.inj parts).1, (Prod.mk.inj parts).2⟩

/-- What follows the last part of a container. -/
def Closes (rest : List Char) : Prop :=
  ∃ c tail, rest = c :: tail ∧ (c = ']' ∨ c = ' ')

section

variable {α : Type} {f : α → List Char} {proper : α → Prop} {rest rest' : List Char}

/-- Of all proper things only `a` is written like this, whatever follows. -/
def Marked (f : α → List Char) (proper : α → Prop) (a : α) : Prop :=
  ∀ ⦃b rest rest'⦄, proper b → Stops rest → Stops rest' → f a ++ rest = f b ++ rest' →
    a = b ∧ rest = rest'

/-- The parts of a container behind the first, each with its separator. -/
def chain (f : α → List Char) (xs : List α) : List Char :=
  xs.flatMap fun x => ',' :: ' ' :: f x

theorem chain_cons_append (x : α) (xs : List α) (rest : List Char) :
    chain f (x :: xs) ++ rest = ',' :: ' ' :: (f x ++ (chain f xs ++ rest)) := by
  simp only [chain, List.flatMap_cons, List.cons_append, List.append_assoc]

theorem stops_chain (closes : Closes rest) (xs : List α) : Stops (chain f xs ++ rest) := by
  cases xs with
  | nil =>
      obtain ⟨c, tail, rfl, rfl | rfl⟩ := closes
      · exact .cons (by decide)
      · exact .cons (by decide)
  | cons x xs =>
      rw [chain_cons_append]
      exact stops_comma _

theorem chain_ne_closes (closes : Closes rest) (x : α) (xs : List α) :
    chain f (x :: xs) ++ rest' ≠ rest := by
  rw [chain_cons_append]
  rintro rfl
  obtain ⟨c, tail, same, rfl | rfl⟩ := closes
  · cases same
  · cases same

theorem chain_append_inj {xs ys : List α} (marked : ∀ x ∈ xs, Marked f proper x)
    (each : ∀ y ∈ ys, proper y) (closes : Closes rest) (closes' : Closes rest')
    (same : chain f xs ++ rest = chain f ys ++ rest') : xs = ys ∧ rest = rest' := by
  induction xs generalizing ys with
  | nil =>
      cases ys with
      | nil => exact ⟨rfl, same⟩
      | cons y ys => exact absurd same.symm (chain_ne_closes closes y ys)
  | cons x xs ih =>
      cases ys with
      | nil => exact absurd same (chain_ne_closes closes' x xs)
      | cons y ys =>
          rw [List.forall_mem_cons] at marked each
          rw [chain_cons_append, chain_cons_append] at same
          have parts := (List.cons.inj (List.cons.inj same).2).2
          obtain ⟨rfl, others⟩ :=
            marked.1 each.1 (stops_chain closes xs) (stops_chain closes' ys) parts
          obtain ⟨rfl, left⟩ := ih marked.2 each.2 others
          exact ⟨rfl, left⟩

theorem join_cons_append (x : α) (xs : List α) (rest : List Char) :
    Text.join [',', ' '] ((x :: xs).map f) ++ rest = f x ++ (chain f xs ++ rest) := by
  induction xs generalizing x with
  | nil => rfl
  | cons y ys ih =>
      have more : (y :: ys).map f ≠ [] := List.cons_ne_nil _ _
      rw [List.map_cons, Text.join_cons more, List.append_assoc, ih, chain_cons_append,
        List.append_assoc]
      rfl

/-- Things that are told apart one by one are told apart when they are joined. -/
theorem join_append_inj {xs ys : List α} (marked : ∀ x ∈ xs, Marked f proper x)
    (each : ∀ x ∈ xs, proper x) (each' : ∀ y ∈ ys, proper y)
    (begins : ∀ b, proper b → ∀ tail, ¬ Closes (f b ++ tail))
    (closes : Closes rest) (closes' : Closes rest')
    (same : Text.join [',', ' '] (xs.map f) ++ rest = Text.join [',', ' '] (ys.map f) ++ rest') :
    xs = ys ∧ rest = rest' := by
  cases xs with
  | nil =>
      cases ys with
      | nil => exact ⟨rfl, same⟩
      | cons y ys =>
          rw [join_cons_append] at same
          have closed : Closes (f y ++ (chain f ys ++ rest')) := by
            rw [← same]
            exact closes
          exact absurd closed (begins y (each' y List.mem_cons_self) _)
  | cons x xs =>
      rw [join_cons_append] at same
      cases ys with
      | nil =>
          have closed : Closes (f x ++ (chain f xs ++ rest)) := by
            rw [same]
            exact closes'
          exact absurd closed (begins x (each x List.mem_cons_self) _)
      | cons y ys =>
          rw [join_cons_append] at same
          rw [List.forall_mem_cons] at marked each'
          obtain ⟨rfl, others⟩ :=
            marked.1 each'.1 (stops_chain closes xs) (stops_chain closes' ys) same
          obtain ⟨rfl, left⟩ := chain_append_inj marked.2 each'.2 closes closes' others
          exact ⟨rfl, left⟩

end

/-- The forms of JSON values without fractions. -/
inductive Form where
  | null
  | bool
  | int
  | text
  | list
  | object

def form? : Value → Option Form
  | .null => some .null
  | .bool _ => some .bool
  | .int _ => some .int
  | .text _ => some .text
  | .list _ => some .list
  | .object _ => some .object
  | .float _ | .tuple _ | .illFormed _ | .foreign => none

def formOf? (c : Char) : Option Form :=
  if c = '-' || c.isDigit then some .int
  else match c with
    | 'n' => some .null
    | 't' | 'f' => some .bool
    | '"' => some .text
    | '[' => some .list
    | '\x7b' => some .object
    | _ => none

/-- The literal of a value, or what stands for it inside a container, in characters. -/
def literalText (v : Value) : List Char :=
  Text.chars ((literal? v).getD (nullLiteral.map .char))

theorem chars_quote (s : String) : Text.chars (Text.quoteCodes (Text.codes s)) = Text.quote s.toList := by
  rw [Text.codes, Text.quoteCodes_chars, Text.chars_map_char]

theorem literalText_bool (b : Bool) : literalText (.bool b) = boolLiteral b :=
  Text.chars_map_char (boolLiteral b)

theorem literalText_int (n : Int) : literalText (.int n) = Decimal.intText n :=
  Text.chars_map_char (Decimal.intText n)

theorem literalText_text (s : String) : literalText (.text s) = Text.quote s.toList :=
  chars_quote s

theorem literalText_begins {v : Value} (json : v.isJson .integers) :
    ∃ c tail, literalText v = c :: tail ∧ formOf? c = form? v ∧ (form? v).isSome := by
  cases v with
  | null => exact ⟨_, _, rfl, rfl, rfl⟩
  | bool b => cases b <;> exact ⟨_, _, rfl, rfl, rfl⟩
  | int n =>
      rw [literalText_int]
      rcases Decimal.intText_cases n with ⟨-, text⟩ | ⟨-, text⟩
      · exact ⟨'-', _, text, rfl, rfl⟩
      · obtain ⟨c, tail, digits, digit⟩ := Decimal.natText_begins n.natAbs
        have number : formOf? c = some .int := by
          simp [formOf?, digit]
        exact ⟨c, tail, text.trans digits, number, rfl⟩
  | text s => exact ⟨_, _, rfl, rfl, rfl⟩
  | list items => exact ⟨_, _, rfl, rfl, rfl⟩
  | object members => exact ⟨_, _, rfl, rfl, rfl⟩
  | float x => cases json
  | tuple items => cases json
  | illFormed codes => cases json
  | foreign => cases json

theorem form_eq_of_literalText {v w : Value} {rest rest' : List Char} (json : v.isJson .integers)
    (json' : w.isJson .integers) (same : literalText v ++ rest = literalText w ++ rest') :
    form? v = form? w := by
  obtain ⟨c, tail, begins, form, -⟩ := literalText_begins json
  obtain ⟨d, tail', begins', form', -⟩ := literalText_begins json'
  rw [begins, begins', List.cons_append, List.cons_append] at same
  rw [← form, ← form', (List.cons.inj same).1]

theorem not_closes_literalText {v : Value} (json : v.isJson .integers) (tail : List Char) :
    ¬ Closes (literalText v ++ tail) := by
  obtain ⟨c, rest, begins, form, some⟩ := literalText_begins json
  rw [begins]
  rintro ⟨d, more, same, which⟩
  have first : c = d := (List.cons.inj same).1
  rw [← form, first] at some
  rcases which with rfl | rfl
  · cases some
  · cases some

/-- A member as it stands in the literal of its object. -/
def memberText (m : Key × Value) : List Char :=
  Text.chars (Text.quoteCodes m.1.plain) ++ ':' :: ' ' :: literalText m.2

theorem chars_itemsBy (items : List Value) :
    (itemsBy Key.plain items).map Text.chars = items.map literalText := by
  induction items with
  | nil => rfl
  | cons v rest ih =>
      rw [itemsBy, List.map_cons, ih]
      rfl

theorem chars_membersBy (members : Members) :
    (membersBy Key.plain members).map Text.chars = members.map memberText := by
  induction members with
  | nil => rfl
  | cons m rest ih =>
      obtain ⟨key, v⟩ := m
      rw [membersBy, List.map_cons, ih, Text.chars_append]
      rfl

theorem chars_brackets (left right : List Char) (parts : List (List Text.Code)) :
    Text.chars (brackets left right parts) =
      left ++ Text.join [',', ' '] (parts.map Text.chars) ++ right := by
  rw [brackets, Text.chars_append, Text.chars_append, Text.chars_join, Text.chars_map_char,
    Text.chars_map_char]
  rfl

theorem literalText_list_append (items : List Value) (rest : List Char) :
    literalText (.list items) ++ rest =
      '[' :: (Text.join [',', ' '] (items.map literalText) ++ (']' :: rest)) := by
  rw [literalText, literal?, literalBy, Option.getD_some, chars_brackets, chars_itemsBy]
  simp only [List.cons_append, List.append_assoc, List.nil_append]

theorem literalText_object_append (members : Members) (rest : List Char) :
    literalText (.object members) ++ rest =
      '\x7b' :: ' ' :: (Text.join [',', ' '] (members.map memberText) ++
        (' ' :: '\x7d' :: rest)) := by
  rw [literalText, literal?, literalBy, Option.getD_some, chars_brackets, chars_membersBy]
  simp only [List.cons_append, List.append_assoc, List.nil_append]

abbrev MarkedValue (v : Value) : Prop :=
  Marked literalText (fun w => w.isJson .integers) v

def IsMember (m : Key × Value) : Prop :=
  (∃ s, m.1 = .text s) ∧ m.2.isJson .integers

theorem marked_member {m : Key × Value} (isMember : IsMember m) (marked : MarkedValue m.2) :
    Marked memberText IsMember m := by
  intro m' rest rest' isMember' stops stops' same
  obtain ⟨key, v⟩ := m
  obtain ⟨key', v'⟩ := m'
  obtain ⟨⟨s, rfl⟩, -⟩ := isMember
  obtain ⟨⟨t, rfl⟩, json'⟩ := isMember'
  simp only [memberText, Key.plain, chars_quote, List.append_assoc, List.cons_append] at same
  obtain ⟨rfl, after⟩ := quote_append_inj same
  have values := (List.cons.inj (List.cons.inj after).2).2
  obtain ⟨rfl, left⟩ := marked json' stops stops' values
  exact ⟨rfl, left⟩

theorem marked_list {items : List Value} (json : ∀ v ∈ items, v.isJson .integers)
    (marked : ∀ v ∈ items, MarkedValue v) : MarkedValue (.list items) := by
  intro w rest rest' json' _ _ same
  have form := form_eq_of_literalText (Value.isJson_list.mpr json) json' same
  cases w with
  | list items' =>
      rw [literalText_list_append, literalText_list_append] at same
      obtain ⟨rfl, closed⟩ := join_append_inj marked json (Value.isJson_list.mp json')
        (fun _ json tail => not_closes_literalText json tail) ⟨_, _, rfl, .inl rfl⟩
        ⟨_, _, rfl, .inl rfl⟩ (List.cons.inj same).2
      exact ⟨rfl, (List.cons.inj closed).2⟩
  | _ => cases form

theorem not_closes_memberText (m : Key × Value) (tail : List Char) :
    ¬ Closes (memberText m ++ tail) := by
  rintro ⟨c, more, same, rfl | rfl⟩
  · cases same
  · cases same

theorem marked_object {members : Members} (json : (Value.object members).isJson .integers)
    (marked : ∀ m ∈ members, MarkedValue m.2) : MarkedValue (.object members) := by
  intro w rest rest' json' _ _ same
  have form := form_eq_of_literalText json json' same
  cases w with
  | object members' =>
      have each : ∀ m ∈ members, IsMember m :=
        Value.membersAreJson_iff.mp (Value.isJson_object.mp json).2
      have each' : ∀ m ∈ members', IsMember m :=
        Value.membersAreJson_iff.mp (Value.isJson_object.mp json').2
      have markedEach : ∀ m ∈ members, Marked memberText IsMember m :=
        fun m inside => marked_member (each m inside) (marked m inside)
      rw [literalText_object_append, literalText_object_append] at same
      obtain ⟨rfl, closed⟩ := join_append_inj markedEach each each'
        (fun m _ tail => not_closes_memberText m tail) ⟨_, _, rfl, .inr rfl⟩
        ⟨_, _, rfl, .inr rfl⟩ (List.cons.inj (List.cons.inj same).2).2
      exact ⟨rfl, (List.cons.inj (List.cons.inj closed).2).2⟩
  | _ => cases form

theorem marked_null : MarkedValue .null := by
  intro w rest rest' json _ _ same
  have form := form_eq_of_literalText (v := .null) rfl json same
  cases w with
  | null => exact ⟨rfl, List.append_cancel_left same⟩
  | _ => cases form

theorem marked_bool (b : Bool) : MarkedValue (.bool b) := by
  intro w rest rest' json _ _ same
  have form := form_eq_of_literalText (v := .bool b) rfl json same
  cases w with
  | bool b' =>
      rw [literalText_bool, literalText_bool] at same
      cases b with
      | true =>
          cases b' with
          | true => exact ⟨rfl, List.append_cancel_left same⟩
          | false => cases same
      | false =>
          cases b' with
          | true => cases same
          | false => exact ⟨rfl, List.append_cancel_left same⟩
  | _ => cases form

theorem marked_int (n : Int) : MarkedValue (.int n) := by
  intro w rest rest' json stops stops' same
  have form := form_eq_of_literalText (v := .int n) rfl json same
  cases w with
  | int m =>
      rw [literalText_int, literalText_int] at same
      obtain ⟨rfl, left⟩ := Decimal.intText_append_inj stops.noDigit stops'.noDigit same
      exact ⟨rfl, left⟩
  | _ => cases form

theorem marked_text (s : String) : MarkedValue (.text s) := by
  intro w rest rest' json _ _ same
  have form := form_eq_of_literalText (v := .text s) rfl json same
  cases w with
  | text t =>
      rw [literalText_text, literalText_text] at same
      obtain ⟨rfl, left⟩ := quote_append_inj same
      exact ⟨rfl, left⟩
  | _ => cases form

mutual

theorem marked_value : ∀ {v : Value}, v.isJson .integers → MarkedValue v
  | .null, _ => marked_null
  | .bool b, _ => marked_bool b
  | .int n, _ => marked_int n
  | .text s, _ => marked_text s
  | .list _, json => marked_list (Value.isJson_list.mp json) (marked_items json)
  | .object _, json => marked_object json (marked_members (Value.isJson_object.mp json).2)
  | .float _, json | .tuple _, json | .illFormed _, json | .foreign, json => nomatch json

theorem marked_items : ∀ {items : List Value}, Value.itemsAreJson .integers items →
    ∀ v ∈ items, MarkedValue v
  | [], _ => fun _ inside => nomatch inside
  | _ :: _, json => by
      rw [Value.itemsAreJson, Bool.and_eq_true] at json
      exact List.forall_mem_cons.mpr ⟨marked_value json.1, marked_items json.2⟩

theorem marked_members : ∀ {members : Members}, Value.membersAreJson .integers members →
    ∀ m ∈ members, MarkedValue m.2
  | [], _ => fun _ inside => nomatch inside
  | (key, _) :: _, json => by
      cases key with
      | text s =>
          rw [Value.membersAreJson, Bool.and_eq_true] at json
          exact List.forall_mem_cons.mpr ⟨marked_value json.1, marked_members json.2⟩
      | _ => cases json

end

/-- Different JSON values have different literals. -/
theorem literalText_inj {v w : Value} (json : v.isJson .integers) (json' : w.isJson .integers)
    (same : literalText v = literalText w) : v = w := by
  have marked := marked_value json
  have extended : literalText v ++ [] = literalText w ++ [] := by rw [same]
  exact (marked json' .nil .nil extended).1

end Source

end InterfacePlan
