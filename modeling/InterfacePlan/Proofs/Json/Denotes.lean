import InterfacePlan.Proofs.Json.Admitted
import InterfacePlan.Proofs.Json.Objects
import InterfacePlan.Proofs.Json.Tokens
import InterfacePlan.Proofs.Text.Pieces
import Mathlib.Data.List.Forall2

set_option autoImplicit false

namespace InterfacePlan

namespace Json.Strict

/-- A text is read as a value and nothing of what follows is touched. -/
structure Denotes (text : List Char) (v : Value) : Prop where
  begins : ∃ c tail, text = c :: tail ∧ isBlank c = false ∧ c ≠ ']'
  reads : ∀ (fuel : Nat) (path : List PathStep) (rest : List Char), 2 * text.length ≤ fuel →
    Stops rest → readValue fuel path (text ++ rest) = .ok (v, rest)

section

variable (fuel : Nat) (path : List PathStep) (rest : List Char)

theorem readValue_quote : readValue (fuel + 1) path ('"' :: rest) =
    match readText [] rest with
    | .error stop => .error stop
    | .ok (s, rest) => .ok (.text (String.ofList s), rest) := rfl

theorem readValue_bracket : readValue (fuel + 1) path ('[' :: rest) =
    match skipBlank rest with
    | ']' :: rest => .ok (.list [], rest)
    | rest => readItems fuel path 0 [] rest := rfl

theorem readValue_brace : readValue (fuel + 1) path ('\x7b' :: rest) =
    match skipBlank rest with
    | '\x7d' :: rest => .ok (.object [], rest)
    | rest => readMembers fuel path [] rest := rfl

theorem readValue_minus :
    readValue (fuel + 1) path ('-' :: rest) = readNumber path true rest := rfl

end

theorem readValue_blank {gap : List Char} (blank : AllBlank gap) (fuel : Nat)
    (path : List PathStep) (cs : List Char) :
    readValue fuel path (gap ++ cs) = readValue fuel path cs := by
  cases fuel with
  | zero => rfl
  | succ fuel => rw [readValue, readValue, skipBlank_append blank]

theorem Denotes.of_step {c : Char} {tail : List Char} {v : Value}
    (visible : isBlank c = false) (other : c ≠ ']')
    (step : ∀ (fuel : Nat) (path : List PathStep) (rest : List Char), 2 * tail.length < fuel →
      Stops rest → readValue (fuel + 1) path (c :: tail ++ rest) = .ok (v, rest)) :
    Denotes (c :: tail) v := by
  refine ⟨⟨c, tail, rfl, visible, other⟩, ?_⟩
  intro fuel path rest enough stops
  rw [List.length_cons] at enough
  cases fuel with
  | zero => omega
  | succ fuel => exact step fuel path rest (by omega) stops

theorem denotes_null : Denotes ['n', 'u', 'l', 'l'] .null :=
  .of_step rfl (by decide) fun _ _ _ _ _ => rfl

theorem denotes_true : Denotes ['t', 'r', 'u', 'e'] (.bool true) :=
  .of_step rfl (by decide) fun _ _ _ _ _ => rfl

theorem denotes_false : Denotes ['f', 'a', 'l', 's', 'e'] (.bool false) :=
  .of_step rfl (by decide) fun _ _ _ _ _ => rfl

theorem denotes_quote (s : String) : Denotes (Text.quote s.toList) (.text s) := by
  apply Denotes.of_step rfl (by decide)
  intro fuel path rest _ stops
  change readValue (fuel + 1) path (Text.quote s.toList ++ rest) = _
  rw [quote_append, readValue_quote, readText_quote]
  simp only [String.ofList_toList]

theorem visible_of_isDigit {c : Char} (digit : c.isDigit) : isBlank c = false ∧ c ≠ ']' := by
  have apart : ∀ d : Char, d.isDigit = false → c ≠ d := by
    intro d other same
    rw [← same, digit] at other
    cases other
  constructor
  · simp only [isBlank, apart ' ' rfl, apart '\n' rfl, apart '\t' rfl, apart '\r' rfl,
      decide_false, Bool.or_self]
  · exact apart ']' rfl

theorem readValue_digit {c : Char} (digit : c.isDigit) (fuel : Nat) (path : List PathStep)
    (tail : List Char) :
    readValue (fuel + 1) path (c :: tail) = readNumber path false (c :: tail) := by
  rw [readValue, skipBlank_cons (visible_of_isDigit digit).1]
  split
  case h_1 same => cases same
  case h_9 => rfl
  all_goals
    rename_i same
    cases same
    exact absurd digit (by decide)

/-- Integers are read back, or refused for their length alone. -/
theorem readValue_intText (fuel : Nat) (path : List PathStep) (n : Int) {rest : List Char}
    (stops : Stops rest) :
    readValue (fuel + 1) path (Decimal.intText n ++ rest) =
      if (Decimal.intText n).length ≤ Decimal.maxIntegerLength then .ok (.int n, rest)
      else .error (.integerTooLong path) := by
  have number : readValue (fuel + 1) path (Decimal.intText n ++ rest) =
      readNumber path (decide (n < 0)) (Decimal.natText n.natAbs ++ rest) := by
    rcases Decimal.intText_cases n with ⟨negative, same⟩ | ⟨nonnegative, same⟩
    · rw [same, List.cons_append, readValue_minus, decide_eq_true negative]
    · have digit : ∀ c ∈ Decimal.natText n.natAbs, c.isDigit := fun c =>
        Decimal.isDigit_of_mem_natText
      rw [same, decide_eq_false (by omega)]
      cases digits : Decimal.natText n.natAbs with
      | nil => exact absurd digits (Decimal.natText_ne_nil _)
      | cons c tail =>
          rw [digits] at digit
          exact readValue_digit (digit c List.mem_cons_self) fuel path (tail ++ rest)
  rw [number, readNumber_natText path _ _ stops, readInteger_natText]
  split <;> rfl

theorem denotes_int {n : Int}
    (short : (Decimal.intText n).length ≤ Decimal.maxIntegerLength) :
    Denotes (Decimal.intText n) (.int n) := by
  cases text : Decimal.intText n with
  | nil =>
      rcases Decimal.intText_cases n with ⟨-, same⟩ | ⟨-, same⟩
      · rw [same] at text
        cases text
      · rw [same] at text
        exact absurd text (Decimal.natText_ne_nil _)
  | cons c tail =>
      have head : c = '-' ∨ c.isDigit :=
        Decimal.intText_chars (n := n) (text ▸ List.mem_cons_self)
      have visible : isBlank c = false ∧ c ≠ ']' := by
        rcases head with rfl | digit
        · exact ⟨rfl, by decide⟩
        · exact visible_of_isDigit digit
      apply Denotes.of_step visible.1 visible.2
      intro fuel path rest _ stops
      rw [← text, readValue_intText fuel path n stops, if_pos short]

theorem Denotes.begins_append {text : List Char} {v : Value} (denotes : Denotes text v)
    (rest : List Char) :
    ∃ c tail, text ++ rest = c :: tail ∧ isBlank c = false ∧ c ≠ ']' := by
  obtain ⟨c, tail, same, visible, other⟩ := denotes.begins
  exact ⟨c, tail ++ rest, by rw [same, List.cons_append], visible, other⟩

theorem join_begins (separator : List Char) {parts : List (List Char)} {items : List Value}
    (each : List.Forall₂ Denotes parts items) (some : parts ≠ []) (rest : List Char) :
    ∃ c tail, Text.join separator parts ++ rest = c :: tail ∧ isBlank c = false ∧ c ≠ ']' := by
  cases each with
  | nil => exact absurd rfl some
  | @cons part v parts items head tail =>
      by_cases last : parts = []
      · subst last
        exact head.begins_append rest
      · rw [Text.join_cons last, List.append_assoc, List.append_assoc]
        exact head.begins_append _

theorem stops_bracket {after : List Char} (blank : AllBlank after) (rest : List Char) :
    Stops (after ++ ']' :: rest) :=
  blank.stops (.cons (by decide))

theorem stops_comma (rest : List Char) : Stops (',' :: rest) :=
  .cons (by decide)

/-- The loop over items: what was read so far stays in front of what the parts denote. -/
theorem readItems_of_denotes {gap after : List Char} (gapBlank : AllBlank gap)
    (afterBlank : AllBlank after) {parts : List (List Char)} {items : List Value}
    (each : List.Forall₂ Denotes parts items) :
    parts ≠ [] → ∀ (fuel : Nat) (path : List PathStep) (count : Nat) (done : List Value)
      (rest : List Char), 2 * (Text.join (',' :: gap) parts).length + 1 ≤ fuel →
      readItems fuel path count done (Text.join (',' :: gap) parts ++ (after ++ ']' :: rest)) =
        .ok (.list (done.reverse ++ items), rest) := by
  induction each with
  | nil => exact fun some => absurd rfl some
  | @cons part v parts items head tail ih =>
      intro _ fuel path count done rest enough
      cases fuel with
      | zero => omega
      | succ fuel =>
          by_cases last : parts = []
          · subst last
            cases tail
            have read := head.reads fuel (.index count :: path) (after ++ ']' :: rest)
              (Nat.le_of_succ_le_succ enough) (stops_bracket afterBlank rest)
            rw [Text.join, readItems, read]
            simp only [skipBlank_append afterBlank, skipBlank_cons (c := ']') rfl,
              List.reverse_cons]
          · rw [Text.join_cons last] at enough ⊢
            simp only [List.length_append, List.length_cons] at enough
            have rearranged : part ++ ',' :: gap ++ Text.join (',' :: gap) parts ++
                (after ++ ']' :: rest) = part ++ (',' :: (gap ++
                  (Text.join (',' :: gap) parts ++ (after ++ ']' :: rest)))) := by
              simp only [List.append_assoc, List.cons_append]
            have read := head.reads fuel (.index count :: path) (',' :: (gap ++
              (Text.join (',' :: gap) parts ++ (after ++ ']' :: rest)))) (by omega)
              (stops_comma _)
            have others := ih last fuel path (count + 1) (v :: done) rest (by omega)
            obtain ⟨c, text, begins, visible, other⟩ :=
              join_begins (',' :: gap) tail last (after ++ ']' :: rest)
            rw [rearranged, readItems, read]
            rw [begins] at others ⊢
            simp only [skipBlank_cons (c := ',') rfl, skipBlank_append gapBlank,
              skipBlank_cons visible]
            split
            · rename_i closing
              exact absurd (List.cons.inj closing).1 other
            · rw [others, List.reverse_cons, List.append_assoc, List.singleton_append]

theorem denotes_list {before gap after : List Char} (beforeBlank : AllBlank before)
    (gapBlank : AllBlank gap) (afterBlank : AllBlank after) {parts : List (List Char)}
    {items : List Value} (each : List.Forall₂ Denotes parts items) :
    Denotes ('[' :: (before ++ (Text.join (',' :: gap) parts ++ (after ++ [']']))))
      (.list items) := by
  apply Denotes.of_step rfl (by decide)
  intro fuel path rest enough _
  simp only [List.length_append] at enough
  have rearranged : '[' :: (before ++ (Text.join (',' :: gap) parts ++ (after ++ [']']))) ++ rest =
      '[' :: (before ++ (Text.join (',' :: gap) parts ++ (after ++ ']' :: rest))) := by
    simp only [List.cons_append, List.append_assoc, List.nil_append]
  rw [rearranged, readValue_bracket, skipBlank_append beforeBlank]
  by_cases none : parts = []
  · subst none
    cases each
    simp only [Text.join, List.nil_append, skipBlank_append afterBlank,
      skipBlank_cons (c := ']') rfl]
  · have loop := readItems_of_denotes gapBlank afterBlank each none fuel path 0 [] rest (by omega)
    obtain ⟨c, text, begins, visible, other⟩ :=
      join_begins (',' :: gap) each none (after ++ ']' :: rest)
    rw [begins] at loop ⊢
    rw [skipBlank_cons visible]
    split
    · rename_i closing
      exact absurd (List.cons.inj closing).1 other
    · exact loop

/-- A member is written as its quoted name, a colon, and a text that denotes its value. -/
def DenotesMember (part : List Char) (m : Key × Value) : Prop :=
  ∃ (s : String) (gap text : List Char), m.1 = .text s ∧
    part = Text.quote s.toList ++ ':' :: (gap ++ text) ∧ AllBlank gap ∧ Denotes text m.2

theorem DenotesMember.named {parts : List (List Char)} {members : Members}
    (each : List.Forall₂ DenotesMember parts members) : Members.Named members := by
  induction each with
  | nil => exact fun m inside => absurd inside List.not_mem_nil
  | cons head _ ih =>
      intro m inside
      rcases List.mem_cons.mp inside with rfl | inside
      · obtain ⟨s, _, _, name, -⟩ := head
        rw [name]
        rfl
      · exact ih m inside

theorem stops_brace {after : List Char} (blank : AllBlank after) (rest : List Char) :
    Stops (after ++ '\x7d' :: rest) :=
  blank.stops (.cons (by decide))

theorem join_members_begins (separator : List Char) {parts : List (List Char)} {members : Members}
    (each : List.Forall₂ DenotesMember parts members) (some : parts ≠ []) (rest : List Char) :
    ∃ tail, Text.join separator parts ++ rest = '"' :: tail := by
  cases each with
  | nil => exact absurd rfl some
  | @cons part m parts members head tail =>
      obtain ⟨s, gap, text, -, same, -⟩ := head
      by_cases last : parts = []
      · subst last
        exact ⟨_, by rw [Text.join, same, Text.quote]; rfl⟩
      · exact ⟨_, by rw [Text.join_cons last, same, Text.quote]; rfl⟩

/-- What the loop does behind a member: the object ends, or the next member begins. -/
def readMembersAfter (fuel : Nat) (path : List PathStep) (done : Members) (rest : List Char) :
    Read Value :=
  match skipBlank rest with
  | [] => .error .truncated
  | '\x7d' :: rest => .ok (.object (Members.ofList done.reverse), rest)
  | ',' :: rest =>
    match skipBlank rest with
    | '\x7d' :: rest => .error (.malformed .commaBeforeBrace ('\x7d' :: rest) 0)
    | rest => readMembers fuel path done rest
  | rest => .error (.malformed .memberSeparator rest 0)

theorem readMembers_member {part : List Char} {m : Key × Value} (denotes : DenotesMember part m)
    {fuel : Nat} (path : List PathStep) (done : Members) {rest : List Char}
    (enough : 2 * part.length ≤ fuel) (stops : Stops rest) :
    readMembers (fuel + 1) path done (part ++ rest) =
      readMembersAfter fuel path (m :: done) rest := by
  obtain ⟨s, gap, text, name, same, blank, value⟩ := denotes
  obtain ⟨key, v⟩ := m
  cases name
  rw [same, List.length_append, List.length_cons, List.length_append] at enough
  have read := value.reads fuel (.member :: path) rest (by omega) stops
  rw [same, List.append_assoc, quote_append, readMembers, readText_quote]
  simp only [List.cons_append, List.append_assoc, skipBlank_cons (c := ':') rfl,
    readValue_blank blank, read, String.ofList_toList]
  rfl

theorem readMembers_of_denotes {gap after : List Char} (gapBlank : AllBlank gap)
    (afterBlank : AllBlank after) {parts : List (List Char)} {members : Members}
    (each : List.Forall₂ DenotesMember parts members) :
    parts ≠ [] → ∀ (fuel : Nat) (path : List PathStep) (done : Members) (rest : List Char),
      2 * (Text.join (',' :: gap) parts).length + 1 ≤ fuel →
      readMembers fuel path done
          (Text.join (',' :: gap) parts ++ (after ++ '\x7d' :: rest)) =
        .ok (.object (Members.ofList (done.reverse ++ members)), rest) := by
  induction each with
  | nil => exact fun some => absurd rfl some
  | @cons part m parts members head tail ih =>
      intro _ fuel path done rest enough
      cases fuel with
      | zero => omega
      | succ fuel =>
          by_cases last : parts = []
          · subst last
            cases tail
            rw [Text.join, readMembers_member head path done (Nat.le_of_succ_le_succ enough)
              (stops_brace afterBlank rest), readMembersAfter]
            simp only [skipBlank_append afterBlank, skipBlank_cons (c := '\x7d') rfl,
              List.reverse_cons]
          · rw [Text.join_cons last] at enough ⊢
            simp only [List.length_append, List.length_cons] at enough
            have rearranged : part ++ ',' :: gap ++ Text.join (',' :: gap) parts ++
                (after ++ '\x7d' :: rest) = part ++ (',' :: (gap ++
                  (Text.join (',' :: gap) parts ++ (after ++ '\x7d' :: rest)))) := by
              simp only [List.append_assoc, List.cons_append]
            have others := ih last fuel path (m :: done) rest (by omega)
            obtain ⟨text, begins⟩ :=
              join_members_begins (',' :: gap) tail last (after ++ '\x7d' :: rest)
            rw [rearranged, readMembers_member head path done (by omega) (stops_comma _),
              readMembersAfter]
            rw [begins] at others ⊢
            simp only [skipBlank_cons (c := ',') rfl, skipBlank_append gapBlank,
              skipBlank_cons (c := '"') rfl]
            split
            · rename_i closing
              exact absurd (List.cons.inj closing).1 (by decide)
            · rw [others, List.reverse_cons, List.append_assoc, List.singleton_append]

/-- Members in braces, with blanks before and after each. No name may occur twice. -/
theorem denotes_object {before gap after : List Char} (beforeBlank : AllBlank before)
    (gapBlank : AllBlank gap) (afterBlank : AllBlank after) {parts : List (List Char)}
    {members : Members} (each : List.Forall₂ DenotesMember parts members)
    (distinct : (members.map (·.1)).Nodup) :
    Denotes ('\x7b' :: (before ++ (Text.join (',' :: gap) parts ++ (after ++ ['\x7d']))))
      (.object members) := by
  apply Denotes.of_step rfl (by decide)
  intro fuel path rest enough _
  simp only [List.length_append] at enough
  have rearranged :
      '\x7b' :: (before ++ (Text.join (',' :: gap) parts ++ (after ++ ['\x7d']))) ++ rest =
        '\x7b' :: (before ++ (Text.join (',' :: gap) parts ++ (after ++ '\x7d' :: rest))) := by
    simp only [List.cons_append, List.append_assoc, List.nil_append]
  rw [rearranged, readValue_brace, skipBlank_append beforeBlank]
  by_cases none : parts = []
  · subst none
    cases each
    simp only [Text.join, List.nil_append, skipBlank_append afterBlank,
      skipBlank_cons (c := '\x7d') rfl]
  · have loop := readMembers_of_denotes gapBlank afterBlank each none fuel path [] rest (by omega)
    obtain ⟨text, begins⟩ :=
      join_members_begins (',' :: gap) each none (after ++ '\x7d' :: rest)
    rw [List.reverse_nil, List.nil_append,
      Members.ofList_of_nodup (DenotesMember.named each) distinct] at loop
    rw [begins] at loop ⊢
    rw [skipBlank_cons rfl]
    exact loop

theorem decode_of_denotes {text : List Char} {v : Value} (denotes : Denotes text v) :
    decode text = .ok v := by
  have read := denotes.reads (2 * text.length + 2) [] [] (by omega) .nil
  rw [List.append_nil] at read
  rw [decode, readAll, read]
  rfl

end Json.Strict

end InterfacePlan
