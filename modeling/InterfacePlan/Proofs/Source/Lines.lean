import InterfacePlan.Proofs.Source.Literal
import InterfacePlan.Proofs.Text.Codes
import InterfacePlan.Source.Component

set_option autoImplicit false

namespace InterfacePlan.Source

open Text (Code codes)

def isLetter : Code → Bool
  | .char c => c.isAlpha
  | .surrogate _ => false

/-- An attribute and what follows it: a name up to an equals sign, and a literal in braces. -/
def readAttribute? (cs : List Code) : Option (Attribute × List Code) :=
  match cs.dropWhile (· ≠ .char '=') with
  | .char '=' :: .char '\x7b' :: value =>
    (splitLiteral (.inside 0) value).map fun r => (⟨cs.takeWhile (· ≠ .char '='), r.1⟩, r.2)
  | _ => none

theorem length_of_readAttribute? {cs more : List Code} {a : Attribute}
    (read : readAttribute? cs = some (a, more)) : more.length < cs.length := by
  have dropped := (List.dropWhile_suffix (p := fun c => decide (c ≠ .char '=')) (l := cs)).length_le
  rw [readAttribute?] at read
  split at read
  · rename_i value named
    obtain ⟨r, split, same⟩ := Option.map_eq_some_iff.mp read
    cases same
    have shorter := length_of_splitLiteral split
    rw [named, List.length_cons, List.length_cons] at dropped
    omega
  · cases read

/-- Attributes up to the end of a tag, and whether the tag closes itself. -/
def readAttributes : List Code → Option (List Attribute × Bool)
  | [.char '>'] => some ([], false)
  | [.char ' ', .char '/', .char '>'] => some ([], true)
  | .char ' ' :: rest =>
    match _read : readAttribute? rest with
    | some (a, more) => (readAttributes more).map fun r => (a :: r.1, r.2)
    | none => none
  | _ => none
termination_by cs => cs.length
decreasing_by exact Nat.lt_succ_of_lt (length_of_readAttribute? _read)

def readLine? (cs : List Code) : Option Line :=
  let depth := ((cs.takeWhile (· = .char ' ')).length - rootIndent) / indentStep
  match cs.dropWhile (· = .char ' ') with
  | .char '<' :: .char '/' :: rest =>
    if rest.dropWhile isLetter = [.char '>'] then
      some ⟨depth, .closing (String.ofList (Text.chars (rest.takeWhile isLetter)))⟩
    else none
  | .char '<' :: rest =>
    let tag := String.ofList (Text.chars (rest.takeWhile isLetter))
    (readAttributes (rest.dropWhile isLetter)).map fun r =>
      ⟨depth, if r.2 then .single tag r.1 else .opening tag r.1⟩
  | _ => none

/-- An attribute that is told from what is around it. -/
structure Readable (a : Attribute) : Prop where
  name : .char '=' ∉ a.name
  literal : Sealed a.literal

theorem takeWhile_name {name : List Code} (noEquals : .char '=' ∉ name) (rest : List Code) :
    (name ++ .char '=' :: rest).takeWhile (· ≠ .char '=') = name ∧
      (name ++ .char '=' :: rest).dropWhile (· ≠ .char '=') = .char '=' :: rest := by
  have all : ∀ c ∈ name, decide (c ≠ .char '=') = true := by
    intro c inside
    apply decide_eq_true
    rintro rfl
    exact noEquals inside
  exact ⟨Text.takeWhile_stretch all (by decide) rest, Text.dropWhile_stretch all (by decide) rest⟩

theorem readAttribute?_text {a : Attribute} (readable : Readable a) (rest : List Code) :
    readAttribute? (a.text ++ rest) = some (a, rest) := by
  have written : a.text ++ rest =
      a.name ++ .char '=' :: .char '\x7b' :: (a.literal ++ .char '\x7d' :: rest) := by
    simp only [Attribute.text, List.append_assoc, List.cons_append, List.nil_append]
  obtain ⟨taken, dropped⟩ := takeWhile_name readable.name
    (.char '\x7b' :: (a.literal ++ .char '\x7d' :: rest))
  rw [written, readAttribute?, dropped, taken]
  simp only [splitLiteral_of_transparent readable.literal.transparent, Option.map_some]

theorem readAttributes_cons {a : Attribute} (readable : Readable a) (rest : List Code) :
    readAttributes (.char ' ' :: (a.text ++ rest)) =
      (readAttributes rest).map fun r => (a :: r.1, r.2) := by
  have equals : .char '=' ∈ a.text ++ rest := by
    simp [Attribute.text]
  rw [readAttributes]
  · rw [readAttribute?_text readable]
  · intro closing
    rw [closing] at equals
    exact absurd equals (by decide)

theorem readAttributes_text {attributes : List Attribute}
    (readable : ∀ a ∈ attributes, Readable a) :
    readAttributes (attributesText attributes ++ [.char '>']) = some (attributes, false) ∧
      readAttributes (attributesText attributes ++ [.char ' ', .char '/', .char '>']) =
        some (attributes, true) := by
  induction attributes with
  | nil => exact ⟨by rw [attributesText, List.flatMap_nil, List.nil_append, readAttributes],
      by rw [attributesText, List.flatMap_nil, List.nil_append, readAttributes]⟩
  | cons a rest ih =>
      have first := readable a List.mem_cons_self
      have others := ih fun b inside => readable b (List.mem_cons_of_mem a inside)
      have written : ∀ tail, attributesText (a :: rest) ++ tail =
          .char ' ' :: (a.text ++ (attributesText rest ++ tail)) := by
        intro tail
        simp only [attributesText, List.flatMap_cons, List.cons_append, List.append_assoc]
      constructor
      · rw [written, readAttributes_cons first, others.1]
        rfl
      · rw [written, readAttributes_cons first, others.2]
        rfl

def Element.attributes : Element → List Attribute
  | .opening _ attributes | .single _ attributes => attributes
  | .closing _ | .placeholder _ => []

/-- What is not a placeholder: a tag of the vocabulary. -/
inductive Element.IsTag : Element → Prop
  | opening (kind : Kind) (attributes : List Attribute) : IsTag (.opening kind.tag attributes)
  | closing (kind : Kind) : IsTag (.closing kind.tag)
  | single (kind : Kind) (attributes : List Attribute) : IsTag (.single kind.tag attributes)

namespace Element

theorem text_opening (tag : String) (attributes : List Attribute) :
    (opening tag attributes).text =
      .char '<' :: (codes tag ++ (attributesText attributes ++ [.char '>'])) := by
  simp only [text, List.cons_append, List.append_assoc]

theorem text_single (tag : String) (attributes : List Attribute) :
    (single tag attributes).text =
      .char '<' :: (codes tag ++
        (attributesText attributes ++ [.char ' ', .char '/', .char '>'])) := by
  simp only [text, List.cons_append, List.append_assoc]

theorem text_closing (tag : String) :
    (closing tag).text = .char '<' :: ((.char '/' :: codes tag) ++ [.char '>']) := by
  simp only [text, List.cons_append]

end Element

theorem letters_of_tag (kind : Kind) :
    ∃ c letters, codes kind.tag = c :: letters ∧ ∀ d ∈ c :: letters, isLetter d := by
  cases kind <;> exact ⟨_, _, rfl, List.all_eq_true.mp rfl⟩

theorem chars_codes (s : String) : String.ofList (Text.chars (codes s)) = s := by
  rw [codes, Text.chars_map_char, String.ofList_toList]

theorem indent_of_visible (depth : Nat) {element : Element} {c : Code} {tail : List Code}
    (visible : decide (c = .char ' ') = false) (begins : element.text = c :: tail) :
    ((Line.text ⟨depth, element⟩).takeWhile (· = .char ' ')).length = rootIndent + indentStep * depth ∧
      (Line.text ⟨depth, element⟩).dropWhile (· = .char ' ') = element.text := by
  have blank : ∀ c ∈ List.replicate (rootIndent + indentStep * depth) (Code.char ' '),
      decide (c = .char ' ') = true := by
    intro c inside
    exact decide_eq_true (List.eq_of_mem_replicate inside)
  rw [Line.text, begins, Text.takeWhile_stretch blank visible, Text.dropWhile_stretch blank visible]
  exact ⟨List.length_replicate, rfl⟩

theorem indent_of_line (depth : Nat) {element : Element} {tail : List Code}
    (tag : element.text = .char '<' :: tail) :
    ((Line.text ⟨depth, element⟩).takeWhile (· = .char ' ')).length = rootIndent + indentStep * depth ∧
      (Line.text ⟨depth, element⟩).dropWhile (· = .char ' ') = element.text :=
  indent_of_visible depth (by decide) tag

theorem depth_of_indent (depth : Nat) :
    (rootIndent + indentStep * depth - rootIndent) / indentStep = depth := by
  rw [Nat.add_sub_cancel_left]
  exact Nat.mul_div_cancel_left depth (by decide)

theorem takeWhile_tag (kind : Kind) {c : Code} (mark : isLetter c = false) (rest : List Code) :
    (codes kind.tag ++ c :: rest).takeWhile isLetter = codes kind.tag ∧
      (codes kind.tag ++ c :: rest).dropWhile isLetter = c :: rest := by
  obtain ⟨d, letters, same, all⟩ := letters_of_tag kind
  rw [same]
  exact ⟨Text.takeWhile_stretch all mark rest, Text.dropWhile_stretch all mark rest⟩

theorem attributesText_begins (attributes : List Attribute) (c : Code) (tail : List Code) :
    ∃ d more, attributesText attributes ++ c :: tail = d :: more ∧ (d = .char ' ' ∨ d = c) := by
  cases attributes with
  | nil => exact ⟨c, tail, rfl, .inr rfl⟩
  | cons a rest => exact ⟨.char ' ', _, rfl, .inl rfl⟩

theorem readLine?_start {depth : Nat} {element : Element} {kind : Kind}
    {attributes : List Attribute} {c : Code} {tail : List Code} (mark : isLetter c = false)
    (written : element.text =
      .char '<' :: (codes kind.tag ++ (attributesText attributes ++ c :: tail))) :
    readLine? (Line.text ⟨depth, element⟩) =
      (readAttributes (attributesText attributes ++ c :: tail)).map fun r =>
        ⟨depth, if r.2 then .single kind.tag r.1 else .opening kind.tag r.1⟩ := by
  obtain ⟨indent, dropped⟩ := indent_of_line depth written
  obtain ⟨d, more, begins, which⟩ := attributesText_begins attributes c tail
  have other : isLetter d = false := by
    rcases which with rfl | rfl
    · rfl
    · exact mark
  obtain ⟨first, letters, same, all⟩ := letters_of_tag kind
  obtain ⟨taken, left⟩ := takeWhile_tag kind other more
  rw [readLine?, indent, dropped, depth_of_indent, written, begins]
  split
  · rename_i closing
    rw [same, List.cons_append] at closing
    have slash : first = .char '/' := (List.cons.inj (List.cons.inj closing).2).1
    have letter := all first List.mem_cons_self
    rw [slash] at letter
    exact absurd letter (by decide)
  · rename_i starting
    have rest := (List.cons.inj starting).2
    rw [← rest, taken, left, chars_codes]
  · rename_i noTag
    exact absurd rfl (noTag _)

/-- Every tag of the vocabulary is read back with its depth and its attributes. -/
theorem readLine?_text {depth : Nat} {element : Element} (isTag : element.IsTag)
    (readable : ∀ a ∈ element.attributes, Readable a) :
    readLine? (Line.text ⟨depth, element⟩) = some ⟨depth, element⟩ := by
  cases isTag with
  | opening kind attributes =>
      have each : ∀ a ∈ attributes, Readable a := readable
      rw [readLine?_start (by decide) (Element.text_opening _ _), (readAttributes_text each).1]
      rfl
  | single kind attributes =>
      have each : ∀ a ∈ attributes, Readable a := readable
      rw [readLine?_start (by decide) (Element.text_single _ _), (readAttributes_text each).2]
      rfl
  | closing kind =>
      obtain ⟨indent, dropped⟩ := indent_of_line depth (Element.text_closing kind.tag)
      obtain ⟨taken, left⟩ := takeWhile_tag kind (c := .char '>') (by decide) []
      rw [readLine?, indent, dropped, depth_of_indent, Element.text_closing]
      simp only [List.cons_append, taken, left, ↓reduceIte, chars_codes]

/-- A tag stands on one line unless the name of one of its attributes breaks it. -/
theorem newline_mem_text {line : Line} (isTag : line.element.IsTag)
    (literals : ∀ a ∈ line.element.attributes, Sealed a.literal) :
    Code.char '\n' ∈ line.text ↔ ∃ a ∈ line.element.attributes, Code.char '\n' ∈ a.name := by
  have tags : ∀ kind : Kind, Code.char '\n' ∉ codes kind.tag := by
    intro kind
    cases kind <;> decide
  have indent : ∀ n, Code.char '\n' ∉ List.replicate n (Code.char ' ') := by
    intro n inside
    exact absurd (List.eq_of_mem_replicate inside) (by decide)
  have each : ∀ a ∈ line.element.attributes,
      Code.char '\n' ∈ .char ' ' :: a.text ↔ Code.char '\n' ∈ a.name := by
    intro a held
    have literal : Code.char '\n' ∉ a.literal := fun inside =>
      absurd ((literals a held).visible _ inside) (by decide)
    simp [Attribute.text, literal]
  have together : Code.char '\n' ∈ attributesText line.element.attributes ↔
      ∃ a ∈ line.element.attributes, Code.char '\n' ∈ a.name := by
    rw [attributesText, List.mem_flatMap]
    constructor
    · rintro ⟨a, held, inside⟩
      exact ⟨a, held, (each a held).mp inside⟩
    · rintro ⟨a, held, inside⟩
      exact ⟨a, held, (each a held).mpr inside⟩
  obtain ⟨depth, element⟩ := line
  cases isTag with
  | opening kind attributes =>
      rw [← together]
      simp [Line.text, Element.text, Element.attributes, indent, tags]
  | single kind attributes =>
      rw [← together]
      simp [Line.text, Element.text, Element.attributes, indent, tags]
  | closing kind => simp [Line.text, Element.text, Element.attributes, indent, tags]

/-- The lines before the tree, the last of which opens the parenthesis it stands in. -/
def headLines : List (List Code) :=
  ((imports ++ opening.dropLast).map .char).splitOn (.char '\n')

def returnLine : List Code :=
  codes "  return ("

def endLine : List Code :=
  codes "  );"

theorem dropWhile_headLines : headLines.dropWhile (· ≠ returnLine) = [returnLine] := by
  decide

theorem lines_ne_nil (n : Node) (depth : Nat) : n.lines depth ≠ [] := by
  obtain ⟨id, kind | name, props, - | children⟩ := n
  · rw [Node.lines]
    split <;> exact List.cons_ne_nil _ _
  · rw [Node.lines]
    split <;> simp
  · exact List.cons_ne_nil _ _
  · exact List.cons_ne_nil _ _

/-- The source line by line: the tree's lines stand between fixed ones, each split further where it
holds a line break itself. -/
theorem splitOn_code (plan : Plan) :
    (code plan).splitOn (.char '\n') =
      headLines ++ (plan.root.lines 0).flatMap (fun line => line.text.splitOn (.char '\n')) ++
        [endLine, [.char '\x7d'], []] := by
  have written : code plan = (imports ++ opening.dropLast).map .char ++ .char '\n' ::
      (treeText plan.root ++ .char '\n' :: (closing.drop 1).map .char) := by
    have openingIs : opening = opening.dropLast ++ ['\n'] := by decide
    have closingIs : closing = '\n' :: closing.drop 1 := by decide
    rw [code, body, openingIs, closingIs]
    simp
  have some : (plan.root.lines 0).map Line.text ≠ [] := by
    rw [ne_eq, List.map_eq_nil_iff]
    exact lines_ne_nil plan.root 0
  have last : ((closing.drop 1).map Code.char).splitOn (.char '\n') =
      [endLine, [.char '\x7d'], []] := by decide
  rw [written, List.splitOn_append_cons_self, List.splitOn_append_cons_self, last, treeText,
    Text.splitOn_join (.char '\n') some, List.flatMap_map, headLines, List.append_assoc]

/-- The lines between the one that opens the parenthesis and the one that closes it. -/
def treeLines (source : List Code) : List (List Code) :=
  (((source.splitOn (.char '\n')).dropWhile (· ≠ returnLine)).drop 1).takeWhile (· ≠ endLine)

theorem text_ne_endLine (line : Line) : line.text ≠ endLine := by
  intro same
  have indent : rootIndent + indentStep * line.depth = indentStep * line.depth + 1 + 1 + 1 + 1 :=
    Nat.add_comm _ _
  have apart := congrArg (fun cs => cs[2]?) same
  simp only [Line.text, indent, List.replicate_succ] at apart
  cases apart

theorem treeLines_code {plan : Plan}
    (whole : ∀ line ∈ plan.root.lines 0, .char '\n' ∉ line.text) :
    treeLines (code plan) = (plan.root.lines 0).map Line.text := by
  have pieces : (plan.root.lines 0).flatMap (fun line => line.text.splitOn (.char '\n')) =
      (plan.root.lines 0).map Line.text := by
    rw [List.map_eq_flatMap, List.flatMap_def, List.flatMap_def]
    congr 1
    exact List.map_congr_left fun line inside => List.splitOn_eq_singleton (whole line inside)
  have all : ∀ text ∈ (plan.root.lines 0).map Line.text, decide (text ≠ endLine) = true := by
    intro text inside
    obtain ⟨line, -, rfl⟩ := List.mem_map.mp inside
    exact decide_eq_true (text_ne_endLine line)
  rw [treeLines, splitOn_code, pieces, List.append_assoc, List.dropWhile_append,
    dropWhile_headLines]
  simp only [List.isEmpty_cons, Bool.false_eq_true, ↓reduceIte, List.singleton_append,
    List.drop_one, List.tail_cons]
  exact Text.takeWhile_stretch all (by decide) _

end InterfacePlan.Source
