import InterfacePlan.Proofs.Source.Congruence

set_option autoImplicit false

namespace InterfacePlan

open Source
open Text (Code codes)

namespace Source

def isTagCode (c : Code) : Bool :=
  c ≠ .char ' ' && c ≠ .char '>'

/-- The tag that a line begins with, without its attributes. -/
def leadingTag (line : List Code) : List Code :=
  match line.dropWhile (· = .char ' ') with
  | .char '<' :: rest => .char '<' :: rest.takeWhile isTagCode
  | _ => []

def outlineLine (line : List Code) : Nat × List Code :=
  ((line.takeWhile (· = .char ' ')).length, leadingTag line)

def outline (source : List Code) : List (Nat × List Code) :=
  (source.splitOn (.char '\n')).map outlineLine

def Element.bare : Element → List Code
  | .opening tag _ | .single tag _ => .char '<' :: codes tag
  | .closing tag => .char '<' :: .char '/' :: codes tag
  | .placeholder _ => []

def Line.bare (line : Line) : Nat × List Code :=
  (rootIndent + indentStep * line.depth, line.element.bare)

theorem isTagCode_of_mem_tag (kind : Kind) : ∀ c ∈ .char '/' :: codes kind.tag, isTagCode c := by
  cases kind <;> exact List.all_eq_true.mp rfl

theorem outlineLine_start {depth : Nat} {element : Element} {kind : Kind}
    {attributes : List Attribute} {c : Code} {tail : List Code} (mark : isTagCode c = false)
    (written : element.text =
      .char '<' :: (codes kind.tag ++ (attributesText attributes ++ c :: tail))) :
    outlineLine (Line.text ⟨depth, element⟩) =
      (rootIndent + indentStep * depth, .char '<' :: codes kind.tag) := by
  obtain ⟨indent, dropped⟩ := indent_of_line depth written
  obtain ⟨d, more, begins, which⟩ := attributesText_begins attributes c tail
  have ended : isTagCode d = false := by
    rcases which with rfl | rfl
    · rfl
    · exact mark
  have letters : ∀ c ∈ codes kind.tag, isTagCode c := fun c inside =>
    isTagCode_of_mem_tag kind c (List.mem_cons_of_mem (.char '/') inside)
  rw [outlineLine, indent, leadingTag, dropped, written, begins]
  simp only [Text.takeWhile_stretch letters ended]

theorem outlineLine_text {line : Line} (isTag : line.element.IsTag) :
    outlineLine line.text = line.bare := by
  obtain ⟨depth, element⟩ := line
  cases isTag with
  | opening kind attributes =>
      rw [outlineLine_start (by decide) (Element.text_opening _ _)]
      rfl
  | single kind attributes =>
      rw [outlineLine_start (by decide) (Element.text_single _ _)]
      rfl
  | closing kind =>
      obtain ⟨indent, dropped⟩ := indent_of_line depth (Element.text_closing kind.tag)
      rw [outlineLine, indent, leadingTag, dropped, Element.text_closing]
      have ended : isTagCode (.char '>') = false := rfl
      simp only [Text.takeWhile_stretch (isTagCode_of_mem_tag kind) ended]
      rfl

theorem length_splitOn (c : Code) (cs : List Code) : (cs.splitOn c).length = cs.count c + 1 := by
  induction cs with
  | nil => rfl
  | cons d cs ih =>
      rw [List.splitOn_cons_eq_if_modifyHead, List.count_cons]
      by_cases same : d = c
      · subst same
        simp only [beq_self_eq_true, ↓reduceIte, List.length_cons, ih]
      · simp only [beq_iff_eq, same, ↓reduceIte, List.length_modifyHead, ih, Nat.add_zero]

/-- How many line breaks stand inside lines. -/
def breaks (lines : List Line) : Nat :=
  (lines.flatMap Line.text).count (.char '\n')

theorem length_pieces (lines : List Line) :
    (lines.flatMap fun line => line.text.splitOn (.char '\n')).length = lines.length + breaks lines := by
  induction lines with
  | nil => rfl
  | cons line rest ih =>
      rw [List.flatMap_cons, List.length_append, length_splitOn, ih, breaks, breaks,
        List.flatMap_cons, List.count_append, List.length_cons]
      omega

theorem breaks_eq_zero_iff {lines : List Line} :
    breaks lines = 0 ↔ ∀ line ∈ lines, .char '\n' ∉ line.text := by
  rw [breaks, List.count_eq_zero]
  simp only [List.mem_flatMap, not_exists, not_and]

end Source

namespace Node

mutual

/-- The kinds of a tree and nothing else; no children are as good as an empty list of them. -/
def bare : Node → Node
  | .mk _ kind _ none => .mk "" kind [] (some [])
  | .mk _ kind _ (some children) => .mk "" kind [] (some (bareAll children))

def bareAll : List Node → List Node
  | [] => []
  | n :: rest => bare n :: bareAll rest

end

mutual

theorem lines_bare : ∀ (n : Node) (depth : Nat),
    (n.bare.lines depth).map Line.bare = (n.lines depth).map Line.bare
  | .mk _ (.unknown name) _ none, depth => rfl
  | .mk _ (.unknown name) _ (some children), depth => rfl
  | .mk _ (.known kind) _ none, depth => by
      rw [bare, lines, lines]
      split <;> rfl
  | .mk _ (.known kind) _ (some children), depth => by
      rw [bare, lines, lines]
      split
      · simp only [List.map_cons, List.map_append, linesAll_bareAll children (depth + 1)]
        rfl
      · rfl

theorem linesAll_bareAll : ∀ (nodes : List Node) (depth : Nat),
    (linesAll depth (bareAll nodes)).map Line.bare = (linesAll depth nodes).map Line.bare
  | [], _ => rfl
  | n :: rest, depth => by
      rw [bareAll, linesAll, linesAll, List.map_append, List.map_append, lines_bare n depth,
        linesAll_bareAll rest depth]

end

end Node

/-- No name of a prop that shows in the source breaks its line. -/
def Plan.Unbroken (plan : Plan) : Prop :=
  ∀ e ∈ plan.root.widget.1.elim [] (Widget.walk 0), ∀ m ∈ e.2.props,
    m.1 ≠ .text "id" → (literal? m.2).isSome → .char '\n' ∉ m.1.plain

theorem Shows.exists_line {depth : Nat} {w : Widget} {lines : List Line}
    (shows : Shows depth w lines) {e : Nat × Widget} (walked : e ∈ w.walk depth) :
    ∃ line ∈ lines, line.element.attributes = attributes e.2.props := by
  have found : (e.1, e.2.kind.tag, attributes e.2.props) ∈ lines.filterMap Line.start? := by
    rw [shows.starts]
    exact List.mem_map_of_mem (f := fun e => (e.1, e.2.kind.tag, attributes e.2.props)) walked
  obtain ⟨⟨d, element⟩, inside, start⟩ := List.mem_filterMap.mp found
  refine ⟨⟨d, element⟩, inside, ?_⟩
  cases element with
  | opening tag as =>
      cases start
      rfl
  | single tag as =>
      cases start
      rfl
  | closing tag => cases start
  | placeholder kind => cases start

namespace Plan

variable {plan : Plan}

theorem isTag_of_known (known : plan.root.Known) :
    ∀ line ∈ plan.root.lines 0, line.element.IsTag := by
  obtain ⟨w, shown⟩ := Node.shownBy_of_known known
  exact (shown.lines 0).isTag

/-- Names without line breaks are all that lines without line breaks need. -/
theorem unbroken_iff (known : plan.root.Known) :
    plan.Unbroken ↔ ∀ line ∈ plan.root.lines 0, .char '\n' ∉ line.text := by
  obtain ⟨w, shown⟩ := Node.shownBy_of_known known
  have shows := shown.lines 0
  have literals : ∀ line ∈ plan.root.lines 0, ∀ a ∈ line.element.attributes,
      Sealed a.literal := by
    intro line inside a held
    obtain ⟨e, -, own⟩ := shows.mem_attributes inside held
    exact sealed_of_mem_attributes own
  rw [Unbroken, shown.widget]
  constructor
  · intro unbroken line inside broken
    obtain ⟨a, held, newline⟩ :=
      (newline_mem_text (shows.isTag line inside) (literals line inside)).mp broken
    obtain ⟨e, walked, own⟩ := shows.mem_attributes inside held
    obtain ⟨m, member, other, literal, name⟩ := mem_attributes_iff.mp own
    apply unbroken e walked m member other
    · rw [literal]
      rfl
    · rwa [name]
  · intro whole e walked m member other some newline
    obtain ⟨text, literal⟩ := Option.isSome_iff_exists.mp some
    obtain ⟨line, inside, own⟩ := shows.exists_line walked
    apply whole line inside
    rw [newline_mem_text (shows.isTag line inside) (literals line inside), own]
    exact ⟨⟨m.1.plain, text⟩, mem_attributes_iff.mpr ⟨m, member, other, literal, rfl⟩, newline⟩

theorem outline_of_unbroken (known : plan.root.Known) (unbroken : plan.Unbroken) :
    outline (code plan) = headLines.map outlineLine ++ (plan.root.lines 0).map Line.bare ++
      [endLine, [.char '\x7d'], []].map outlineLine := by
  have whole := (unbroken_iff known).mp unbroken
  have pieces : ((plan.root.lines 0).flatMap fun line => line.text.splitOn (.char '\n')).map outlineLine =
      (plan.root.lines 0).map Line.bare := by
    rw [List.map_flatMap, List.map_eq_flatMap, List.flatMap_def, List.flatMap_def]
    congr 1
    apply List.map_congr_left
    intro line inside
    rw [List.splitOn_eq_singleton (whole line inside), List.map_singleton,
      outlineLine_text (isTag_of_known known line inside)]
  rw [outline, splitOn_code, List.map_append, List.map_append, pieces]

theorem length_outline (plan : Plan) :
    (outline (code plan)).length =
      headLines.length + ((plan.root.lines 0).length + breaks (plan.root.lines 0)) + 3 := by
  rw [outline, List.length_map, splitOn_code, List.length_append, List.length_append,
    length_pieces]
  rfl

/-- Of two plans of the same kinds, position by position, one of which is unbroken, the sources have
the same outline exactly when the other is unbroken too. Values never matter, nor do names that do
not break their lines. -/
theorem outline_eq_iff {raw other : Value} {plan reference : Plan}
    (read : validate raw = .ok plan) (readOther : validate other = .ok reference)
    (same : plan.root.bare = reference.root.bare) (unbroken : reference.Unbroken) :
    outline (code plan) = outline (code reference) ↔ plan.Unbroken := by
  have known := known_of_validate read
  have knownOther := known_of_validate readOther
  have kinds : (plan.root.lines 0).map Line.bare = (reference.root.lines 0).map Line.bare := by
    rw [← Node.lines_bare plan.root 0, same, Node.lines_bare]
  constructor
  · intro outlines
    have lengths := congrArg List.length outlines
    have counts := congrArg List.length kinds
    have none := breaks_eq_zero_iff.mpr ((unbroken_iff knownOther).mp unbroken)
    rw [length_outline, length_outline, none] at lengths
    rw [List.length_map, List.length_map] at counts
    have noBreaks : breaks (plan.root.lines 0) = 0 := by omega
    exact (unbroken_iff known).mpr (breaks_eq_zero_iff.mp noBreaks)
  · intro whole
    rw [outline_of_unbroken known whole, outline_of_unbroken knownOther unbroken, kinds]

def buttonPlan (name : String) : Value :=
  .object
    [(.text "layout", .object [(.text "layoutStyle", .text "custom")]),
      (.text "root", .object
        [(.text "id", .text "r"), (.text "kind", .text "page"),
          (.text "children", .list
            [.object
              [(.text "id", .text "b"), (.text "kind", .text "button"),
                (.text "props", .object [(.text name, .text "Go")])]])])]

/-- A name with a line break writes an element of its own. -/
theorem outline_eq_iff_break : ∃ plan reference,
    validate (buttonPlan "x />\n      <Modal y") = .ok plan ∧
    validate (buttonPlan "label") = .ok reference ∧ plan.root.bare = reference.root.bare ∧
    reference.Unbroken ∧ ¬ plan.Unbroken ∧ outline (code plan) ≠ outline (code reference) := by
  obtain ⟨plan, reference, read, readOther, same, unbroken, broken⟩ : ∃ plan reference,
      validate (buttonPlan "x />\n      <Modal y") = .ok plan ∧
      validate (buttonPlan "label") = .ok reference ∧ plan.root.bare = reference.root.bare ∧
      reference.Unbroken ∧ ¬ plan.Unbroken := by
    refine ⟨_, _, rfl, rfl, rfl, ?_, ?_⟩ <;> unfold Unbroken <;> decide
  refine ⟨plan, reference, read, readOther, same, unbroken, broken, ?_⟩
  intro outlines
  exact broken ((outline_eq_iff read readOther same unbroken).mp outlines)

end Plan

end InterfacePlan
