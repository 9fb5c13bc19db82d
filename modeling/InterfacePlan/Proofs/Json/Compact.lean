import InterfacePlan.Json.Encode
import InterfacePlan.Proofs.Json.Admitted
import InterfacePlan.Proofs.Json.Depth
import InterfacePlan.Proofs.Text.Codes
import InterfacePlan.Proofs.Text.Digits
import InterfacePlan.Proofs.Text.Pieces

set_option autoImplicit false

namespace InterfacePlan

namespace Text

/-- How many bytes a text has in UTF-8. -/
def bytes (text : List Char) : Nat :=
  (String.ofList text).utf8ByteSize

@[simp] theorem bytes_nil : bytes [] = 0 := rfl

@[simp] theorem bytes_append (first second : List Char) :
    bytes (first ++ second) = bytes first + bytes second := by
  rw [bytes, String.ofList_append, String.utf8ByteSize_append]
  rfl

theorem bytes_cons (c : Char) (rest : List Char) : bytes (c :: rest) = bytes [c] + bytes rest :=
  bytes_append [c] rest

theorem bytes_of_ascii {text : List Char} (ascii : ∀ c ∈ text, c.toNat < 128) :
    bytes text = text.length := by
  induction text with
  | nil => rfl
  | cons c rest ih =>
      rw [List.forall_mem_cons] at ascii
      have small : c.val ≤ 0x7f := UInt32.le_iff_toNat_le.mpr (Nat.le_of_lt_succ ascii.1)
      have one : bytes [c] = 1 := by
        rw [bytes, ← String.singleton_eq_ofList, String.utf8ByteSize_singleton, Char.utf8Size]
        exact if_pos small
      rw [bytes_cons, one, ih ascii.2, List.length_cons, Nat.add_comm]

theorem bytes_join (separator : List Char) (parts : List (List Char)) :
    bytes (join separator parts) = bytes parts.flatten + (parts.length - 1) * bytes separator := by
  induction parts with
  | nil => simp [join]
  | cons part rest ih =>
      cases rest with
      | nil => simp [join]
      | cons next others =>
          have step : join separator (part :: next :: others) =
              part ++ separator ++ join separator (next :: others) := rfl
          have whole : bytes (part :: next :: others).flatten =
              bytes part + bytes (next :: others).flatten := bytes_append part _
          have more : (part :: next :: others).length - 1 = (next :: others).length - 1 + 1 := rfl
          rw [step, more, whole, bytes_append, bytes_append, ih, Nat.add_mul]
          omega

theorem bytes_enclosed (left right : Char) (gap : List Char) (parts : List (List Char)) :
    bytes (left :: join (',' :: gap) parts ++ [right]) =
      bytes [left] + bytes [right] + bytes parts.flatten + (parts.length - 1) * (1 + bytes gap) := by
  have comma : bytes (',' :: gap) = 1 + bytes gap := bytes_cons ',' gap
  rw [List.cons_append, bytes_cons, bytes_append, bytes_join, comma]
  omega

end Text

namespace Value

mutual

/-- The text of a JSON value on one line, with a gap after each comma and each colon. -/
def line (floats : FloatStyle) (gap : List Char) : Value → List Char
  | .null => ['n', 'u', 'l', 'l']
  | .bool b => Json.Plain.boolText b
  | .int n => Decimal.intText n
  | .float x => floats.write x
  | .text s => Text.quote s.toList
  | .list items => '[' :: Text.join (',' :: gap) (lineItems floats gap items) ++ [']']
  | .object members =>
    '\x7b' :: Text.join (',' :: gap) (lineMembers floats gap members) ++ ['\x7d']
  | .tuple _ | .illFormed _ | .foreign => []

def lineItems (floats : FloatStyle) (gap : List Char) : List Value → List (List Char)
  | [] => []
  | v :: rest => v.line floats gap :: lineItems floats gap rest

def lineMembers (floats : FloatStyle) (gap : List Char) : Members → List (List Char)
  | [] => []
  | (.text key, v) :: rest =>
    (Text.quote key.toList ++ ':' :: (gap ++ v.line floats gap)) :: lineMembers floats gap rest
  | _ :: rest => lineMembers floats gap rest

end

/-- The text of a JSON value without any blank. -/
def compact (floats : FloatStyle) (v : Value) : List Char :=
  v.line floats []

mutual

/-- How many commas and colons there are in the text of a JSON value, those in texts apart. -/
def separators : Value → Nat
  | .list items => items.length - 1 + separatorsInItems items
  | .object members => members.length - 1 + separatorsInMembers members
  | _ => 0

def separatorsInItems : List Value → Nat
  | [] => 0
  | v :: rest => v.separators + separatorsInItems rest

def separatorsInMembers : Members → Nat
  | [] => 0
  | (_, v) :: rest => 1 + v.separators + separatorsInMembers rest

end

variable (floats : FloatStyle) (gap : List Char)

theorem length_lineItems (items : List Value) :
    (lineItems floats gap items).length = items.length := by
  induction items with
  | nil => rfl
  | cons v rest ih => rw [lineItems, List.length_cons, List.length_cons, ih]

theorem length_lineMembers {numbers : Json.Numbers} {members : Members}
    (json : membersAreJson numbers members) :
    (lineMembers floats gap members).length = members.length := by
  induction members with
  | nil => rfl
  | cons m rest ih =>
      obtain ⟨key, v⟩ := m
      cases key with
      | text s =>
          rw [membersAreJson, Bool.and_eq_true] at json
          rw [lineMembers, List.length_cons, List.length_cons, ih json.2]
      | _ => cases json

mutual

/-- A gap is paid for at each separator. -/
theorem bytes_line {numbers : Json.Numbers} : ∀ {v : Value}, v.isJson numbers →
    Text.bytes (v.line floats gap) = Text.bytes (v.compact floats) + v.separators * Text.bytes gap
  | .null, _ | .bool _, _ | .int _, _ | .float _, _ | .text _, _ => by simp [compact, line, separators]
  | .list items, json => by
      have inside := bytes_lineItems json
      rw [compact, line, line, separators, Text.bytes_enclosed, Text.bytes_enclosed,
        length_lineItems, length_lineItems, inside, Nat.add_mul, Nat.mul_add]
      simp only [Text.bytes_nil]
      omega
  | .object members, json => by
      have json := (isJson_object.mp json).2
      have inside := bytes_lineMembers json
      rw [compact, line, line, separators, Text.bytes_enclosed, Text.bytes_enclosed,
        length_lineMembers _ _ json, length_lineMembers _ _ json, inside, Nat.add_mul, Nat.mul_add]
      simp only [Text.bytes_nil]
      omega

theorem bytes_lineItems {numbers : Json.Numbers} : ∀ {items : List Value},
    itemsAreJson numbers items →
    Text.bytes (lineItems floats gap items).flatten =
      Text.bytes (lineItems floats [] items).flatten + separatorsInItems items * Text.bytes gap
  | [], _ => by simp [lineItems, separatorsInItems]
  | v :: rest, json => by
      rw [itemsAreJson, Bool.and_eq_true] at json
      have first : Text.bytes (v.line floats gap) =
        Text.bytes (v.line floats []) + v.separators * Text.bytes gap := bytes_line json.1
      have others := bytes_lineItems json.2
      rw [lineItems, lineItems, separatorsInItems, List.flatten_cons, List.flatten_cons,
        Text.bytes_append, Text.bytes_append, Nat.add_mul]
      omega

theorem bytes_lineMembers {numbers : Json.Numbers} : ∀ {members : Members},
    membersAreJson numbers members →
    Text.bytes (lineMembers floats gap members).flatten =
      Text.bytes (lineMembers floats [] members).flatten +
        separatorsInMembers members * Text.bytes gap
  | [], _ => by simp [lineMembers, separatorsInMembers]
  | (key, v) :: rest, json => by
      cases key with
      | text s =>
          rw [membersAreJson, Bool.and_eq_true] at json
          have first : Text.bytes (v.line floats gap) =
            Text.bytes (v.line floats []) + v.separators * Text.bytes gap := bytes_line json.1
          have others := bytes_lineMembers json.2
          have colon : ∀ rest, Text.bytes (':' :: rest) = 1 + Text.bytes rest := Text.bytes_cons ':'
          rw [lineMembers, lineMembers, separatorsInMembers, List.flatten_cons, List.flatten_cons]
          simp only [Text.bytes_append, colon, Nat.add_mul, Nat.one_mul, Text.bytes_nil]
          omega
      | _ => cases json

end

end Value

namespace Json

/-- The integers of 64 bits, and all floats. -/
def Numbers.sixtyFour : Numbers :=
  ⟨Dense.fits, fun _ => true⟩

namespace Dense

theorem tooDeep_of_lt {level : Nat} (shallow : level < 254) : tooDeep level = false := by
  rw [tooDeep, decide_eq_false_iff_not]
  omega

theorem enclose_false (level : Nat) (left right : Char) (parts : List (List Char)) :
    enclose false level left right parts = left :: Text.join [','] parts ++ [right] := by
  cases parts with
  | nil => rfl
  | cons part rest => simp [enclose, breakLine]

-- Each container inside is one level further in and one less deep, which keeps the bound.
mutual

/-- The dense writer takes a JSON value that does not nest too deep if and only if its integers fit into
64 bits. -/
theorem write_eq : ∀ {v : Value} {level : Nat}, v.isJson .any → level + v.depth < 254 →
    write false level v = if v.isJson .sixtyFour then some (v.compact floats) else none
  | .null, _, _, _ | .bool true, _, _, _ | .bool false, _, _, _ | .float _, _, _, _
  | .text _, _, _, _ => rfl
  | .int n, _, _, _ => rfl
  | .list items, level, json, shallow => by
      have each := writeItems_eq json shallow
      have room : level < 254 := by omega
      rw [write, tooDeep_of_lt room, each, Value.isJson]
      cases Value.itemsAreJson .sixtyFour items with
      | false => rfl
      | true => exact congrArg some (enclose_false level '[' ']' _)
  | .object members, level, json, shallow => by
      obtain ⟨distinct, json⟩ := Value.isJson_object.mp json
      have each := writeMembers_eq json shallow
      have room : level < 254 := by omega
      rw [write, tooDeep_of_lt room, each, Value.isJson, decide_eq_true distinct, Bool.true_and]
      cases Value.membersAreJson .sixtyFour members with
      | false => rfl
      | true => exact congrArg some (enclose_false level '\x7b' '\x7d' _)

theorem writeItems_eq : ∀ {items : List Value} {level : Nat}, Value.itemsAreJson .any items →
    level + Value.depthItems items < 254 →
    writeItems false (level + 1) items =
      if Value.itemsAreJson .sixtyFour items then some (Value.lineItems floats [] items) else none
  | [], _, _, _ => rfl
  | v :: rest, level, json, shallow => by
      rw [Value.itemsAreJson, Bool.and_eq_true] at json
      rw [Value.depthItems] at shallow
      have first : write false (level + 1) v = _ := write_eq json.1 (by omega)
      have others : writeItems false (level + 1) rest = _ := writeItems_eq json.2 (by omega)
      rw [writeItems, first, others, Value.itemsAreJson, Value.lineItems]
      cases v.isJson .sixtyFour <;> cases Value.itemsAreJson .sixtyFour rest <;> rfl

theorem writeMembers_eq : ∀ {members : Members} {level : Nat}, Value.membersAreJson .any members →
    level + Value.depthMembers members < 254 →
    writeMembers false (level + 1) members =
      if Value.membersAreJson .sixtyFour members then some (Value.lineMembers floats [] members)
      else none
  | [], _, _, _ => rfl
  | (key, v) :: rest, level, json, shallow => by
      cases key with
      | text s =>
          rw [Value.membersAreJson, Bool.and_eq_true] at json
          rw [Value.depthMembers] at shallow
          have first : write false (level + 1) v = _ := write_eq json.1 (by omega)
          have others : writeMembers false (level + 1) rest = _ := writeMembers_eq json.2 (by omega)
          rw [writeMembers, first, others, Value.membersAreJson, Value.lineMembers]
          cases v.isJson .sixtyFour <;> cases Value.membersAreJson .sixtyFour rest <;> rfl
      | _ => cases json

end

end Dense

namespace Plain

/-- A layout on one line: a gap follows each comma and each colon. -/
structure OneLine (layout : Layout) (gap : List Char) : Prop where
  comma : ∀ level, separator layout level = ',' :: gap
  colon : colon layout = ':' :: gap
  unbroken : ∀ level, breakLine layout level = []

theorem oneLine_compact : OneLine .compact [] :=
  ⟨fun _ => rfl, rfl, fun _ => rfl⟩

theorem oneLine_spaced : OneLine .spaced [' '] :=
  ⟨fun _ => rfl, rfl, fun _ => rfl⟩

variable {layout : Layout} {gap : List Char}

theorem OneLine.enclose_eq (oneLine : OneLine layout gap) (level : Nat) (left right : Char)
    (parts : List (List Char)) :
    enclose layout level left right (parts.map (List.map .char)) =
      (left :: Text.join (',' :: gap) parts ++ [right]).map .char := by
  have joined := Text.map_join Text.Code.char (',' :: gap) parts
  cases parts with
  | nil => rfl
  | cons part rest =>
      rw [List.map_append, List.map_cons (l := Text.join _ _), joined]
      simp [enclose, oneLine.comma, oneLine.unbroken]

mutual

/-- The plain writer takes every JSON value. -/
theorem write_eq (oneLine : OneLine layout gap) : ∀ {v : Value} (level : Nat), v.isJson .any →
    write { layout } level v = .ok ((v.line floats gap).map .char)
  | .null, _, _ | .bool _, _, _ | .int _, _, _ => rfl
  | .text s, _, _ => congrArg Except.ok (Text.quoteCodes_chars s.toList)
  | .float x, _, _ => by cases x <;> rfl
  | .list items, level, json => by
      rw [write, writeItems_eq oneLine (level + 1) json]
      exact congrArg Except.ok (oneLine.enclose_eq level '[' ']' _)
  | .object members, level, json => by
      rw [write, writeMembers_eq oneLine (level + 1) (Value.isJson_object.mp json).2]
      exact congrArg Except.ok (oneLine.enclose_eq level '\x7b' '\x7d' _)

theorem writeItems_eq (oneLine : OneLine layout gap) : ∀ {items : List Value} (level : Nat),
    Value.itemsAreJson .any items →
    writeItems { layout } level items = .ok ((Value.lineItems floats gap items).map (List.map .char))
  | [], _, _ => rfl
  | v :: rest, level, json => by
      rw [Value.itemsAreJson, Bool.and_eq_true] at json
      rw [writeItems, write_eq oneLine level json.1, writeItems_eq oneLine level json.2]
      rfl

theorem writeMembers_eq (oneLine : OneLine layout gap) : ∀ {members : Members} (level : Nat),
    Value.membersAreJson .any members →
    writeMembers { layout } level members =
      .ok ((Value.lineMembers floats gap members).map (List.map .char))
  | [], _, _ => rfl
  | (key, v) :: rest, level, json => by
      cases key with
      | text s =>
          rw [Value.membersAreJson, Bool.and_eq_true] at json
          have name : quote { layout } (Text.codes s) = (Text.quote s.toList).map .char :=
            Text.quoteCodes_chars s.toList
          rw [writeMembers, writeKey, write_eq oneLine level json.1,
            writeMembers_eq oneLine level json.2, name]
          simp only [Except.map, Value.lineMembers, oneLine.colon, List.map_cons, List.map_append,
            List.append_assoc, List.cons_append]
      | _ => cases json

end

end Plain

end Json

theorem Decimal.bytes_intText (n : Int) : Text.bytes (intText n) = (intText n).length := by
  apply Text.bytes_of_ascii
  intro c inside
  rcases intText_chars inside with rfl | digit
  · decide
  · exact Nat.lt_of_le_of_lt (Char.isDigit_iff_toNat.mp digit).2 (by decide)

namespace Value

mutual

/-- Values that are the same but for integers whose texts are equally long. -/
inductive Alike : Value → Value → Prop
  | same (v : Value) : Alike v v
  | int {n m : Int} (length : (Decimal.intText n).length = (Decimal.intText m).length) :
      Alike (.int n) (.int m)
  | list {items items' : List Value} (each : AlikeItems items items') :
      Alike (.list items) (.list items')
  | object {members members' : Members} (each : AlikeMembers members members') :
      Alike (.object members) (.object members')

inductive AlikeItems : List Value → List Value → Prop
  | nil : AlikeItems [] []
  | cons {v v' : Value} {items items' : List Value} (head : Alike v v')
      (tail : AlikeItems items items') : AlikeItems (v :: items) (v' :: items')

inductive AlikeMembers : Members → Members → Prop
  | nil : AlikeMembers [] []
  | cons (key : Key) {v v' : Value} {members members' : Members} (head : Alike v v')
      (tail : AlikeMembers members members') : AlikeMembers ((key, v) :: members) ((key, v') :: members')

end

/-- What alike values have in common. -/
structure SameMeasures (v v' : Value) : Prop where
  json : v.isJson .any = v'.isJson .any
  depth : v.depth = v'.depth
  separators : v.separators = v'.separators
  bytes : ∀ floats, Text.bytes (v.compact floats) = Text.bytes (v'.compact floats)

structure SameMeasuresItems (items items' : List Value) : Prop where
  json : itemsAreJson .any items = itemsAreJson .any items'
  length : items.length = items'.length
  depth : depthItems items = depthItems items'
  separators : separatorsInItems items = separatorsInItems items'
  bytes : ∀ floats, Text.bytes (lineItems floats [] items).flatten =
    Text.bytes (lineItems floats [] items').flatten

structure SameMeasuresMembers (members members' : Members) : Prop where
  json : membersAreJson .any members = membersAreJson .any members'
  keys : members.map (·.1) = members'.map (·.1)
  depth : depthMembers members = depthMembers members'
  separators : separatorsInMembers members = separatorsInMembers members'
  parts : ∀ floats, (lineMembers floats [] members).length = (lineMembers floats [] members').length
  bytes : ∀ floats, Text.bytes (lineMembers floats [] members).flatten =
    Text.bytes (lineMembers floats [] members').flatten

mutual

theorem Alike.sameMeasures : ∀ {v v' : Value}, Alike v v' → SameMeasures v v'
  | _, _, .same v => ⟨rfl, rfl, rfl, fun _ => rfl⟩
  | _, _, .int length => by
      refine ⟨rfl, rfl, rfl, ?_⟩
      intro floats
      rw [compact, compact, line, line, Decimal.bytes_intText, Decimal.bytes_intText, length]
  | _, _, .list each => by
      have inside := each.sameMeasures
      refine ⟨inside.json, inside.depth, ?_, ?_⟩
      · rw [Value.separators, Value.separators, inside.length, inside.separators]
      · intro floats
        rw [compact, compact, line, line, Text.bytes_enclosed, Text.bytes_enclosed,
          length_lineItems, length_lineItems, inside.length, inside.bytes floats]
  | _, _, .object each => by
      have inside := each.sameMeasures
      have length := congrArg List.length inside.keys
      rw [List.length_map, List.length_map] at length
      refine ⟨?_, inside.depth, ?_, ?_⟩
      · rw [isJson, isJson, inside.keys, inside.json]
      · rw [Value.separators, Value.separators, length, inside.separators]
      · intro floats
        rw [compact, compact, line, line, Text.bytes_enclosed, Text.bytes_enclosed,
          inside.parts floats, inside.bytes floats]

theorem AlikeItems.sameMeasures : ∀ {items items' : List Value}, AlikeItems items items' →
    SameMeasuresItems items items'
  | _, _, .nil => ⟨rfl, rfl, rfl, rfl, fun _ => rfl⟩
  | _, _, .cons head tail => by
      have first := head.sameMeasures
      have others := tail.sameMeasures
      constructor
      · rw [itemsAreJson, itemsAreJson, first.json, others.json]
      · rw [List.length_cons, List.length_cons, others.length]
      · rw [depthItems, depthItems, first.depth, others.depth]
      · rw [separatorsInItems, separatorsInItems, first.separators, others.separators]
      · intro floats
        have same := first.bytes floats
        rw [compact, compact] at same
        rw [lineItems, lineItems, List.flatten_cons, List.flatten_cons, Text.bytes_append,
          Text.bytes_append, same, others.bytes floats]

theorem AlikeMembers.sameMeasures : ∀ {members members' : Members}, AlikeMembers members members' →
    SameMeasuresMembers members members'
  | _, _, .nil => ⟨rfl, rfl, rfl, rfl, fun _ => rfl, fun _ => rfl⟩
  | _, _, .cons key head tail => by
      have first := head.sameMeasures
      have others := tail.sameMeasures
      constructor
      · cases key <;> simp only [membersAreJson, first.json, others.json]
      · rw [List.map_cons, List.map_cons, others.keys]
      · rw [depthMembers, depthMembers, first.depth, others.depth]
      · rw [separatorsInMembers, separatorsInMembers, first.separators, others.separators]
      · intro floats
        cases key <;> simp only [lineMembers, List.length_cons, others.parts floats]
      · intro floats
        have same := first.bytes floats
        rw [compact, compact] at same
        cases key with
        | text s =>
            have colon : ∀ rest, Text.bytes (':' :: rest) = 1 + Text.bytes rest :=
              Text.bytes_cons ':'
            rw [lineMembers, lineMembers, List.flatten_cons, List.flatten_cons]
            simp only [Text.bytes_append, colon, same, others.bytes floats]
        | _ => simp only [lineMembers, others.bytes floats]

end

end Value

end InterfacePlan
