import InterfacePlan.Json.Tolerant.Scan

set_option autoImplicit false

namespace InterfacePlan.Json.Tolerant

open Text (Code)

/-- How a text is quoted, and where it stands. -/
structure Quoting where
  left : Char
  right : Char
  /-- No quote stands before the text. -/
  missing : Bool
  /-- Each quote stands twice. -/
  doubled : Bool
  places : Places

def Quoting.place (q : Quoting) : Option Place :=
  q.places.head?

def hexCode? (width : Nat) (cs : List Char) : Option Nat :=
  let digits := cs.take width
  if digits.length = width ∧ digits.all fun c => (Strict.hexValue? c).isSome then
    some (digits.foldl (fun n c => n * 16 + (Strict.hexValue? c).getD 0) 0)
  else none

/-- A backslash that was escaped takes those after it along, and gives way to a closing quote. -/
def afterBackslash (right : Char) : List Char → Code × List Char
  | [] => (.char '\\', [])
  | c :: rest =>
    if c = '\\' then afterBackslash right rest
    else if c = right then (.char right, rest)
    else (.char '\\', c :: rest)

/-- The escape that the text after a backslash is, and what follows it. -/
def readEscape? (right : Char) : List Char → Option (Code × List Char)
  | [] => none
  | c :: rest =>
    if c = right then some (.char c, rest)
    else
      match c with
      | 't' => some (.char '\t', rest)
      | 'n' => some (.char '\n', rest)
      | 'r' => some (.char '\r', rest)
      | 'b' => some (.char '\x08', rest)
      | '\\' => some (afterBackslash right rest)
      | 'u' => (hexCode? 4 rest).map fun n => (.ofNat n, rest.drop 4)
      | 'x' => (hexCode? 2 rest).map fun n => (.ofNat n, rest.drop 2)
      | c => if isQuote c then some (.char c, rest) else none

/-- Whether a value whose closing quote is missing ends before a comma or a brace, `rest` being what
follows that and `written` what the text is so far, last first. A quote that comes later closes the
value if it stands before the end of the member; if it opens a key, or if a colon comes without a quote,
the quote is missing. -/
def lacksQuote (q : Quoting) (written : List Code) (rest : List Char) : Bool :=
  let plain := rest.head? ≠ some '\\'
  let close := seekChar q.right rest
  let colon := seekChar ':' rest
  if q.missing && close.length < colon.length then true
  else
    match close with
    | _ :: rest =>
      match skipBlank rest with
      | [] => false
      | c :: rest =>
        if c = ',' || c = '\x7d' then false
        else
          match seekChar q.left (c :: rest) with
          | [] => false
          | _ :: rest =>
            match skipBlank rest with
            | [] => plain
            | c :: _ => plain && c = ':'
    | [] =>
      if colon ≠ [] then true
      else
        let rest := skipBlank rest
        let brace := seekChar '\x7d' rest
        if brace.length + 1 < rest.length then false
        else
          plain && (brace = []
            || written.count (.char '{') = written.count (.char '\x7d'))

/-- Whether a text ends before the character `c` although no quote closes it there. -/
def endsBefore (q : Quoting) (written : List Code) (c : Char) (rest : List Char) : Bool :=
  let afterQuote := written.head? = some (.char q.right)
  match q.place with
  | some .key => q.missing && (c = ':' || Text.isBlank c)
  | some .value =>
    ((c = ',' || c = '\x7d') && !afterQuote && lacksQuote q written rest)
      || (c = '\x7d' && (skipBlank rest = [] || ['\x60', '\x60', '\x60'].isPrefixOf (skipBlank rest)))
  | some .item => q.missing && (c = ']' || c = ',')
  | none => false

/-- Whether a list that the text stands in ends before the bracket `c`: no quote closes the text later. -/
def endsList (q : Quoting) (written : List Code) (c : Char) (rest : List Char) : Bool :=
  c = ']' && q.places.contains .item && written.head? ≠ some (.char q.right)
    && seekChar q.right rest = []

/-- Whether a key whose closing quote is missing ends before a colon: the next quotes are those of its
value. -/
def keyEnds (q : Quoting) (rest : List Char) : Bool :=
  match seekChar q.left rest with
  | [] => true
  | _ :: rest =>
    match seekChar q.right rest with
    | [] => false
    | _ :: rest =>
      match skipBlank rest with
      | [] => false
      | c :: _ => c = ',' || c = '\x7d'

inductive QuoteRole where
  | closes
  /-- It closes together with the quote after it. -/
  | closesTwice
  /-- It is a part of the text. -/
  | inside
  /-- It is a part of the text, and so is the next one. -/
  | opensPair
  /-- It closes the key of the next member, of which the text has taken the start. -/
  | closesKey

/-- The text from the next place on at which the quote in front of it may be seen to close: another
quote, or the end of a member or a list. `before` is what lies between, last first; as long as it has no
letter a comma ends a value. -/
def seekStop (q : Quoting) (before : List Char) (bare : Bool) : List Char → List Char × List Char
  | [] => (before, [])
  | c :: rest =>
    let bare := bare && !Text.isLetter c
    if c = q.right || c = q.left
      || (q.places.contains .key && (c = ':' || c = '\x7d'))
      || (q.places.contains .value && c = '\x7d')
      || (q.places.contains .item && (c = ']' || c = ','))
      || (bare && q.place = some .value && c = ',') then (before, c :: rest)
    else seekStop q (c :: before) bare rest

/-- Whether a colon comes before the end of a member, and before a quote that no backslash escapes. -/
def meetsColon (right : Char) (previous : Char) : List Char → Bool
  | [] => false
  | c :: rest =>
    if c = ':' then true
    else if c = ',' || c = ']' || c = '\x7d' || (c = right && previous ≠ '\\') then false
    else meetsColon right c rest

/-- Whether quotes stand in pairs up to the end of a list; the fuel bounds the pairs. -/
def quotesPair (right : Char) : Nat → List Char → Bool
  | 0, _ => true
  | fuel + 1, rest =>
    match seek (fun c => c = right || c = ']') rest with
    | [] => false
    | c :: rest =>
      if c ≠ right then false
      else
        match seek (fun c => c = right || c = ']') rest with
        | [] => true
        | c :: rest => if c = right then quotesPair right fuel rest else true

/-- What a quote in a value is, `rest` following the quote after it. -/
def roleInValue (q : Quoting) (rest : List Char) : QuoteRole :=
  match skipBlank rest with
  | ',' :: member =>
    let key := (seekChar q.left member).drop 2
    let rest := skipBlank ((seekChar q.right key).drop 1)
    if rest.head? = some ':' then .inside else roleBefore rest
  | rest => roleBefore rest
where
  roleBefore (rest : List Char) : QuoteRole :=
    if meetsColon q.right q.right ((seekChar q.right (rest.drop 1)).drop 1) then .closes
    else .opensPair

/-- What a closing quote is, `rest` being what follows it and `unmatched` whether a quote inside the text
waits for its partner. -/
def quoteRole (q : Quoting) (unmatched : Bool) (rest : List Char) : QuoteRole :=
  if q.doubled && rest.head? = some q.right then .closesTwice
  else if q.missing && q.place = some .value then
    match rest.dropWhile fun c => c ≠ q.right && c ≠ q.left with
    | [] => .closes
    | _ :: after => if (skipBlank after).head? = some ':' then .closesKey else .closes
  else if unmatched then .inside
  else
    let (before, rest) := seekStop q [] true rest
    match rest with
    | [] => .closes
    | c :: after =>
      if c = ',' && q.place = some .value then
        match skipBlank ((seekChar q.right after).drop 1) with
        | [] => .closes
        | d :: _ => if d = '\x7d' || d = ',' then .inside else .closes
      else if c = q.right && before.head? ≠ some '\\' then
        if before.all Text.isBlank then .closes
        else
          match q.place with
          | some .value => roleInValue q after
          | some .item => if quotesPair q.right rest.length after then .opensPair else .closes
          | some .key => .inside
          | none => .closes
      else .closes

/-- Reads up to the end of the text, and gives what it is, last first, and the rest from there on. The
fuel bounds the steps, each of which takes a character. -/
def readBody (q : Quoting) : Nat → List Code → Bool → List Char → List Code × List Char
  | 0, written, _, cs => (written, cs)
  | fuel + 1, written, unmatched, cs =>
    match cs with
    | [] => (written, [])
    | c :: rest =>
      if c = q.right || endsBefore q written c rest || endsList q written c rest then (written, cs)
      else
        match if c = '\\' then readEscape? q.right rest else none with
        | some (code, rest) => readBody q fuel (code :: written) unmatched rest
        | none =>
          let written := .char c :: written
          match rest with
          | [] => (written, [])
          | d :: after =>
            if d = ':' && !q.missing && q.place = some .key && keyEnds q after then (written, rest)
            else if d = q.right && c ≠ '\\' then
              match quoteRole q unmatched after with
              | .closes => (written, rest)
              | .closesTwice => (written, after)
              | .inside => readBody q fuel (.char d :: written) false after
              | .opensPair => readBody q fuel (.char d :: written) true after
              | .closesKey => (written, c :: rest)
            else readBody q fuel written unmatched rest

def isBlankCode : Code → Bool
  | .char c => Text.isBlank c
  | .surrogate _ => false

def trimEnd (written : List Code) : List Code :=
  written.dropWhile isBlankCode

/-- Reads a text whose opening quote, if there is one, is behind. A key without quotes that no colon or
comma follows is dropped. -/
def readRest (q : Quoting) (cs : List Char) : List Code × List Char :=
  let (written, rest) := readBody q (cs.length + 1) [] false cs
  let isBareKey := q.missing && q.place = some .key && rest.head?.any Text.isBlank
  let next := if isBareKey then skipBlank rest else rest
  if isBareKey && next.head? ≠ some ':' && next.head? ≠ some ',' then ([], next)
  else
    let closed := rest.head? = some q.right
    let written :=
      if !closed || q.missing || written.head? = some (.char '\n') then trimEnd written else written
    (written.reverse, if closed then rest.drop 1 else next)

/-- Reads a text after its opening quote, whose partner stands right behind it: the text is empty, or
its quotes stand twice, or the second is one too many. -/
def readAfterPair (q : Quoting) (cs : List Char) : List Code × List Char :=
  let after := cs.drop 1
  let next := after.head?
  let ends : Bool :=
    match q.place with
    | some .key => next = some ':'
    | some .value => next = some ',' || next = some '\x7d'
    | _ => false
  if ends then ([], after)
  else if next = some q.left then ([], cs)
  else
    match seekChar q.right after with
    | r :: s :: _ =>
      if s = r then readRest { q with doubled := true } after else single after
    | _ => single after
where
  single (after : List Char) : List Code × List Char :=
    match (skipBlank after).head? with
    | some c =>
      if isQuote c || c = '{' || c = '[' then ([], after)
      else if c = ',' || c = ']' || c = '\x7d' then readRest q cs
      else readRest q after
    | none => readRest q after

/-- The text that begins here, with or without quotes, and the rest. -/
def readText (places : Places) (cs : List Char) : List Code × List Char :=
  match cs with
  | [] => ([], [])
  | c :: rest =>
    if isQuote c then
      let (left, right) :=
        if c = '\'' then ('\'', '\'') else if c = '“' then ('“', '”') else ('"', '"')
      let q : Quoting := ⟨left, right, false, false, places⟩
      if rest.head? = some left then readAfterPair q rest else readRest q rest
    else readRest ⟨'"', '"', true, false, places⟩ cs

/-- The value that a text or a literal without quotes is, and the rest. -/
def readWord (places : Places) (cs : List Char) : Value × List Char :=
  let cs := wordStart cs
  match if places.head? = some .key then none else readLiteral? cs with
  | some literal => literal
  | none =>
    let (codes, rest) := readText places cs
    (.ofCodes codes, rest)

end InterfacePlan.Json.Tolerant
