import InterfacePlan.Json.Tolerant.Text

set_option autoImplicit false

namespace InterfacePlan.Json.Tolerant

/-- A value, the places that the reader is then inside of, and the rest. -/
abbrev Read := Value × Places × List Char

def readKey (places : Places) (cs : List Char) : Key × List Char :=
  let (codes, rest) := readText places (wordStart cs)
  (.ofCodes codes, rest)

def hasKey (members : Members) (key : Key) : Bool :=
  members.any fun m => m.1.same key

def listLength? : Value → Option Nat
  | .list items => some items.length
  | _ => none

/-- Items in lists of `width`; the fuel bounds the lists. -/
def rows (width : Nat) : Nat → List Value → List Value
  | 0, _ => []
  | fuel + 1, items =>
    match items with
    | [] => []
    | items => .list (items.take width) :: rows width fuel (items.drop width)

/-- The list of a member together with one that stands where the next key should. Rows of one width
stay rows: single items at their end make rows too if they fill them, and the new items come as rows or
as one. Other lists are joined. -/
def mergeLists (items more : List Value) : List Value :=
  let joined :=
    items ++ match more with
      | [.list inner] => inner
      | more => more
  match items.filterMap listLength? with
  | [] => joined
  | width :: widths =>
    if width ≠ 0 ∧ widths.all (· = width) then
      let tail := (items.reverse.takeWhile fun v => (listLength? v).isNone).reverse
      let kept := items.take (items.length - tail.length)
      let items :=
        if tail.length % width = 0 then kept ++ rows width tail.length tail else items
      if more = [] then items
      else if more.all fun v => (listLength? v).isSome then items ++ more
      else items ++ [.list more]
    else joined

def lastList? (members : Members) : Option (Key × List Value) :=
  match members.getLast? with
  | some (key, .list items) => if key = .text "" then none else some (key, items)
  | _ => none

/-- The last character of `before` that is not in `after`, its end. -/
def lastTaken? (before after : List Char) : Option Char :=
  (before.drop (before.length - after.length - 1)).head?

/-- Whether an item is nothing but the mark of an omission, and not text between quotes. -/
def isOmission (v : Value) (taken : Option Char) : Bool :=
  v = .text "..." && taken = some '.'

def isEmpty : Value → Bool
  | .text "" | .list [] | .object [] => true
  | _ => false

def afterItem (cs : List Char) : List Char :=
  cs.dropWhile fun c => c = ',' || Text.isBlank c

/-- Whether an object without members holds more than blanks, comments and the marks between members. The
fuel bounds the comments. -/
def holdsMore (places : Places) : Nat → List Char → Bool
  | 0, _ => false
  | fuel + 1, cs =>
    match cs.dropWhile fun c => Text.isBlank c || c = ',' || c = ':' with
    | [] => false
    | c :: rest =>
      if c = '#' || c = '/' then holdsMore places fuel (afterComment (.key :: places) (c :: rest))
      else true

/-- A key, the text from it on, the members before it, the places that the reader is then inside of, and
the rest. -/
structure KeyRead where
  key : Key
  start : List Char
  done : Members
  places : Places
  rest : List Char

mutual

/-- The first value from here on, or empty text where there is none. Outside of everything only objects
and lists are values. The fuel bounds the calls. -/
def readValue : Nat → Places → List Char → Read
  | 0, places, _ => (.text "", places, [])
  | fuel + 1, places, cs =>
    match cs with
    | [] => (.text "", places, [])
    | c :: rest =>
      if c = '{' then readObject fuel places rest
      else if c = '[' then readList fuel places rest
      else if places ≠ [] && (isQuote c || Text.isLetter c) then
        let (v, rest) := readWord places cs
        (v, places, rest)
      else if places ≠ [] && (Strict.isDigit c || c = '-' || c = '.') then
        match readNumber places.head? cs with
        | (some v, rest) => (v, places, rest)
        | (none, rest) =>
          if rest.head? = some '/' then readAfterComment fuel places (afterComment places rest)
          else
            let (v, rest) := readWord places rest
            (v, places, rest)
      else if c = '#' || c = '/' then readAfterComment fuel places (afterComment places cs)
      else readValue fuel places rest

/-- The value after a comment. A key has none, and where a member or an item ends there is none. -/
def readAfterComment : Nat → Places → List Char → Read
  | 0, places, _ => (.text "", places, [])
  | fuel + 1, places, cs =>
    match places.head? with
    | none => readValue fuel places cs
    | some .key => (.text "", places, cs)
    | some _ =>
      match skipBlank cs with
      | [] => (.text "", places, [])
      | c :: rest =>
        if c = ',' || c = ']' || c = '\x7d' then (.text "", places, c :: rest)
        else readValue fuel places (c :: rest)

def readList : Nat → Places → List Char → Read
  | 0, places, _ => (.text "", places, [])
  | fuel + 1, places, cs =>
    let (items, places, rest) := readItems fuel [] (.item :: places) cs
    (.list items, places.drop 1, rest)

/-- The items up to the end of a list, after those `done`, the last of which comes first. A quoted text
before a colon is the first key of an object, or the next key of the object that the list is a member of:
if the list has items it is taken to end there. -/
def readItems : Nat → List Value → Places → List Char → List Value × Places × List Char
  | 0, done, places, _ => (done.reverse, places, [])
  | fuel + 1, done, places, cs =>
    match afterItem cs with
    | [] => (done.reverse, places, [])
    | c :: rest =>
      if c = ']' || c = '\x7d' then (done.reverse, places, rest)
      else if c = '#' || c = '/' then
        readItems fuel done places (afterComment places (c :: rest))
      else
        let isKey :=
          isQuote c && (skipBlank ((seekChar c rest).drop 1)).head? = some ':'
        if isKey && done ≠ [] && places.contains .value then (done.reverse, places, c :: rest)
        else
          let (v, places, rest) :=
            if isKey then readObject fuel places (c :: rest)
            else if isQuote c then
              let (v, rest) := readWord places (c :: rest)
              (v, places, rest)
            else readValue fuel places (c :: rest)
          if isEmpty v && rest.head? ≠ some ']' && rest.head? ≠ some ',' then
            readItems fuel done places (rest.drop 1)
          else if isOmission v (lastTaken? cs rest) then
            readItems fuel done places rest
          else readItems fuel (v :: done) places rest

/-- An object after its opening brace. One without members, but with something in it, is read as a list;
after one outside of everything more members may follow. -/
def readObject : Nat → Places → List Char → Read
  | 0, places, _ => (.text "", places, [])
  | fuel + 1, places, start =>
    match readMembers fuel [] places start with
    | (none, places, _) => readList fuel places start
    | (some members, places, rest) =>
      if members = [] && holdsMore places fuel (start.take (start.length - rest.length)) then
        readList fuel places start
      else
        let rest := rest.drop 1
        if places ≠ [] then (.object members, places, rest)
        else
          match skipBlank rest with
          | ',' :: rest =>
            match skipBlank rest with
            | [] => (.object members, places, [])
            | c :: rest =>
              if isQuote c then
                match readObject fuel places (c :: rest) with
                | (.object more, places, rest) =>
                  (.object (more.foldl (fun ms m => Members.insert ms m.1 m.2) members), places,
                    rest)
                | (_, places, rest) => (.object members, places, rest)
              else (.object members, places, c :: rest)
          | rest => (.object members, places, rest)

/-- The members up to the end of an object, after those `done`; the rest begins with the brace that ends
it. There are none in what begins with a brace: that is a list. Where an object in a list repeats a key,
the next one begins, and where the list ends the object does. -/
def readMembers : Nat → Members → Places → List Char → Option Members × Places × List Char
  | 0, done, places, _ => (some done, places, [])
  | fuel + 1, done, places, cs =>
    match cs with
    | [] => (some done, places, [])
    | '}' :: _ => (some done, places, cs)
    | _ =>
      match skipBlank cs with
      | [] => (some done, places, [])
      | c :: rest =>
        if c = ':' || c = ',' then readMembers fuel done places rest
        else if c = '{' && done = [] then (none, places, c :: rest)
        else if c = '\x7d' then (some done, places, c :: rest)
        else
          let read := readMemberKey fuel done (.key :: places) (c :: rest)
          if read.places.contains .item && hasKey read.done read.key then
            (some read.done, read.places, '\x7d' :: '{' :: read.start)
          else
            match skipBlank read.rest with
            | [] => (some read.done, read.places, [])
            | '}' :: rest => (some read.done, read.places, '\x7d' :: rest)
            | _ :: rest =>
              let (v, places, rest) :=
                readMemberValue fuel (.value :: read.places.drop 1) (skipBlank rest)
              let done := Members.insert read.done read.key v
              let places := places.drop 1
              match rest with
              | [] => (some done, places, [])
              | c :: after =>
                if c = ']' && places.contains .item then (some done, places, '\x7d' :: rest)
                else
                  let rest := if c = ',' || c = '\'' || c = '"' then after else rest
                  readMembers fuel done places (skipBlank rest)

/-- The key of the next member. A list in its place goes to the member before. -/
def readMemberKey : Nat → Members → Places → List Char → KeyRead
  | 0, done, places, _ => ⟨.text "", [], done, places, []⟩
  | fuel + 1, done, places, cs =>
    match cs with
    | [] => ⟨.text "", [], done, places, []⟩
    | c :: rest =>
      match if c = '[' then lastList? done else none with
      | some (key, items) =>
        let (more, places, rest) := readItems fuel [] (.item :: places) rest
        let done := Members.insert done key (.list (mergeLists items more))
        let rest :=
          match skipBlank rest with
          | ',' :: rest => rest
          | rest => rest
        readMemberKey fuel done (places.drop 1) (skipBlank rest)
      | none =>
        let (key, rest) :=
          if c = '#' || c = '/' then (.text "", afterComment places cs) else readKey places cs
        if key ≠ .text "" then ⟨key, cs, done, places, rest⟩
        else
          match skipBlank rest with
          | [] => ⟨key, cs, done, places, []⟩
          | c :: rest =>
            if c = ':' || c = '\x7d' then ⟨key, cs, done, places, c :: rest⟩
            else readMemberKey fuel done places (c :: rest)

/-- The value of a member, empty text if the member ends before it. -/
def readMemberValue : Nat → Places → List Char → Read
  | 0, places, _ => (.text "", places, [])
  | fuel + 1, places, cs =>
    match cs with
    | [] => (.text "", places, [])
    | c :: _ =>
      if c = ',' || c = '\x7d' then (.text "", places, cs) else readValue fuel places cs

end

/-- Whether two values have the same keys in the same places; the fuel bounds how deep they nest. -/
def sameShape : Nat → Value → Value → Bool
  | 0, _, _ => false
  | fuel + 1, .object ms, .object ns =>
    ms.length = ns.length && ms.all fun m =>
      match ns.find? fun n => n.1.same m.1 with
      | some n => sameShape fuel m.2 n.2
      | none => false
  | fuel + 1, .list vs, .list ws =>
    vs.length = ws.length && (vs.zip ws).all fun (v, w) => sameShape fuel v w
  | _, .null, .null | _, .bool _, .bool _ | _, .int _, .int _ | _, .float _, .float _ => true
  | _, .text _, .text _ | _, .text _, .illFormed _ | _, .illFormed _, .text _ => true
  | _, .illFormed _, .illFormed _ => true
  | _, _, _ => false

def fuelFor (cs : List Char) : Nat :=
  8 * cs.length + 16

/-- The values after those `done`, the last of which comes first. One that is empty does not count; one
that the value before is empty or of the same shape replaces that. -/
def readSeries : Nat → List Value → List Char → List Value
  | 0, done, _ => done
  | fuel + 1, done, cs =>
    match cs with
    | [] => done
    | cs =>
      match readValue (fuelFor cs) [] cs with
      | (v, _, rest) =>
        if isEmpty v then readSeries fuel done (rest.drop 1)
        else
          match done with
          | [] => readSeries fuel [v] rest
          | last :: before =>
            if sameShape (cs.length + 1) last v || isEmpty last then
              readSeries fuel (v :: before) rest
            else readSeries fuel (v :: done) rest

/-- The value that a text was probably meant to be, if there is one in it; several make a list. -/
def read (cs : List Char) : Option Value :=
  let (first, _, rest) := readValue (fuelFor cs) [] cs
  match readSeries (cs.length + 1) [first] rest with
  | [.text ""] => none
  | [v] => some v
  | values => some (.list values.reverse)

end InterfacePlan.Json.Tolerant
