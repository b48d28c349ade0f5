/-
Reading the values of a JSON text. Lists, objects and records nest at most 127 deep. A record is
read from an object, whose unknown members are passed over at any depth, or from a list of its
fields in order. A fault without a place is placed where the value around it has been closed.
-/
import RowSieve.Json.Scan

namespace RowSieve.Json

namespace Reader

/-! ## Lists and objects -/

/-- The number of levels at which reading stops. -/
def depthLimit : Nat := 128

/-- Moves over the bracket that opens one more level, unless no level is left. -/
def deeper (depth : Nat) : Reader Nat := do
  if depth ≤ 1 then failAhead .tooDeep
  else do skip; return depth - 1

/-- Whether one more item of a list follows. -/
def moreItems (first : Bool) : Reader Bool := do
  match ← peekPastBlanks with
  | none => failAhead .endInList
  | some ']' => return false
  | some c =>
    if first then return true
    else if c = ',' then do
      skip
      match ← peekPastBlanks with
      | none => failAhead .endInValue
      | some ']' => failAhead .trailingComma
      | some _ => return true
    else failAhead .listEndExpected

/-- Whether one more member of an object follows; then the cursor is at the quote of its key. -/
def moreMembers (first : Bool) : Reader Bool := do
  match ← peekPastBlanks with
  | none => failAhead .endInObject
  | some '\x7d' => return false
  | some c =>
    if first then
      if c = '"' then return true else failAhead .keyNotText
    else if c = ',' then do
      skip
      match ← peekPastBlanks with
      | none => failAhead .endInValue
      | some '"' => return true
      | some '\x7d' => failAhead .trailingComma
      | some _ => failAhead .keyNotText
    else failAhead .objectEndExpected

/-- The end of a list. -/
def closeList : Reader Unit := do
  match ← peekPastBlanks with
  | some ']' => skip
  | some ',' => do
    skip
    match ← peekPastBlanks with
    | some ']' => failAhead .trailingComma
    | _ => failAhead .trailingCharacters
  | some _ => failAhead .trailingCharacters
  | none => failAhead .endInList

/-- The end of an object. -/
def closeObject : Reader Unit := do
  match ← peekPastBlanks with
  | some '\x7d' => skip
  | some ',' => failAhead .trailingComma
  | some _ => failAhead .trailingCharacters
  | none => failAhead .endInObject

/-- A key, with the cursor at its quote. -/
def key : Reader String := do skip; text

/-- The colon between a key and its value. -/
def colon : Reader Unit := do
  match ← peekPastBlanks with
  | some ':' => skip
  | some _ => failAhead .colonExpected
  | none => failAhead .endInObject

/-- The character a value starts with. -/
def valueStart : Reader Char := do
  match ← peekPastBlanks with
  | some c => return c
  | none => failAhead .endInValue

/-! ## Any value -/

/-- The members with one more; a key that is there already keeps its place and takes the new
value. -/
def setMember (members : List (String × Json)) (name : String) (value : Json) :
    List (String × Json) :=
  if members.any (·.1 == name) then
    members.map fun (k, v) => if k == name then (k, value) else (k, v)
  else members ++ [(name, value)]

mutual

/-- A value with at most `depth - 1` levels. -/
def value : (fuel depth : Nat) → Reader Json
  | 0, _ => failHere .endInValue
  | fuel + 1, depth => do
    match ← valueStart with
    | 'n' => do skip; word ['u', 'l', 'l']; return .null
    | 't' => do skip; word ['r', 'u', 'e']; return .bool true
    | 'f' => do skip; word ['a', 'l', 's', 'e']; return .bool false
    | '"' => do skip; return .text (← text)
    | '-' => do skip; return .number (← number false)
    | '[' => do
      let depth ← deeper depth
      enclosed (do return .list (← items fuel depth true)) closeList
    | '\x7b' => do
      let depth ← deeper depth
      enclosed (do return .object (← members fuel depth true [])) closeObject
    | c => if Number.isDigit c then return .number (← number true) else failAhead .valueExpected

def items : (fuel depth : Nat) → (first : Bool) → Reader (List Json)
  | 0, _, _ => failHere .endInList
  | fuel + 1, depth, first => do
    if ← moreItems first then do
      let v ← value fuel depth
      return v :: (← items fuel depth false)
    else return []

def members : (fuel depth : Nat) → (first : Bool) → (seen : List (String × Json)) →
    Reader (List (String × Json))
  | 0, _, _, _ => failHere .endInObject
  | fuel + 1, depth, first, seen => do
    if ← moreMembers first then do
      let k ← key
      colon
      let v ← value fuel depth
      members fuel depth false (setMember seen k v)
    else return seen

end

/-- Fuel that no value of the text left over uses up. -/
def enoughFuel : Reader Nat := do return 2 * (← get).rest.length + 4

/-- Any value. -/
def anyValue (depth : Nat) : Reader Json := do value (← enoughFuel) depth

/-! ## Values passed over -/

/-- A bracket that is still open. -/
inductive Open where
  | list
  | object
deriving DecidableEq

def Open.close : Open → Char
  | list => ']'
  | object => '\x7d'

def Open.ended : Open → Problem
  | list => .endInList
  | object => .endInObject

def Open.unended : Open → Problem
  | list => .listEndExpected
  | object => .objectEndExpected

/-- Passes over a key and its colon, when the innermost bracket is an object's. -/
def passKey : List Open → Reader Unit
  | .object :: _ => do
    match ← peekPastBlanks with
    | some '"' => do skip; passText
    | some _ => failAhead .keyNotText
    | none => failAhead .endInObject
    colon
  | _ => return

/-- Moves to where the next value starts and gives the brackets open there; none when the whole
value has been passed. `behindValue` tells that a value has just ended. -/
def passEnds : (behindValue : Bool) → List Open → Reader (List Open)
  | _, [] => return []
  | behindValue, o :: rest => do
    match ← peekPastBlanks with
    | none => failAhead o.ended
    | some c =>
      if c = o.close then do skip; passEnds true rest
      else if behindValue then
        if c = ',' then do skip; return o :: rest else failAhead o.unended
      else return o :: rest

/-- Passes over a value inside the open brackets, and over all that they still hold. -/
def passFrom : (fuel : Nat) → List Open → Reader Unit
  | 0, _ => failHere .endInValue
  | fuel + 1, opened => do
    let (behindValue, opened) ← match ← valueStart with
      | 'n' => do skip; word ['u', 'l', 'l']; pure (true, opened)
      | 't' => do skip; word ['r', 'u', 'e']; pure (true, opened)
      | 'f' => do skip; word ['a', 'l', 's', 'e']; pure (true, opened)
      | '"' => do skip; passText; pure (true, opened)
      | '-' => do skip; passNumber; pure (true, opened)
      | '[' => do skip; pure (false, Open.list :: opened)
      | '\x7b' => do skip; pure (false, Open.object :: opened)
      | c =>
        if Number.isDigit c then do passNumber; pure (true, opened)
        else failAhead .valueExpected
    match ← passEnds behindValue opened with
    | [] => return
    | opened => do passKey opened; passFrom fuel opened

/-- Passes over any value, at any depth. -/
def passValue : Reader Unit := do passFrom (← enoughFuel) []

/-! ## Values of a kind -/

/-- Faults because another kind of value stands here; a scalar is passed over first. -/
def wrongKind {α : Type} (expected : String) : Reader α := place do
  match ← peek with
  | some 'n' => do skip; word ['u', 'l', 'l']; unplaced (.wrongType .null expected)
  | some 't' => do skip; word ['r', 'u', 'e']; unplaced (.wrongType (.bool true) expected)
  | some 'f' => do skip; word ['a', 'l', 's', 'e']; unplaced (.wrongType (.bool false) expected)
  | some '"' => do skip; unplaced (.wrongType (.text (← text)) expected)
  | some '-' => do skip; unplaced (.wrongType (found (← number false)) expected)
  | some '[' => unplaced (.wrongType .sequence expected)
  | some '\x7b' => unplaced (.wrongType .map expected)
  | some c =>
    if Number.isDigit c then unplaced (.wrongType (found (← number true)) expected)
    else failAhead .valueExpected
  | none => failAhead .valueExpected
where
  found : JsonNumber → Found
    | .integer n _ => .integer n
    | .real x _ => .real x

/-- A text. -/
def textValue : Reader String := do
  match ← valueStart with
  | '"' => do skip; text
  | _ => wrongKind "a string"

/-- A truth value. -/
def boolValue : Reader Bool := do
  match ← valueStart with
  | 't' => do skip; word ['r', 'u', 'e']; return true
  | 'f' => do skip; word ['a', 'l', 's', 'e']; return false
  | _ => wrongKind "a boolean"

/-- A natural number below `limit`; `kind` names its range. -/
def natValue (kind : String) (limit : Nat) : Reader Nat := do
  let c ← valueStart
  if c = '-' then do skip; checked (← number false)
  else if Number.isDigit c then checked (← number true)
  else wrongKind kind
where
  checked : JsonNumber → Reader Nat
    | .integer n _ =>
      if 0 ≤ n ∧ n < limit then return n.toNat else failHere (.wrongInteger n kind)
    | .real x _ => failHere (.wrongType (.real x) kind)

/-- A value, or nothing for `null`. -/
def optional {α : Type} (r : Reader α) : Reader (Option α) := do
  match ← peekPastBlanks with
  | some 'n' => do skip; word ['u', 'l', 'l']; return none
  | _ => return some (← r)

/-- The items of a list from the cursor on. -/
def itemsOf {α : Type} (item : Reader α) : (fuel : Nat) → (first : Bool) → Reader (List α)
  | 0, _ => failHere .endInList
  | fuel + 1, first => do
    if ← moreItems first then do
      let a ← item
      return a :: (← itemsOf item fuel false)
    else return []

/-- A list of values of a kind, which are read at one level less. -/
def listOf {α : Type} (depth : Nat) (item : (depth : Nat) → Reader α) : Reader (List α) := do
  match ← valueStart with
  | '[' => do
    let depth ← deeper depth
    enclosed (do itemsOf (item depth) (← enoughFuel) true) closeList
  | _ => wrongKind "a sequence"

end Reader

/-! ## Records -/

/-- A field of a record under construction. -/
structure Field (σ : Type) where
  name : String
  /-- Whether the field has been read. -/
  given : σ → Bool
  /-- Reads the field's value. -/
  read : (depth : Nat) → σ → Reader σ
  /-- Whether a list of fields may end before this one. -/
  mayEnd : Bool

/-- A kind of record: its name, the record without any field, and its fields in order. -/
structure RecordForm (σ : Type) where
  name : String
  blank : σ
  fields : List (Field σ)

namespace RecordForm

variable {σ : Type} (form : RecordForm σ)

/-- Reads the members of an object up to its end; `other` reads what is no field. -/
def fromMembers (other : String → (depth : Nat) → σ → Reader σ) (depth : Nat) :
    (fuel : Nat) → (first : Bool) → σ → Reader σ
  | 0, _, _ => Reader.failHere .endInObject
  | fuel + 1, first, record => do
    if ← Reader.moreMembers first then do
      let k ← Reader.key
      match form.fields.find? (·.name == k) with
      | some field =>
        if field.given record then Reader.unplaced (.duplicateField k)
        else do
          Reader.colon
          fromMembers other depth fuel false (← field.read depth record)
      | none => do
        Reader.colon
        fromMembers other depth fuel false (← other k depth record)
    else return record

/-- Reads the given fields from a list, `done` of them being read. -/
def fromItems (depth : Nat) : List (Field σ) → (done : Nat) → σ → Reader σ
  | [], _, record => return record
  | field :: rest, done, record => do
    if ← Reader.moreItems (done == 0) then
      fromItems depth rest (done + 1) (← field.read depth record)
    else if field.mayEnd then fromItems depth rest done record
    else Reader.unplaced (.wrongLength done form.name form.fields.length)

/-- A record, from an object or from a list; `finish` looks for missing fields. -/
def read {α : Type} (finish : σ → Except Problem α) (depth : Nat) : Reader α := do
  let finished (record : σ) : Reader α :=
    match finish record with
    | .ok a => return a
    | .error p => Reader.unplaced p
  match ← Reader.valueStart with
  | '[' => do
    let depth ← Reader.deeper depth
    Reader.enclosed (do finished (← form.fromItems depth form.fields 0 form.blank))
      Reader.closeList
  | '\x7b' => do
    let depth ← Reader.deeper depth
    let other (_ : String) (_ : Nat) (record : σ) : Reader σ := do
      Reader.passValue
      return record
    Reader.enclosed
      (do finished (← form.fromMembers other depth (← Reader.enoughFuel) true form.blank))
      Reader.closeObject
  | _ => Reader.wrongKind s!"struct {form.name}"

/-- A record from an object only, with the members that are no field kept by `other`. -/
def readObject (other : String → (depth : Nat) → σ → Reader σ) (depth : Nat) : Reader σ := do
  match ← Reader.valueStart with
  | '\x7b' => do
    let depth ← Reader.deeper depth
    Reader.enclosed (do form.fromMembers other depth (← Reader.enoughFuel) true form.blank)
      Reader.closeObject
  | _ => Reader.wrongKind s!"struct {form.name}"

end RecordForm

/-! ## Whole texts -/

/-- Reads the whole text, blanks around it left aside. -/
def readWhole {α : Type} (r : (depth : Nat) → Reader α) (s : String) : Except Fault α :=
  let whole : Reader α := do
    let a ← r Reader.depthLimit
    match ← Reader.peekPastBlanks with
    | some _ => Reader.failAhead .trailingCharacters
    | none => return a
  (whole.run (Cursor.start s.toList)).1

/-- The value that a text writes. -/
def read (s : String) : Except Fault Json := readWhole Reader.anyValue s

end RowSieve.Json
