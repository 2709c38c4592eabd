import ServerLauncher.Json.Skip

/-!
# Records in a JSON document

A record is written as an object, with its fields in any order among others that are skipped, or as
a list with its fields in order. A `Schema` names the fields and says what becomes of the values
that were there. `Schema.read` takes a record off the front of a document, `readText` a string and
`readList` a list ; `readDocument` reads a whole document. Each refuses a value of another kind
where it meets it.
-/

namespace ServerLauncher.Json

/-! ## Values of one kind -/

/-- Refuse the value at the cursor for its kind. A scalar is read first ; a list or an object is
refused in front of its bracket. -/
def wrongKind {α : Type} (expected : String) (c : Cursor) : Except Fault α :=
  let refuse (found : Found) (c : Cursor) : Except Fault α := c.stop (.invalidType found expected)
  match c.rest with
  | [] => c.stop .eofInValue
  | x :: _ =>
    if x = 'n' then
      match Cursor.literal "ull".toList c.advance with
      | .error f => .error f
      | .ok c => refuse .null c
    else if x = 't' then
      match Cursor.literal "rue".toList c.advance with
      | .error f => .error f
      | .ok c => refuse (.bool true) c
    else if x = 'f' then
      match Cursor.literal "alse".toList c.advance with
      | .error f => .error f
      | .ok c => refuse (.bool false) c
    else if x = '-' || isDigit x then
      match readNumber c with
      | .error f => .error f
      | .ok (n, c) => refuse n c
    else if x = '"' then
      match readString c.advance with
      | .error f => .error f
      | .ok (s, c) => refuse (.string s) c
    else if x = '[' then refuse .sequence c
    else if x = '\x7b' then refuse .map c
    else c.misfit .expectedValue

/-- Read a string. -/
def readText (expected : String) : Reader String := fun c =>
  let c := c.skipBlanks
  if c.startsWith ['"'] then readString c.advance else wrongKind expected c

/-- Read `null` or a value. -/
def readNullable {α : Type} (r : Reader α) : Reader (Option α) := fun c =>
  let c := c.skipBlanks
  if c.startsWith ['n'] then
    match Cursor.literal "ull".toList c.advance with
    | .error f => .error f
    | .ok c => .ok (none, c)
  else
    match r c with
    | .error f => .error f
    | .ok (a, c) => .ok (some a, c)

/-! ## Elements and members -/

/-- Go to the next element of a list, if there is one ; else to the closing bracket. -/
def nextElement (isFirst : Bool) (c : Cursor) : Except Fault (Bool × Cursor) :=
  let c := c.skipBlanks
  match c.rest with
  | [] => c.stop .eofInList
  | x :: _ =>
    if x = ']' then .ok (false, c)
    else if isFirst then .ok (true, c)
    else if x = ',' then
      let c := c.advance.skipBlanks
      match c.rest with
      | [] => c.stop .eofInValue
      | y :: _ => if y = ']' then c.misfit .trailingComma else .ok (true, c)
    else c.misfit .expectedListEnd

/-- Read the next key of an object, if there is one ; else go to the closing bracket. -/
def nextKey (isFirst : Bool) (c : Cursor) : Except Fault (Option String × Cursor) :=
  let c := c.skipBlanks
  match c.rest with
  | [] => c.stop .eofInObject
  | x :: _ =>
    if x = '\x7d' then .ok (none, c)
    else if isFirst then
      if x = '"' then (readString c.advance).map fun r => (some r.1, r.2)
      else c.misfit .keyNotString
    else if x = ',' then
      let c := c.advance.skipBlanks
      match c.rest with
      | [] => c.stop .eofInValue
      | y :: _ =>
        if y = '"' then (readString c.advance).map fun r => (some r.1, r.2)
        else if y = '\x7d' then c.misfit .trailingComma
        else c.misfit .keyNotString
    else c.misfit .expectedObjectEnd

/-- Take the colon behind a key off the front. -/
def takeColon (c : Cursor) : Except Fault Cursor :=
  let c := c.skipBlanks
  match c.rest with
  | [] => c.stop .eofInObject
  | x :: _ => if x = ':' then .ok c.advance else c.misfit .expectedColon

/-- Take the closing bracket of a list off the front. -/
def closeList (c : Cursor) : Except Fault Cursor :=
  let c := c.skipBlanks
  match c.rest with
  | [] => c.stop .eofInList
  | x :: _ =>
    if x = ']' then .ok c.advance
    else if x = ',' then
      let c := c.advance.skipBlanks
      c.misfit (if c.startsWith [']'] then .trailingComma else .trailingCharacters)
    else c.misfit .trailingCharacters

/-- The cursor behind the blanks and, if it comes next, the bracket `closing`. A fault of a record
as a whole is placed there. -/
def Cursor.behind (c : Cursor) (closing : Char) : Cursor :=
  let c := c.skipBlanks
  if c.startsWith [closing] then c.advance else c

/-! ## Lists -/

/-- Read elements up to the closing bracket, with those before them in reverse, and one for each
character of `fuel` at most. -/
def readElements {α : Type} (r : Reader α) : List Char → List α → Reader (List α)
  | [], _, c => c.stop .eofInList
  | _ :: fuel, done, c =>
    match nextElement done.isEmpty c with
    | .error f => .error f
    | .ok (false, c) => .ok (done.reverse, c.advance)
    | .ok (true, c) =>
      match r c with
      | .error f => .error f
      | .ok (a, c) => readElements r fuel (a :: done) c

/-- Read a list. Each element takes a character, so the text is enough. -/
def readList {α : Type} (r : Reader α) : Reader (List α) := fun c =>
  let c := c.skipBlanks
  if c.startsWith ['['] then readElements r c.rest [] c.advance
  else wrongKind "a sequence" c

/-! ## Records -/

/-- A field of a record that is read into parts of type `σ`. -/
structure Field (σ : Type) where
  key : String
  isSet : σ → Bool
  read : σ → Reader σ

/-- A record of type `α` : its name in messages, its fields in order, the parts before anything was
read, and the record that the parts make up. Of a list `ofList` is told how many fields it had. -/
structure Schema (σ α : Type) where
  name : String
  fields : List (Field σ)
  empty : σ
  ofObject : σ → Except Reason α
  ofList : Nat → σ → Except Reason α

namespace Schema

variable {σ α : Type}

/-- Read members up to the closing bracket, one for each character of `fuel` at most. -/
def readMembers (s : Schema σ α) : List Char → Bool → σ → Reader σ
  | [], _, _, c => c.stop .eofInObject
  | _ :: fuel, isFirst, parts, c =>
    match nextKey isFirst c with
    | .error f => .error f
    | .ok (none, c) => .ok (parts, c)
    | .ok (some key, c) =>
      match s.fields.find? fun f => f.key == key with
      | none =>
        match takeColon c with
        | .error f => .error f
        | .ok c =>
          match skipValue c with
          | .error f => .error f
          | .ok c => readMembers s fuel false parts c
      | some field =>
        if field.isSet parts then (c.behind '\x7d').stop (.duplicateField key)
        else
          match takeColon c with
          | .error f => .error f
          | .ok c =>
            match field.read parts c with
            | .error f => .error f
            | .ok (parts, c) => readMembers s fuel false parts c

/-- Read a record behind the bracket that opens the object. Each member takes a character, so the
text with one character more is enough. -/
def readObject (s : Schema σ α) : Reader α := fun c =>
  match s.readMembers (' ' :: c.rest) true s.empty c with
  | .error f => .error f
  | .ok (parts, c) =>
    match s.ofObject parts with
    | .error r => (c.behind '\x7d').stop r
    | .ok a => .ok (a, c.advance)

/-- Read the fields of a list in order : the parts, and how many fields there were. -/
def readFields : List (Field σ) → Nat → σ → Reader (σ × Nat)
  | [], n, parts, c => .ok ((parts, n), c)
  | field :: fields, n, parts, c =>
    match nextElement (n == 0) c with
    | .error f => .error f
    | .ok (false, c) => .ok ((parts, n), c)
    | .ok (true, c) =>
      match field.read parts c with
      | .error f => .error f
      | .ok (parts, c) => readFields fields (n + 1) parts c

/-- Read a record behind the bracket that opens the list. -/
def readSequence (s : Schema σ α) : Reader α := fun c =>
  match readFields s.fields 0 s.empty c with
  | .error f => .error f
  | .ok ((parts, n), c) =>
    match s.ofList n parts with
    | .error r => (c.behind ']').stop r
    | .ok a =>
      match closeList c with
      | .error f => .error f
      | .ok c => .ok (a, c)

/-- Read a record. -/
def read (s : Schema σ α) : Reader α := fun c =>
  let c := c.skipBlanks
  if c.startsWith ['\x7b'] then s.readObject c.advance
  else if c.startsWith ['['] then s.readSequence c.advance
  else wrongKind s.name c

end Schema

/-! ## Documents -/

/-- Read a whole document ; only blanks may follow the value. -/
def readDocument {α : Type} (r : Reader α) (text : String) : Except Fault α :=
  match r (Cursor.start text) with
  | .error f => .error f
  | .ok (a, c) =>
    let c := c.skipBlanks
    if c.rest.isEmpty then .ok a else c.misfit .trailingCharacters

end ServerLauncher.Json
