import ServerLauncher.Action
import ServerLauncher.Log.Pattern

/-!
# Log directives

A part of a log filter : a level, the target of the records that it is about, a span that they have
to be in and a field that they have to have, as in `target[span\x7bfield=value\x7d]=level`. All of
it can be left out. `LogDirective.parse` reads one. The places of its signs are counted without the
blanks around it, but its parts are cut from the text with them ; so a blank in front shifts each
part, and a part can begin or end within a character, which is a fault of its own.
-/

namespace ServerLauncher

/-! ## Levels -/

/-- How much a level admits : more for a higher number. -/
def Level.rank : Level → Nat
  | .error => 1
  | .warn => 2
  | .info => 3
  | .debug => 4
  | .trace => 5

/-- The name of a level. -/
def Level.name : Level → String
  | .error => "ERROR"
  | .warn => "WARN"
  | .info => "INFO"
  | .debug => "DEBUG"
  | .trace => "TRACE"

/-- The rank of a level given by name, in either case, or by number. -/
def Level.rankOf? (cs : List Char) : Option Nat :=
  let digits := match cs with
    | '+' :: ds => ds
    | ds => ds
  match number? digits with
  | some n => if n ≤ 5 then some n else none
  | none =>
    match String.ofList (cs.map Char.toLower) with
    | "" => some 1
    | "off" => some 0
    | "error" => some 1
    | "warn" => some 2
    | "info" => some 3
    | "debug" => some 4
    | "trace" => some 5
    | _ => none

/-- The rank of everything. -/
def Level.allRanks : Nat := 5

/-! ## Directives -/

/-- A field that a directive asks for ; `valued` if its value counts. -/
structure FieldTest where
  name : List Char
  valued : Bool
  deriving Repr, DecidableEq

/-- A part of a filter : the records below `target`, within the span and with the field that are
given, up to the rank `level`. -/
structure LogDirective where
  target : Option (List Char)
  span : Option (List Char)
  field : Option FieldTest
  level : Nat
  deriving Repr, DecidableEq

/-- Why a text is no directive. -/
inductive DirectiveFault where
  | unreadable
  /-- A part begins or ends within a character. -/
  | brokenCharacter
  deriving Repr, DecidableEq

namespace LogDirective

/-- A directive that admits everything. -/
def everything : LogDirective :=
  ⟨none, none, none, Level.allRanks⟩

/-- A result of reading. -/
abbrev Reading := Except DirectiveFault

/-! ## Parts -/

/-- The characters of a text from the byte at `place` on, if a character begins there. -/
def dropBytes? : Nat → List Char → Option (List Char)
  | 0, cs => some cs
  | _ + 1, [] => none
  | n + 1, c :: cs => if c.utf8Size ≤ n + 1 then dropBytes? (n + 1 - c.utf8Size) cs else none

/-- The characters of a text up to the byte at `place`, if a character ends there. -/
def takeBytes? : Nat → List Char → Option (List Char)
  | 0, _ => some []
  | _ + 1, [] => none
  | n + 1, c :: cs =>
    if c.utf8Size ≤ n + 1 then (takeBytes? (n + 1 - c.utf8Size) cs).map (c :: ·) else none

/-- The part of a text from byte `first` up to byte `last`. -/
def part (text : List Char) (first last : Nat) : Reading (List Char) :=
  match takeBytes? last text with
  | none => .error .brokenCharacter
  | some cs =>
    match dropBytes? first cs with
    | none => .error .brokenCharacter
    | some cs => .ok cs

/-- The part of a text from byte `first` to the end. -/
def partFrom (text : List Char) (first : Nat) : Reading (List Char) :=
  match dropBytes? first text with
  | none => .error .brokenCharacter
  | some cs => .ok cs

/-! ## Reading -/

/-- Where in a directive the reader is, with the place where the part under way begins. -/
inductive Position where
  | start
  | levelOrTarget (first : Nat)
  | span (first : Nat)
  | field (first : Nat)
  | behindField
  | behindTarget
  | level (first : Nat)
  deriving Repr, DecidableEq

/-- A character that a directive may start with, besides a bracket. -/
def canStart (c : Char) : Bool :=
  isAlphanumeric c || c == '-' || c == ':' || c == '_'

/-- Read what stands for a field : its name, and a value behind an equals sign. -/
def fieldTest (cs : List Char) : Reading FieldTest :=
  let name := cs.takeWhile (· != '=')
  if cs.isEmpty then .error .unreadable
  else
    match cs.drop name.length with
    | [] => .ok ⟨name, false⟩
    | _ :: rest =>
      if Log.isFieldValue (rest.takeWhile (· != '=')) then .ok ⟨name, true⟩
      else .error .unreadable

/-- The rank that a level stands for ; nothing at all stands for everything. -/
def rank (cs : List Char) : Reading Nat :=
  if cs.isEmpty then .ok Level.allRanks
  else
    match Level.rankOf? cs with
    | some n => .ok n
    | none => .error .unreadable

/-- Read the character `c` at `place`, where the parts are cut from `text`. -/
def step (text : List Char) (d : LogDirective) (position : Position) (place : Nat) (c : Char) :
    Reading (LogDirective × Position) := do
  match position, c with
  | .start, '[' => return (d, .span (place + 1))
  | .start, c =>
    if canStart c then return (d, .levelOrTarget place) else throw .unreadable
  | .levelOrTarget first, '=' =>
    return ({ d with target := some (← part text first place) }, .level (place + 1))
  | .levelOrTarget first, '[' =>
    return ({ d with target := some (← part text first place) }, .span (place + 1))
  | .span first, ']' =>
    return ({ d with span := some (← part text first place) }, .behindTarget)
  | .span first, '\x7b' => do
    let name ← part text first place
    return ({ d with span := if name.isEmpty then none else some name }, .field (place + 1))
  | .field first, '\x7d' =>
    return ({ d with field := some (← fieldTest (← part text first place)) }, .behindField)
  | .behindField, ']' => return (d, .behindTarget)
  | .behindTarget, '=' => return (d, .level (place + 1))
  | .behindField, _ => throw .unreadable
  | .behindTarget, _ => throw .unreadable
  | position, _ => return (d, position)

/-- Read characters one after the other, the first of which is at `place`. -/
def steps (text : List Char) (d : LogDirective) (position : Position) (place : Nat) :
    List Char → Reading (LogDirective × Position)
  | [] => .ok (d, position)
  | c :: cs => do
    let (d, position) ← step text d position place c
    steps text d position (place + c.utf8Size) cs

/-- The directive once all its characters were read. A text that can be a level or a target is a
level if it is one. -/
def finish (text : List Char) (d : LogDirective) : Position → Reading LogDirective
  | .levelOrTarget first => do
    let cs ← partFrom text first
    match Level.rankOf? cs with
    | some n => return { d with level := n }
    | none => return { d with target := some cs }
  | .level first => do
    return { d with level := ← rank (← partFrom text first) }
  | .behindTarget => return d
  | _ => throw .unreadable

/-- Read a directive. -/
def parse (text : List Char) : Reading LogDirective := do
  let (d, position) ← steps text everything .start 0 (trimBlanks text)
  finish text d position

/-! ## Judging -/

/-- The name of the one field that a record of the launcher has. -/
def messageField : List Char := "message".toList

/-- Whether the directive judges records on their own. One about a span or the value of a field
admits what happens within spans, and the launcher opens none. -/
def judgesRecords (d : LogDirective) : Bool :=
  d.span.isNone && !(d.field.any FieldTest.valued)

/-- The directive is about a record with this target. -/
def concerns (d : LogDirective) (target : String) : Bool :=
  (d.target.all fun t => t.isPrefixOf target.toList) &&
    (d.field.all fun f => f.name == messageField)

/-- The first directive says more precisely than the second what it is about : it has a target and
the other one has none, or a longer one, or an equally long one and a field that only it asks
for. -/
def isCloser (d e : LogDirective) : Bool :=
  let length (d : LogDirective) : Nat :=
    (d.target.map fun t => (String.ofList t).utf8ByteSize + 1).getD 0
  let fields (d : LogDirective) := d.field.toList.length
  length e < length d || (length e == length d && fields e < fields d)

end LogDirective

end ServerLauncher
