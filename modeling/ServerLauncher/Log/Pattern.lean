import ServerLauncher.Text.Alphanumeric
import ServerLauncher.Text.Digits

/-!
# Patterns of field values

A log directive can ask that a field's value matches a pattern, a regular expression. No record of
the launcher has a field that is judged by its value, so a pattern is only read to see whether it
is one : `isPattern` says so. Groups and classes have to be closed, a repetition needs something to
repeat, and a range must not go backwards. Counts in braces, looking around and the edges of words
are not supported.
-/

namespace ServerLauncher.Log

/-! ## Escapes -/

/-- What the signs behind a backslash stand for. -/
inductive Escaped where
  /-- The character of a code point. -/
  | literal (code : Nat)
  /-- Any character of a kind. -/
  | kind
  /-- A place in the text. -/
  | place
  deriving Repr, DecidableEq

/-- The signs that stand for themselves behind a backslash : those of ASCII that are neither
letters nor digits, apart from the edges of words. -/
def isPlainSign (c : Char) : Bool :=
  c.toNat < 0x80 && !c.isAlphanum && c != '<' && c != '>'

/-- The control characters with a letter of their own. -/
def controlCode? : Char → Option Nat
  | 'a' => some 0x07
  | 'f' => some 0x0C
  | 't' => some 0x09
  | 'n' => some 0x0A
  | 'r' => some 0x0D
  | 'v' => some 0x0B
  | _ => none

/-- How many digits follow a letter that announces a code point. -/
def codeDigits? : Char → Option Nat
  | 'x' => some 2
  | 'u' => some 4
  | 'U' => some 8
  | _ => none

/-- The code point that is written with exactly `n` digits in front of a text. -/
def codeOf? (n : Nat) (cs : List Char) : Option Nat :=
  if cs.length < n then none
  else (numberIn? 16 (cs.take n)).filter fun code => decide code.isValidChar

/-- The letters of the general categories, of either case. -/
def isCategory (c : Char) : Bool :=
  "CLMNPSZclmnpsz".toList.contains c

/-- What the signs behind a backslash stand for, and how many they are. -/
def escaped? : List Char → Option (Escaped × Nat)
  | [] => none
  | c :: cs =>
    if isPlainSign c then some (.literal c.toNat, 1)
    else if "dswDSW".toList.contains c then some (.kind, 1)
    else if c = 'A' ∨ c = 'z' then some (.place, 1)
    else if c = 'p' ∨ c = 'P' then
      if cs.head?.any isCategory then some (.kind, 2) else none
    else
      match codeDigits? c with
      | some n => (codeOf? n cs).map fun code => (.literal code, n + 1)
      | none => (controlCode? c).map fun code => (.literal code, 1)

/-! ## Groups -/

/-- How a group starts. -/
inductive GroupStart where
  | plain
  | named (name : List Char)
  /-- No group, but flags for what follows. -/
  | flags
  deriving Repr, DecidableEq

/-- The name of a group : it starts with a letter or an underscore. -/
def isGroupName : List Char → Bool
  | [] => false
  | c :: cs =>
    (c == '_' || isAlphanumeric c && (digit? c).isNone) &&
      cs.all fun c => isAlphanumeric c || ['_', '.', '[', ']'].contains c

/-- Flags that can be set and unset : each at most once, and after a hyphen at least one. -/
def areFlags (cs : List Char) : Bool :=
  cs.all (fun c => "imsUuRx-".toList.contains c) && cs.eraseDups.length == cs.length &&
    cs.getLast? != some '-'

/-- The start of a group with a name, which begins behind `skipped` signs. -/
def namedStart? (skipped : Nat) (cs : List Char) : Option (GroupStart × Nat) :=
  let name := (cs.drop skipped).takeWhile (· != '>')
  if isGroupName name && skipped + name.length < cs.length then
    some (.named name, skipped + name.length + 1)
  else none

/-- The start of a group behind its parenthesis, and how many signs it takes. -/
def groupStart? (cs : List Char) : Option (GroupStart × Nat) :=
  if ['?', 'P', '<'].isPrefixOf cs then namedStart? 3 cs
  else if ['?', '<'].isPrefixOf cs then namedStart? 2 cs
  else if cs.head? = some '?' then
    let flags := (cs.drop 1).takeWhile fun c => c != ':' && c != ')'
    if areFlags flags then
      match cs[flags.length + 1]? with
      | some ':' => some (.plain, flags.length + 2)
      | some _ => if flags.isEmpty then none else some (.flags, flags.length + 2)
      | none => none
    else none
  else some (.plain, 0)

/-! ## Classes -/

/-- The classes of ASCII that have names. -/
def classNames : List String :=
  ["alnum", "alpha", "ascii", "blank", "cntrl", "digit", "graph", "lower", "print", "punct",
   "space", "upper", "word", "xdigit"]

/-- The length of a named class in front of a text, such as `[:alpha:]` or `[:^alpha:]`. -/
def namedClass? (cs : List Char) : Option Nat :=
  if ['[', ':'].isPrefixOf cs then
    let inverse := if cs[2]? = some '^' then 1 else 0
    let name := (cs.drop (2 + inverse)).takeWhile (· != ':')
    if classNames.contains (String.ofList name) &&
        [':', ']'].isPrefixOf (cs.drop (2 + inverse + name.length)) then
      some (name.length + inverse + 4)
    else none
  else none

/-- How many signs open a class : its bracket, the sign of the opposite, and hyphens or a closing
bracket that stand for themselves. -/
def openLength (cs : List Char) : Nat :=
  let inverse := if cs[1]? = some '^' then 1 else 0
  let rest := cs.drop (1 + inverse)
  let hyphens := (rest.takeWhile (· == '-')).length
  let bracket := if hyphens = 0 ∧ rest.head? = some ']' then 1 else 0
  1 + inverse + hyphens + bracket

/-- A member of a class, as a code point if it is one character, and its length. -/
def member? : List Char → Option (Option Nat × Nat)
  | [] => none
  | '\\' :: cs =>
    match escaped? cs with
    | some (.literal code, n) => some (some code, n + 1)
    | some (.kind, n) => some (none, n + 1)
    | _ => none
  | c :: _ => some (some c.toNat, 1)

/-- The length of a member of a class or a range of them. -/
def range? (cs : List Char) : Option Nat :=
  match member? cs with
  | none => none
  | some (low, n) =>
    let rest := cs.drop n
    if rest.head? = some '-' ∧ rest[1]? ≠ some ']' ∧ rest[1]? ≠ some '-' then
      match low, member? (rest.drop 1) with
      | some low, some (some high, m) => if low ≤ high then some (n + 1 + m) else none
      | _, _ => none
    else some n

/-! ## Patterns -/

/-- What was read of a pattern : how many groups and classes are open, the names of groups, and
whether there is something in front that can be repeated. -/
structure PatternState where
  groups : Nat
  classes : Nat
  names : List (List Char)
  item : Bool
  deriving Repr, DecidableEq

namespace PatternState

/-- Read on inside of a class : the state and how many signs were read. -/
def inClass? (s : PatternState) (cs : List Char) : Option (PatternState × Nat) :=
  match cs with
  | '[' :: _ =>
    match namedClass? cs with
    | some n => some (s, n)
    | none => some ({ s with classes := s.classes + 1 }, openLength cs)
  | ']' :: _ => some ({ s with classes := s.classes - 1, item := true }, 1)
  | '&' :: '&' :: _ => some (s, 2)
  | '-' :: '-' :: _ => some (s, 2)
  | '~' :: '~' :: _ => some (s, 2)
  | _ => (range? cs).map fun n => (s, n)

/-- Open a group. -/
def openGroup? (s : PatternState) (cs : List Char) : Option (PatternState × Nat) :=
  match groupStart? cs with
  | some (.plain, n) => some ({ s with groups := s.groups + 1, item := false }, n + 1)
  | some (.named name, n) =>
    if s.names.contains name then none
    else some (⟨s.groups + 1, s.classes, name :: s.names, false⟩, n + 1)
  | some (.flags, n) => some ({ s with item := false }, n + 1)
  | none => none

/-- Read on outside of classes : the state and how many signs were read. -/
def outside? (s : PatternState) : List Char → Option (PatternState × Nat)
  | [] => none
  | c :: cs =>
    match c with
    | '(' => s.openGroup? cs
    | ')' =>
      if s.groups = 0 then none else some ({ s with groups := s.groups - 1, item := true }, 1)
    | '|' => some ({ s with item := false }, 1)
    | '[' => some ({ s with classes := 1 }, openLength (c :: cs))
    | '\\' => (escaped? cs).map fun e => ({ s with item := true }, e.2 + 1)
    | '\x7b' => none
    | _ =>
      if c = '*' ∨ c = '+' ∨ c = '?' then
        if s.item then some (s, if cs.head? = some '?' then 2 else 1) else none
      else some ({ s with item := true }, 1)

/-- Read a pattern to its end. At most `fuel` steps are made, one for each sign. -/
def isComplete (s : PatternState) : Nat → List Char → Bool
  | _, [] => s.groups == 0 && s.classes == 0
  | 0, _ => false
  | fuel + 1, cs =>
    match if s.classes = 0 then s.outside? cs else s.inClass? cs with
    | none => false
    | some (s, n) => s.isComplete fuel (cs.drop n)

end PatternState

/-- The text is a pattern. -/
def isPattern (cs : List Char) : Bool :=
  PatternState.isComplete ⟨0, 0, [], false⟩ cs.length cs

/-- The rest of a number behind its sign : digits with a point, an exponent, or no number at all. -/
def isMagnitude (cs : List Char) : Bool :=
  let word := String.ofList (cs.map Char.toLower)
  if ["inf", "infinity", "nan"].contains word then true
  else
    let whole := cs.takeWhile Char.isDigit
    let rest := cs.drop whole.length
    let (part, rest) :=
      match rest with
      | '.' :: rest => (rest.takeWhile Char.isDigit, rest.dropWhile Char.isDigit)
      | rest => ([], rest)
    let exponent :=
      match rest with
      | [] => true
      | e :: '+' :: ds => (e == 'e' || e == 'E') && (number? ds).isSome
      | e :: '-' :: ds => (e == 'e' || e == 'E') && (number? ds).isSome
      | e :: ds => (e == 'e' || e == 'E') && (number? ds).isSome
    !(whole ++ part).isEmpty && exponent

/-- The text is a value that a field can be compared with : a number or a pattern. Every number
without a plus sign in front is a pattern too. -/
def isFieldValue (cs : List Char) : Bool :=
  match cs with
  | '+' :: rest => isMagnitude rest || isPattern cs
  | _ => isPattern cs

end ServerLauncher.Log
