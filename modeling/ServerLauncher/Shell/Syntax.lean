import ServerLauncher.Text.Digits
import ServerLauncher.Text.Utf8

/-!
# Shell commands

What a script says. A `Word` still holds its variables, quotes and commands whose output stands for
them ; a `Redirect` says where a command reads and writes ; a `Command` is a simple one or puts
others together. In a script a character stands for a byte (`charOf`, `byteOf`).
-/

namespace ServerLauncher.Shell

/-- A byte as a character. -/
def charOf (b : UInt8) : Char :=
  Char.ofNat b.toNat

/-- A character that stands for a byte. -/
def byteOf (c : Char) : UInt8 :=
  UInt8.ofNat c.toNat

/-- The bytes of an ASCII text. -/
def ascii (s : String) : Bytes :=
  Utf8.encode s

/-- The order of byte strings, byte by byte. -/
def bytesLe : Bytes → Bytes → Bool
  | [], _ => true
  | _ :: _, [] => false
  | a :: as, b :: bs => a < b || (a == b && bytesLe as bs)

/-- The character that opens a brace. -/
def openBrace : Char := '\x7b'

/-- The character that closes a brace. -/
def closeBrace : Char := '\x7d'

/-- The character in front of and behind a command whose output is meant. -/
def backquote : Char := '\x60'

/-! ## Words -/

/-- What is made of a variable. With `orEmpty`, an empty one counts as one that is not set. -/
inductive ParameterUse where
  | value
  | length
  /-- The argument in place of a missing value. -/
  | default (orEmpty : Bool)
  /-- The argument, which the variable gets as well, in place of a missing value. -/
  | assign (orEmpty : Bool)
  /-- The end of the shell in place of a missing value. -/
  | demand (orEmpty : Bool)
  /-- The argument in place of a value that is there. -/
  | alternative (orEmpty : Bool)
  /-- The value without what the argument matches in front. -/
  | cutFront (longest : Bool)
  /-- The value without what the argument matches at its end. -/
  | cutBack (longest : Bool)
  deriving Repr, DecidableEq

/-- A part of a word. -/
inductive WordPart where
  | char (c : Char) (quoted : Bool)
  | parameter (name : List Char) (use : ParameterUse) (argument : List Char) (quoted : Bool)
  /-- The output of a script. -/
  | output (script : List Char) (quoted : Bool)
  /-- The value of an arithmetic expression. -/
  | arithmetic (expression : List Char) (quoted : Bool)
  /-- Quotes, which make a word even with nothing between them. -/
  | quotes
  /-- Braces that say nothing. -/
  | bad
  deriving Repr, DecidableEq

/-- A word whose variables have no values yet. -/
abbrev Word := List WordPart

/-- The text of a word without quotes or variables, as keywords and names are. -/
def Word.literal? (w : Word) : Option (List Char) :=
  w.mapM fun
    | .char c false => some c
    | _ => none

/-! ## Names -/

/-- A character of the name of a variable. -/
def isNameChar (c : Char) : Bool :=
  c.isAlphanum || c == '_'

/-- The text is the name of a variable. -/
def isIdentifier (cs : List Char) : Bool :=
  match cs with
  | [] => false
  | c :: cs => isNameChar c && !c.isDigit && cs.all isNameChar

/-- The names of variables that are one sign. -/
def isSign (c : Char) : Bool :=
  ['$', '?', '#', '@', '*', '!', '-'].contains c || c.isDigit

/-- The name and the value of a word that sets a variable. -/
def Word.assignment? (w : Word) : Option (List Char × Word) :=
  let name := w.takeWhile fun
    | .char c false => isNameChar c
    | _ => false
  match Word.literal? name, w.drop name.length with
  | some cs, .char '=' false :: value => if isIdentifier cs then some (cs, value) else none
  | _, _ => none

/-! ## Commands -/

/-- How a file is opened. -/
inductive Opening where
  | read
  | write
  | append
  | readWrite
  deriving Repr, DecidableEq

/-- A change of what a file descriptor stands for. -/
inductive Redirect where
  | file (fd : Nat) (opening : Opening) (target : Word)
  /-- The same as another descriptor, or nothing. -/
  | duplicate (fd : Nat) (target : Word)
  /-- A text in the script to read from ; with `exact` it holds no variables. -/
  | text (fd : Nat) (body : List Char) (exact : Bool)
  deriving Repr, DecidableEq

/-- A command. The branches of `byCase` are a chain of `branch`es that ends in `nothing`. -/
inductive Command where
  | nothing
  | simple (line : Nat) (words : List Word) (redirects : List Redirect)
  | redirected (line : Nat) (body : Command) (redirects : List Redirect)
  | sequence (first second : Command)
  | both (first second : Command)
  | either (first second : Command)
  | negation (body : Command)
  | pipe (first second : Command)
  | background (body : Command)
  | subshell (body : Command)
  | choice (condition yes no : Command)
  /-- A loop that goes on while its condition is as wanted. -/
  | loop (wanted : Bool) (condition body : Command)
  | forEach (name : List Char) (items : Option (List Word)) (body : Command)
  | byCase (subject : Word) (branches : Command)
  | branch (patterns : List Word) (body rest : Command)
  | define (name : List Char) (body : Command)
  deriving Repr, DecidableEq

end ServerLauncher.Shell
