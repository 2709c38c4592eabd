import ServerLauncher.Shell.Syntax

/-!
# Tokens of a script

`Lexer` reads a script one character at a time. What stands between `$(` and `)`, in braces or
between backquotes is kept as it is (`Lexer.Nested`), to be read when it is needed. A text that a
redirection reads from the script itself follows the line of the redirection, up to a line that is
its end word.
-/

namespace ServerLauncher.Shell

/-- What a script is made of. -/
inductive Token where
  | word (w : Word)
  | lineEnd
  | semicolon
  | caseEnd
  | ampersand
  | andThen
  | orElse
  | bar
  | openParen
  | closeParen
  /-- A redirection, whose target is the next word. -/
  | redirect (fd : Nat) (opening : Opening)
  | duplicate (fd : Nat)
  /-- A redirection from a text of the script, whose end word is the next word. -/
  | text (fd : Nat) (withoutTabs : Bool)
  /-- The text of such a redirection. -/
  | body (text : List Char)
  /-- Quotes or brackets without an end. -/
  | broken
  deriving Repr, DecidableEq

namespace Lexer

/-- What kind of text is kept as it is. -/
inductive Bracket where
  | paren
  | brace
  | backquote
  deriving Repr, DecidableEq

/-- A text that is kept as it is : the signs that it waits for, innermost first, whether the last
character was a backslash or a dollar sign, and the text in reverse. -/
structure Nested where
  bracket : Bracket
  awaited : List Char
  escaped : Bool
  dollar : Bool
  text : List Char
  deriving Repr, DecidableEq

/-- Where in a script the reader is. -/
inductive Mode where
  | plain
  | comment
  | single
  | double
  | escape (quoted : Bool)
  | dollar (quoted : Bool)
  /-- Within the name of a variable, read in reverse. -/
  | name (quoted : Bool) (done : List Char)
  | nested (quoted : Bool) (n : Nested)
  /-- Within an operator, behind a digit if that names its descriptor. -/
  | operator (fd : Option Nat) (done : List Char)
  /-- Within the text of a redirection : the line under way and the text before, in reverse. -/
  | body (line text : List Char)
  deriving Repr, DecidableEq

/-- What kind of text is read. -/
inductive Style where
  | script
  /-- One word, in which blanks and operators mean nothing. -/
  | argument
  /-- A text in which only variables and outputs mean something. -/
  | body
  deriving Repr, DecidableEq

/-- The state of the reader : the word under way and the tokens with their lines, both in reverse,
and the end words of texts that are to come. -/
structure State where
  style : Style
  mode : Mode
  line : Nat
  word : Word
  done : List (Nat × Token)
  endWords : List (List Char × Bool)
  deriving Repr, DecidableEq

namespace State

/-- Add a token. The word behind a redirection from a text is the text's end word. -/
def addToken (s : State) (t : Token) : State :=
  let s := match s.done, t with
    | (_, .text _ tabs) :: _, .word w =>
      let cs := w.filterMap fun p =>
        match p with
        | WordPart.char c _ => some c
        | _ => none
      { s with endWords := s.endWords ++ [(cs, tabs)] }
    | _, _ => s
  { s with done := (s.line, t) :: s.done }

/-- Finish the word under way. -/
def endWord (s : State) : State :=
  if s.word.isEmpty then s else { s with word := [] }.addToken (.word s.word.reverse)

/-- Finish the word under way and add a token. -/
def push (s : State) (t : Token) : State :=
  { s.endWord.addToken t with mode := .plain }

/-- Add a part to the word under way. -/
def extend (s : State) (p : WordPart) (mode : Mode) : State :=
  { s with word := p :: s.word, mode }

/-- The mode that a variable stands in. -/
def around (quoted : Bool) : Mode :=
  if quoted then .double else .plain

/-! ## Operators -/

/-- The operators, longest first where one starts with another. -/
def operators : List (String × (Option Nat → Token)) :=
  [("&&", fun _ => .andThen), ("||", fun _ => .orElse), (";;", fun _ => .caseEnd),
   ("<<-", fun fd => .text (fd.getD 0) true), ("<<", fun fd => .text (fd.getD 0) false),
   (">>", fun fd => .redirect (fd.getD 1) .append), (">&", fun fd => .duplicate (fd.getD 1)),
   ("<&", fun fd => .duplicate (fd.getD 0)), ("<>", fun fd => .redirect (fd.getD 0) .readWrite),
   (">|", fun fd => .redirect (fd.getD 1) .write), (">", fun fd => .redirect (fd.getD 1) .write),
   ("<", fun fd => .redirect (fd.getD 0) .read), ("&", fun _ => .ampersand),
   ("|", fun _ => .bar), (";", fun _ => .semicolon)]

/-- The token of an operator. -/
def operator? (cs : List Char) : Option (Option Nat → Token) :=
  (operators.find? fun o => o.1.toList == cs).map Prod.snd

/-- A character that operators start with. -/
def startsOperator (c : Char) : Bool :=
  (operator? [c]).isSome

/-- The descriptor that stands in front of an operator, if the word under way is one digit. -/
def descriptor? (s : State) : Option Nat :=
  match s.word with
  | [.char d false] => digit? d
  | _ => none

/-- The first character of an operator. -/
def onOperator (s : State) (c : Char) : State :=
  match s.descriptor?, c == '<' || c == '>' with
  | some fd, true => { s with word := [], mode := .operator (some fd) [c] }
  | _, _ => { s.endWord with mode := .operator none [c] }

/-! ## Kept texts -/

/-- The variable that a text in braces means. -/
def parameterOf (quoted : Bool) (cs : List Char) : WordPart :=
  let name (cs : List Char) : List Char :=
    match cs with
    | [] => []
    | c :: _ =>
      if c.isDigit then cs.takeWhile Char.isDigit
      else if isNameChar c then cs.takeWhile isNameChar
      else if isSign c then [c]
      else []
  let use (name rest : List Char) : WordPart :=
    let make (use : ParameterUse) (argument : List Char) : WordPart :=
      .parameter name use argument quoted
    match rest with
    | [] => make .value []
    | ':' :: '-' :: cs => make (.default true) cs
    | '-' :: cs => make (.default false) cs
    | ':' :: '=' :: cs => make (.assign true) cs
    | '=' :: cs => make (.assign false) cs
    | ':' :: '?' :: cs => make (.demand true) cs
    | '?' :: cs => make (.demand false) cs
    | ':' :: '+' :: cs => make (.alternative true) cs
    | '+' :: cs => make (.alternative false) cs
    | '#' :: '#' :: cs => make (.cutFront true) cs
    | '#' :: cs => make (.cutFront false) cs
    | '%' :: '%' :: cs => make (.cutBack true) cs
    | '%' :: cs => make (.cutBack false) cs
    | _ => .bad
  match cs with
  | '#' :: d :: rest =>
    let n := name (d :: rest)
    if !n.isEmpty && n.length == rest.length + 1 then .parameter n .length [] quoted
    else use ['#'] (d :: rest)
  | cs =>
    let n := name cs
    if n.isEmpty then .bad else use n (cs.drop n.length)

/-- A text between backquotes without its own backslashes. -/
def withoutBackslashes (quoted : Bool) : List Char → List Char
  | '\\' :: c :: cs =>
    if c = '$' ∨ c = backquote ∨ c = '\\' ∨ (quoted ∧ c = '"') then
      c :: withoutBackslashes quoted cs
    else '\\' :: c :: withoutBackslashes quoted cs
  | c :: cs => c :: withoutBackslashes quoted cs
  | [] => []

/-- The part of a word that a kept text is. -/
def nestedPart (quoted : Bool) (bracket : Bracket) (cs : List Char) : WordPart :=
  match bracket with
  | .brace => parameterOf quoted cs
  | .backquote => .output (withoutBackslashes quoted cs) quoted
  | .paren =>
    if cs.head? = some '(' ∧ cs.getLast? = some ')' ∧ 1 < cs.length then
      .arithmetic (cs.drop 1).dropLast quoted
    else .output cs quoted

/-- The sign that a character makes a kept text wait for, where it waits for `top` already. -/
def awaitedBy? (quoted : Bool) (top c : Char) (dollar : Bool) : Option Char :=
  if top = '\'' ∨ top = backquote then none
  else if c = backquote then some backquote
  else if c = '(' ∧ (dollar ∨ top = ')') then some ')'
  else if c = openBrace ∧ dollar then some closeBrace
  else if c = '"' ∧ top ≠ '"' then some '"'
  else if c = '\'' ∧ top ≠ '"' ∧ !(quoted && top == closeBrace) then some '\''
  else none

/-- A character of a kept text. -/
def onNested (s : State) (quoted : Bool) (n : Nested) (c : Char) : State :=
  let go (n : Nested) : State := { s with mode := .nested quoted n }
  if n.escaped then go { n with escaped := false, dollar := false, text := c :: n.text }
  else
    match n.awaited with
    | [] => s
    | top :: outer =>
      if c = top then
        if outer.isEmpty then
          s.extend (nestedPart quoted n.bracket n.text.reverse) (around quoted)
        else go { n with awaited := outer, dollar := false, text := c :: n.text }
      else if c = '\\' ∧ top ≠ '\'' then
        go { n with escaped := true, dollar := false, text := c :: n.text }
      else
        go { n with
          awaited := (awaitedBy? quoted top c n.dollar).toList ++ n.awaited
          dollar := c == '$'
          text := c :: n.text }

/-- Begin a text that is kept. -/
def beginNested (s : State) (quoted : Bool) (bracket : Bracket) : State :=
  let close := match bracket with
    | .paren => ')'
    | .brace => closeBrace
    | .backquote => backquote
  { s with mode := .nested quoted ⟨bracket, [close], false, false, []⟩ }

/-! ## Characters -/

/-- A character in double quotes. -/
def onDouble (s : State) (c : Char) : State :=
  if c = '"' ∧ s.style ≠ .body then { s with mode := .plain }
  else if c = '\\' then { s with mode := .escape true }
  else if c = '$' then { s with mode := .dollar true }
  else if c = backquote then s.beginNested true .backquote
  else s.extend (.char c true) .double

/-- A character outside of quotes that means something in every word. -/
def onWord (s : State) (c : Char) : State :=
  if c = '\'' then s.extend .quotes .single
  else if c = '"' then s.extend .quotes .double
  else if c = '\\' then { s with mode := .escape false }
  else if c = '$' then { s with mode := .dollar false }
  else if c = backquote then s.beginNested false .backquote
  else s.extend (.char c false) .plain

/-- The end of a line. Texts of redirections come next. -/
def onLineEnd (s : State) : State :=
  let s := s.push .lineEnd
  if s.endWords.isEmpty then s else { s with mode := .body [] [] }

/-- A character outside of quotes. -/
def onPlain (s : State) (c : Char) : State :=
  let s := { s with mode := .plain }
  if s.style = .argument then s.onWord c
  else if c = ' ' ∨ c = '\t' then s.endWord
  else if c = '\n' then s.onLineEnd
  else if c = '(' then s.push .openParen
  else if c = ')' then s.push .closeParen
  else if startsOperator c then s.onOperator c
  else if c = '#' ∧ s.word.isEmpty then { s with mode := .comment }
  else s.onWord c

/-- A character where a variable or an operator has ended. -/
def onRest (s : State) (quoted : Bool) (c : Char) : State :=
  if quoted then s.onDouble c else s.onPlain c

/-- A character behind a backslash. -/
def onEscape (s : State) (quoted : Bool) (c : Char) : State :=
  if c = '\n' then { s with mode := around quoted }
  else if !quoted then s.extend (.char c true) .plain
  else if c = '$' ∨ c = '\\' ∨ c = backquote ∨ (c = '"' ∧ s.style ≠ .body) then
    s.extend (.char c true) .double
  else (s.extend (.char '\\' true) .double).extend (.char c true) .double

/-- A character behind a dollar sign. -/
def onDollar (s : State) (quoted : Bool) (c : Char) : State :=
  if c = openBrace then s.beginNested quoted .brace
  else if c = '(' then s.beginNested quoted .paren
  else if isSign c then s.extend (.parameter [c] .value [] quoted) (around quoted)
  else if isNameChar c then { s with mode := .name quoted [c] }
  else (s.extend (.char '$' quoted) (around quoted)).onRest quoted c

/-- A line of the text of a redirection has ended. -/
def onBodyLine (s : State) (line text : List Char) : State :=
  match s.endWords with
  | [] => { s with mode := .plain }
  | (word, tabs) :: more =>
    let line := if tabs then line.reverse.dropWhile (· == '\t') else line.reverse
    if line = word then
      let s := { s.addToken (.body text.reverse) with endWords := more }
      { s with mode := if more.isEmpty then .plain else .body [] [] }
    else { s with mode := .body [] ('\n' :: (line.reverse ++ text)) }

/-- Read a character. -/
def onChar (s : State) (c : Char) : State :=
  match s.mode with
  | .plain => s.onPlain c
  | .double => s.onDouble c
  | .comment => if c = '\n' then s.onLineEnd else s
  | .single =>
    if c = '\'' then { s with mode := .plain } else s.extend (.char c true) .single
  | .escape quoted => s.onEscape quoted c
  | .dollar quoted => s.onDollar quoted c
  | .name quoted done =>
    if isNameChar c then { s with mode := .name quoted (c :: done) }
    else
      (s.extend (.parameter done.reverse .value [] quoted) (around quoted)).onRest quoted c
  | .nested quoted n => s.onNested quoted n c
  | .operator fd done =>
    match operator? (c :: done).reverse, operator? done.reverse with
    | some _, _ => { s with mode := .operator fd (c :: done) }
    | none, some token => (s.push (token fd)).onPlain c
    | none, none => s.onPlain c
  | .body line text =>
    if c = '\n' then s.onBodyLine line text else { s with mode := .body (c :: line) text }

/-- Read a character and count the lines. -/
def step (s : State) (c : Char) : State :=
  let s' := s.onChar c
  if c = '\n' then { s' with line := s'.line + 1 } else s'

end State

/-- The reader in front of a text. -/
def start (style : Style) (mode : Mode) (line : Nat) : State :=
  ⟨style, mode, line, [], [], []⟩

/-- Finish the last line of the text of a redirection, if it has no end. -/
def finishBody (s : State) : State :=
  match s.mode with
  | .body line text => if line.isEmpty then s else s.onBodyLine line text
  | _ => s

/-- Read a text to its end. A variable at the very end has ended, quotes have not. -/
def finish (s : State) : State :=
  let s := finishBody s
  match s.mode with
  | .plain => s.endWord
  | .comment => s
  | .name quoted done =>
    (s.extend (.parameter done.reverse .value [] quoted) .plain).endWord
  | .dollar quoted => (s.extend (.char '$' quoted) .plain).endWord
  | .escape quoted => (s.extend (.char '\\' quoted) .plain).endWord
  | .operator fd done =>
    match State.operator? done.reverse with
    | some token => s.push (token fd)
    | none => s
  | .body _ text => s.addToken (.body text.reverse)
  | .double => if s.style = .script then s.push .broken else s.endWord
  | .single => s.push .broken
  | .nested _ _ => s.push .broken

/-- The tokens of a script that starts in a line, with their lines. -/
def tokens (line : Nat) (cs : List Char) : List (Nat × Token) :=
  (finish (cs.foldl State.step (start .script .plain line))).done.reverse

/-- The word that a text is in all its length. -/
def wholeWord (quoted : Bool) (cs : List Char) : Word :=
  let s := cs.foldl State.step (start .argument (State.around quoted) 1)
  ((finish s).done.filterMap fun
    | (_, .word w) => some w
    | _ => none).reverse.flatten

/-- The word that the text of a redirection is. -/
def bodyWord (cs : List Char) : Word :=
  let s := cs.foldl State.step (start .body .double 1)
  ((finish s).done.filterMap fun
    | (_, .word w) => some w
    | _ => none).reverse.flatten

end Lexer

end ServerLauncher.Shell
