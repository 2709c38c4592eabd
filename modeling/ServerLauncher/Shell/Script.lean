import ServerLauncher.Shell.Token

/-!
# Reading commands

A script is read line by line : `Script.next?` reads the commands up to the end of a line that ends
a command, so what stands in front of a mistake is still run. Every step takes a token or goes from
a larger kind of command to a smaller one ; `fuel` bounds the steps by the number of tokens.
-/

namespace ServerLauncher.Shell

/-- What is left of a script : its tokens with their lines, the texts of redirections, and the line
that it ends in. -/
structure Script where
  tokens : List (Nat × Token)
  bodies : List (List Char)
  lastLine : Nat
  deriving Repr, DecidableEq

/-- A mistake in a script, and its line. -/
structure SyntaxError where
  line : Nat
  message : String
  deriving Repr, DecidableEq

namespace Script

/-- The script that a text is, which starts in a line. -/
def ofText (line : Nat) (cs : List Char) : Script :=
  let ts := Lexer.tokens line cs
  { tokens := ts.filter fun t =>
      match t.2 with
      | .body _ => false
      | _ => true
    bodies := ts.filterMap fun t =>
      match t.2 with
      | .body text => some text
      | _ => none
    lastLine := line + (cs.filter (· == '\n')).length }

/-- A part of a script being read. -/
abbrev Reader := StateT Script (Except SyntaxError)

/-! ## Tokens -/

/-- The words that mean something where a command can start. -/
def keywords : List String :=
  ["if", "then", "else", "elif", "fi", "do", "done", "case", "esac", "while", "until", "for",
   "\x7b", "\x7d", "!"]

/-- The keyword that a token is. -/
def keyword? : Option Token → Option String
  | some (.word w) => (w.literal?.map String.ofList).filter keywords.contains
  | _ => none

/-- A token as a mistake names it. -/
def describe (t : Option Token) : String :=
  match t, keyword? t with
  | none, _ => "end of file"
  | _, some k => "\"" ++ k ++ "\""
  | some .lineEnd, _ => "newline"
  | some .semicolon, _ => "\";\""
  | some .caseEnd, _ => "\";;\""
  | some .ampersand, _ => "\"&\""
  | some .andThen, _ => "\"&&\""
  | some .orElse, _ => "\"||\""
  | some .bar, _ => "\"|\""
  | some .openParen, _ => "\"(\""
  | some .closeParen, _ => "\")\""
  | some (.word _), _ => "word"
  | some _, _ => "redirection"

/-- The next token. -/
def peek : Reader (Option Token) := do
  return (← get).tokens.head?.map Prod.snd

/-- The line of the next token. -/
def line : Reader Nat := do
  let s ← get
  return (s.tokens.head?.map Prod.fst).getD s.lastLine

/-- Pass over a token. -/
def advance : Reader Unit :=
  modify fun s => { s with tokens := s.tokens.tail }

/-- The next token is a mistake, where something else may have been expected. -/
def fail {α : Type} (expected : Option String) : Reader α := do
  let t ← peek
  let message :=
    match t, expected with
    | some .broken, _ => "Unterminated quoted string"
    | t, some e => describe t ++ " unexpected (expecting \"" ++ e ++ "\")"
    | t, none => describe t ++ " unexpected"
  throw ⟨← line, message⟩

/-- Pass over a keyword, which has to be there. -/
def expect (k : String) : Reader Unit := do
  if keyword? (← peek) = some k then advance else fail (some k)

/-- Pass over ends of lines. -/
def skipLineEnds : Reader Unit :=
  modify fun s => { s with tokens := s.tokens.dropWhile fun t => t.2 == .lineEnd }

/-- A list of commands ends here. -/
def atEnd : Reader Bool := do
  let t ← peek
  match t with
  | none => return true
  | some .closeParen => return true
  | some .caseEnd => return true
  | t =>
    return (keyword? t).any
      ["then", "else", "elif", "fi", "do", "done", "esac", "\x7d"].contains

/-- The next word. -/
def word : Reader Word := do
  match ← peek with
  | some (.word w) => do
    advance
    return w
  | _ => fail none

/-- The redirection that the next tokens are, if they are one. -/
def redirect? : Reader (Option Redirect) := do
  match ← peek with
  | some (.redirect fd opening) => do
    advance
    return some (.file fd opening (← word))
  | some (.duplicate fd) => do
    advance
    return some (.duplicate fd (← word))
  | some (.text fd _) => do
    advance
    let w ← word
    let s ← get
    set { s with bodies := s.bodies.tail }
    return some (.text fd (s.bodies.headD []) w.literal?.isNone)
  | _ => return none

/-- The redirections that come next. -/
def redirects : Nat → Reader (List Redirect)
  | 0 => return []
  | fuel + 1 => do
    match ← redirect? with
    | some r => return r :: (← redirects fuel)
    | none => return []

/-- The words that come next. -/
def words : Nat → Reader (List Word)
  | 0 => return []
  | fuel + 1 => do
    match ← peek with
    | some (.word w) => do
      advance
      return w :: (← words fuel)
    | _ => return []

/-- Words and redirections in any order. -/
def simpleParts : Nat → Reader (List Word × List Redirect)
  | 0 => return ([], [])
  | fuel + 1 => do
    match ← peek with
    | some (.word w) => do
      advance
      let (ws, rs) ← simpleParts fuel
      return (w :: ws, rs)
    | _ =>
      match ← redirect? with
      | some r => do
        let (ws, rs) ← simpleParts fuel
        return (ws, r :: rs)
      | none => return ([], [])

/-- The patterns of a branch, with bars between them, and the parenthesis behind them. -/
def patterns : Nat → Reader (List Word)
  | 0 => fail none
  | fuel + 1 => do
    let w ← word
    match ← peek with
    | some .bar => do
      advance
      return w :: (← patterns fuel)
    | some .closeParen => do
      advance
      return [w]
    | _ => fail (some ")")

/-- A simple command. -/
def simple (fuel : Nat) : Reader Command := do
  let n ← line
  match ← simpleParts fuel with
  | ([], []) => fail none
  | (ws, rs) => return .simple n ws rs

/-- The name of a function that is defined next, with its parentheses passed over. -/
def functionName? : Reader (Option (List Char)) := do
  match (← get).tokens with
  | (_, .word w) :: (_, .openParen) :: (_, .closeParen) :: rest =>
    match w.literal? with
    | some name => do
      modify fun s => { s with tokens := rest }
      return some name
    | none => return none
  | _ => return none

/-! ## Commands -/

mutual

/-- Commands up to what ends a list of them ; at least one. -/
def list : Nat → Reader Command
  | 0 => fail none
  | fuel + 1 => do
    skipLineEnds
    let c ← andOr fuel
    match ← peek with
    | some .ampersand => more fuel (.background c)
    | some .semicolon => more fuel c
    | some .lineEnd => more fuel c
    | _ => return c

/-- A command and those behind the sign that separates it from them. -/
def more : Nat → Command → Reader Command
  | 0, _ => fail none
  | fuel + 1, c => do
    advance
    skipLineEnds
    if ← atEnd then return c else return .sequence c (← list fuel)

/-- A command, and those whose running depends on it. -/
def andOr : Nat → Reader Command
  | 0 => fail none
  | fuel + 1 => do
    let c ← pipeline fuel
    andOrRest fuel c

/-- What depends on a command. -/
def andOrRest : Nat → Command → Reader Command
  | 0, _ => fail none
  | fuel + 1, c => do
    match ← peek with
    | some .andThen => do
      advance
      skipLineEnds
      let d ← pipeline fuel
      andOrRest fuel (.both c d)
    | some .orElse => do
      advance
      skipLineEnds
      let d ← pipeline fuel
      andOrRest fuel (.either c d)
    | _ => return c

/-- Commands that read each other's output. -/
def pipeline : Nat → Reader Command
  | 0 => fail none
  | fuel + 1 => do
    if keyword? (← peek) = some "!" then do
      advance
      return .negation (← pipeline fuel)
    else do
      let c ← command fuel
      match ← peek with
      | some .bar => do
        advance
        skipLineEnds
        return .pipe c (← pipeline fuel)
      | _ => return c

/-- One command with its redirections. -/
def command : Nat → Reader Command
  | 0 => fail none
  | fuel + 1 => do
    let n ← line
    match ← functionName? with
    | some name => do
      skipLineEnds
      return .define name (← command fuel)
    | none =>
      match ← compound? fuel with
      | some c =>
        match ← redirects fuel with
        | [] => return c
        | rs => return .redirected n c rs
      | none => simple fuel

/-- A command that is put together of others, if there is one. -/
def compound? : Nat → Reader (Option Command)
  | 0 => fail none
  | fuel + 1 => do
    let t ← peek
    match keyword? t with
    | some "if" => do
      advance
      return some (← choice fuel)
    | some "while" => return some (← loop fuel true)
    | some "until" => return some (← loop fuel false)
    | some "for" => return some (← forEach fuel)
    | some "case" => return some (← byCase fuel)
    | some "\x7b" => do
      advance
      let c ← list fuel
      expect "\x7d"
      return some c
    | some _ => fail none
    | none =>
      if t = some .openParen then do
        advance
        let c ← list fuel
        if (← peek) = some .closeParen then do
          advance
          return some (.subshell c)
        else fail (some ")")
      else return none

/-- The rest of a choice behind its first keyword. -/
def choice : Nat → Reader Command
  | 0 => fail none
  | fuel + 1 => do
    let condition ← list fuel
    expect "then"
    let yes ← list fuel
    match keyword? (← peek) with
    | some "elif" => do
      advance
      return .choice condition yes (← choice fuel)
    | some "else" => do
      advance
      let no ← list fuel
      expect "fi"
      return .choice condition yes no
    | _ => do
      expect "fi"
      return .choice condition yes .nothing

/-- A loop with a condition. -/
def loop : Nat → Bool → Reader Command
  | 0, _ => fail none
  | fuel + 1, wanted => do
    advance
    let condition ← list fuel
    return .loop wanted condition (← body fuel)

/-- The body of a loop. -/
def body : Nat → Reader Command
  | 0 => fail none
  | fuel + 1 => do
    expect "do"
    let c ← list fuel
    expect "done"
    return c

/-- A loop over words. -/
def forEach : Nat → Reader Command
  | 0 => fail none
  | fuel + 1 => do
    advance
    match (← word).literal? with
    | none => fail none
    | some name => do
      skipLineEnds
      let items ← do
        match ← peek with
        | some (.word w) =>
          if w.literal? = some "in".toList then do
            advance
            some <$> words fuel
          else pure none
        | _ => pure none
      if (← peek) = some .semicolon then advance
      skipLineEnds
      return .forEach name items (← body fuel)

/-- A choice by patterns. -/
def byCase : Nat → Reader Command
  | 0 => fail none
  | fuel + 1 => do
    advance
    let subject ← word
    skipLineEnds
    if (← word).literal? = some "in".toList then do
      skipLineEnds
      return .byCase subject (← branches fuel)
    else fail (some "in")

/-- The branches of a choice by patterns, and its end. -/
def branches : Nat → Reader Command
  | 0 => fail none
  | fuel + 1 => do
    if keyword? (← peek) = some "esac" then do
      advance
      return .nothing
    else do
      if (← peek) = some .openParen then advance
      let ps ← patterns fuel
      skipLineEnds
      let c ← if ← atEnd then pure .nothing else list fuel
      if (← peek) = some .caseEnd then do
        advance
        skipLineEnds
        return .branch ps c (← branches fuel)
      else do
        expect "esac"
        return .branch ps c .nothing

end

/-! ## Lines -/

/-- The commands up to the end of a line. -/
def lineOf : Nat → Reader Command
  | 0 => fail none
  | fuel + 1 => do
    let c ← andOr fuel
    let next (c : Command) : Reader Command := do
      advance
      match ← peek with
      | none => return c
      | some .lineEnd => do
        advance
        return c
      | _ => return .sequence c (← lineOf fuel)
    match ← peek with
    | none => return c
    | some .lineEnd => do
      advance
      return c
    | some .semicolon => next c
    | some .ampersand => next (.background c)
    | _ => fail none

/-- Steps that are enough to read a script. -/
def fuelFor (s : Script) : Nat :=
  8 * (s.tokens.length + 2)

/-- The commands of the next line, and the script behind it. -/
def next? (s : Script) : Option (Except SyntaxError (Command × Script)) :=
  let s := { s with tokens := s.tokens.dropWhile fun t => t.2 == Token.lineEnd }
  if s.tokens.isEmpty then none else some ((lineOf s.fuelFor).run s)

end Script

end ServerLauncher.Shell
