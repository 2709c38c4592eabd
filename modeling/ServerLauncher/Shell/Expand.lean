import ServerLauncher.Shell.Arithmetic
import ServerLauncher.Shell.Pattern
import ServerLauncher.Shell.Session

/-!
# Words with their values

What the words of a command stand for once the command is run. `pieces` puts values in place of
variables, outputs and expressions ; `fields` cuts the outcome at the separators that a value
brought in ; `paths` puts the files in place of a pattern that matches some. Outputs of scripts are
given as an action, `outputOf`.
-/

namespace ServerLauncher.Shell

/-! ## Pieces -/

/-- A piece of a word with its values. -/
inductive Piece where
  /-- A byte. One that `splits` ends a word if it is a separator. -/
  | glyph (g : Glyph) (splits : Bool)
  /-- A sign that there is a word here, if an empty one. -/
  | mark
  /-- The end of a word. -/
  | cut
  deriving Repr, DecidableEq

/-- The pieces of a value. -/
def ofValue (quoted : Bool) (value : Bytes) : List Piece :=
  (if quoted then [.mark] else []) ++ value.map fun b => .glyph ⟨b, quoted⟩ (!quoted)

/-- The glyphs of pieces. -/
def glyphs (ps : List Piece) : List Glyph :=
  ps.filterMap fun
    | .glyph g _ => some g
    | .mark => none
    | .cut => some ⟨0x20, true⟩

/-- The bytes of pieces. -/
def flat (ps : List Piece) : Bytes :=
  (glyphs ps).map Glyph.byte

/-- The pieces of all arguments, each of which is a word. -/
def ofArguments (quoted : Bool) (args : List Bytes) : List Piece :=
  [Piece.cut].intercalate (args.map (ofValue quoted))

/-- Bytes without the line ends behind them. -/
def withoutLineEnds (bs : Bytes) : Bytes :=
  (bs.reverse.dropWhile (· == 0x0A)).reverse

/-- The word with the home directory in place of a tilde in front. -/
def withHome (s : Session) (w : Word) : Word :=
  let home := (s.get "HOME").map fun b => WordPart.char (charOf b) true
  match w with
  | [.char '~' false] => home
  | .char '~' false :: .char '/' q :: rest => home ++ .char '/' q :: rest
  | w => w

/-- The number of an expression. The variables that it sets are set. -/
def compute (text : Bytes) : Sh Bytes := do
  let s ← get
  match Expression.parse? (text.map charOf) with
  | none => fatal (ascii "arithmetic expression: expecting primary: \"" ++ text ++ ascii "\"")
  | some e =>
    match Expression.eval s.vars e with
    | .error .divisionByZero =>
      fatal (ascii "arithmetic expression: division by zero: \"" ++ text ++ ascii "\"")
    | .error (.illegalNumber t) => fatal (ascii "Illegal number: " ++ t)
    | .ok (n, vars) => do
      let fresh := vars.take (vars.length - s.vars.length)
      for v in fresh.reverse do
        discard <| assign v.1 v.2
      return ascii (toString n)

/-- How a missing value counts. -/
def isMissing (orEmpty : Bool) (value : Option Bytes) : Bool :=
  match value with
  | none => true
  | some v => orEmpty && v.isEmpty

/-- The value of a variable, all arguments being one value. -/
def joinedValue? (s : Session) (name : List Char) : Option Bytes :=
  if name = ['@'] ∨ name = ['*'] then
    if s.arguments.isEmpty then none
    else
      let between := if name = ['*'] then s.separators.take 1 else [0x20]
      some (between.intercalate s.arguments)
  else s.parameter? name

/-- The pieces of the value of a variable. -/
def ofParameter (s : Session) (name : List Char) (quoted : Bool) : List Piece :=
  if name = ['@'] ∨ (name = ['*'] ∧ !quoted) then ofArguments quoted s.arguments
  else ofValue quoted ((joinedValue? s name).getD [])

/-- The word with all of its characters in quotes. -/
def inQuotes (w : Word) : Word :=
  w.map fun
    | .char c _ => .char c true
    | p => p

/-- The pieces of a word, whose parts outside of quotes split like values if `splits`. At most
`depth` words are inside of each other. -/
def pieces (outputOf : List Char → Sh Bytes) : Nat → Bool → Word → Sh (List Piece)
  | 0, _, _ => return []
  | depth + 1, splits, w => do
    let argumentPieces (quoted : Bool) (argument : List Char) : Sh (List Piece) :=
      pieces outputOf depth (!quoted) (Lexer.wholeWord quoted argument)
    let mut result := []
    for part in w do
      let more : List Piece ← do
        match part with
        | .char c quoted => pure [.glyph ⟨byteOf c, quoted⟩ (splits && !quoted)]
        | .quotes => pure [.mark]
        | .bad => fatal (ascii "Bad substitution")
        | .output script quoted => do
          pure (ofValue quoted (withoutLineEnds (← outputOf script)))
        | .arithmetic e quoted => do
          let text := flat (← pieces outputOf depth false (Lexer.wholeWord true e))
          pure (ofValue quoted (← compute text))
        | .parameter name use argument quoted => do
          let s ← get
          let value := joinedValue? s name
          let shown := ascii (String.ofList name)
          match use with
          | .value =>
            if value.isNone && s.options.contains 'u' && name != ['@'] && name != ['*'] then
              fatal (shown ++ ascii ": parameter not set")
            else pure (ofParameter s name quoted)
          | .length => pure (ofValue quoted (ascii (toString (value.getD []).length)))
          | .default orEmpty =>
            if isMissing orEmpty value then argumentPieces quoted argument
            else pure (ofParameter s name quoted)
          | .assign orEmpty =>
            if isMissing orEmpty value then do
              let ps ← argumentPieces quoted argument
              if ← assign name (flat ps) then pure ()
              else fatal (shown ++ ascii ": is read only")
              pure ps
            else pure (ofParameter s name quoted)
          | .demand orEmpty =>
            if isMissing orEmpty value then do
              let text := flat (← argumentPieces quoted argument)
              let text :=
                if text.isEmpty then
                  ascii ("parameter not set" ++ if orEmpty then " or null" else "")
                else text
              fatal (shown ++ ascii ": " ++ text)
            else pure (ofParameter s name quoted)
          | .alternative orEmpty =>
            if isMissing orEmpty value then pure (if quoted then [.mark] else [])
            else argumentPieces quoted argument
          | .cutFront longest => do
            let ps ← pieces outputOf depth false (Lexer.wholeWord false argument)
            pure (ofValue quoted (Pattern.cutFront longest (Pattern.ofGlyphs (glyphs ps))
              (value.getD [])))
          | .cutBack longest => do
            let ps ← pieces outputOf depth false (Lexer.wholeWord false argument)
            pure (ofValue quoted (Pattern.cutBack longest (Pattern.ofGlyphs (glyphs ps))
              (value.getD [])))
      result := result ++ more
    return result

/-! ## Fields -/

/-- A separator that counts as a blank. -/
def isBlankSeparator (ifs : Bytes) (b : UInt8) : Bool :=
  ifs.contains b && (b == 0x20 || b == 0x09 || b == 0x0A)

/-- Cut pieces into words : those done, the one under way, and whether the last word was ended by
blanks, to which one more separator can belong. -/
def cutStep (ifs : Bytes) (state : List (List Glyph) × Option (List Glyph) × Bool) (p : Piece) :
    List (List Glyph) × Option (List Glyph) × Bool :=
  let (done, word, blank) := state
  match p with
  | .mark => (done, some (word.getD []), false)
  | .cut => (done ++ word.toList, none, false)
  | .glyph g splits =>
    if splits && isBlankSeparator ifs g.byte then
      match word with
      | some w => (done ++ [w], none, true)
      | none => (done, none, blank)
    else if splits && ifs.contains g.byte then
      match word with
      | some w => (done ++ [w], none, false)
      | none => if blank then (done, none, false) else (done ++ [[]], none, false)
    else (done, some (word.getD [] ++ [g]), false)

/-- The words that pieces are. -/
def fields (ifs : Bytes) (ps : List Piece) : List (List Glyph) :=
  let (done, word, _) := ps.foldl (cutStep ifs) ([], none, false)
  done ++ word.toList

/-! ## Paths -/

/-- A name that a pattern can stand for : a hidden one only if the pattern starts with a dot. -/
def canStandFor (p : Pattern) (name : Bytes) : Bool :=
  (name.head? != some dot || p.head? == some (.exactly dot)) && p.isMatch name

/-- The paths that start with `done` and go on with names that stretches of a pattern stand for. -/
def pathsBehind (t : FileTree) (done : Bytes) : List (List Glyph) → List Bytes
  | [] => if t.exists? ⟨done⟩ then [done] else []
  | c :: cs =>
    let slashes := if cs.isEmpty then [] else [slash]
    let p := Pattern.ofGlyphs c
    if p.isOpen then
      let names := (t.readDir (if done.isEmpty then ⟨[dot]⟩ else ⟨done⟩)).toOption.getD []
      (names.filter fun n => canStandFor p n.bytes).flatMap fun n =>
        pathsBehind t (done ++ n.bytes ++ slashes) cs
    else pathsBehind t (done ++ c.map Glyph.byte ++ slashes) cs

/-- The paths that a word stands for, if it is a pattern that matches some ; else the word. -/
def paths (t : FileTree) (gs : List Glyph) : List Bytes :=
  if (Pattern.ofGlyphs gs).isOpen then
    match pathsBehind t [] (gs.splitOnP fun g => g.byte == slash) with
    | [] => [gs.map Glyph.byte]
    | found => found.mergeSort bytesLe
  else [gs.map Glyph.byte]

/-! ## Words -/

/-- How many words are inside of each other at most. -/
def maxDepth : Nat := 64

/-- The words that a word stands for. -/
def expand (outputOf : List Char → Sh Bytes) (w : Word) : Sh (List Bytes) := do
  let s ← get
  if w = [.quotes, .parameter ['@'] .value [] true] ∧ s.arguments.isEmpty then return []
  let ps ← pieces outputOf maxDepth false (withHome s w)
  let s ← get
  let found := fields s.separators ps
  if s.options.contains 'f' then return found.map fun gs => gs.map Glyph.byte
  act (Act.look fun t => found.flatMap (paths t))

/-- The words that words stand for, in order. -/
def expandAll (outputOf : List Char → Sh Bytes) : List Word → Sh (List Bytes)
  | [] => return []
  | w :: ws => do
    let bs ← expand outputOf w
    return bs ++ (← expandAll outputOf ws)

/-- The one byte string that a word stands for where nothing is cut. -/
def expandOne (outputOf : List Char → Sh Bytes) (w : Word) : Sh Bytes := do
  return flat (← pieces outputOf maxDepth false (withHome (← get) w))

/-- The pattern that a word stands for. -/
def expandPattern (outputOf : List Char → Sh Bytes) (w : Word) : Sh Pattern := do
  return Pattern.ofGlyphs (glyphs (← pieces outputOf maxDepth false (withHome (← get) w)))

end ServerLauncher.Shell
