import ServerLauncher.Shell.Expand

/-!
# Words of small programs

What the programs that scripts use have in common : they are told by their words what to do with
which files, and say in their own name what went wrong. A `Tool` is such a program, as an action
whose result is its status.
-/

namespace ServerLauncher.Shell

/-- A program as an action on its words. -/
abbrev Tool := List Bytes → Sh Nat

/-- Say in a program's name what went wrong. -/
def blame (program : String) (what : Bytes) : Sh Unit :=
  errorLine (ascii (program ++ ": ") ++ what)

/-- The letters of the options in front of a program's words, and the other words. -/
def options (words : List Bytes) : List Char × List Bytes :=
  let isOption (w : Bytes) : Bool := w.head? == some 0x2D && 1 < w.length
  let given := (words.takeWhile fun w => isOption w && w != ascii "--").map fun w =>
    (w.drop 1).map charOf
  let rest := words.drop given.length
  (given.flatten, if rest.head? == some (ascii "--") then rest.drop 1 else rest)

/-- A name in single quotes. -/
def inSingleQuotes (bs : Bytes) : Bytes :=
  [0x27] ++ bs ++ [0x27]

/-- Say about a file what went wrong. -/
def blameFile (program what : String) (file : Bytes) (e : SystemError) : Sh Unit :=
  blame program (ascii (what ++ " ") ++ inSingleQuotes file ++ ascii (": " ++ e.reason))

/-- Do something with each word. The status is that of the last one that failed. -/
def forWords (words : List Bytes) (f : Bytes → Sh Nat) : Sh Nat := do
  let mut status := 0
  for w in words do
    let n ← f w
    if n != 0 then status := n
  return status

/-- What is in files, or what can be read from the input if there are none. A hyphen stands for the
input. -/
def contents (program : String) (files : List Bytes) : Sh (Bytes × Nat) := do
  let mut text := []
  let mut status := 0
  for f in if files.isEmpty then [[0x2D]] else files do
    if f = [0x2D] then
      text := text ++ (← input)
      setInput []
    else
      match ← act (Act.look (·.readFile ⟨f⟩)) with
      | .ok bs => text := text ++ bs
      | .error e =>
        blame program (f ++ ascii (": " ++ e.reason))
        status := 1
  return (text, status)

/-- The lines of a text, without their ends. -/
def linesOf (bs : Bytes) : List Bytes :=
  let ls := bs.splitOn 0x0A
  if ls.getLast? = some [] then ls.dropLast else ls

/-- A text of lines. -/
def unlines (ls : List Bytes) : Bytes :=
  ls.flatMap (· ++ [0x0A])

/-- Print what a function makes of the lines of files or of the input. -/
def onLines (program : String) (f : List Bytes → List Bytes) (files : List Bytes) : Sh Nat := do
  let (text, status) ← contents program files
  let n ← output (unlines (f (linesOf text)))
  return max n status

/-- Try a change of the tree and say if it fails. -/
def tryChange (program what : String) (file : Bytes)
    (f : FileTree → Except SystemError FileTree) : Sh Nat := do
  match ← act (Act.change f) with
  | .ok () => return 0
  | .error e => do
    blameFile program what file e
    return 1

end ServerLauncher.Shell
