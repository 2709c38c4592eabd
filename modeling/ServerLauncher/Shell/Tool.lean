import ServerLauncher.Shell.Tool.Files
import ServerLauncher.Shell.Tool.Lines
import ServerLauncher.Shell.Tool.Sums

/-!
# Small programs

The programs that scripts use besides the shell's own commands, by name (`tool?`). Those for files
and for texts have modules of their own ; here are those that print, answer questions and tell
where they are.
-/

namespace ServerLauncher.Shell

/-- Print the variables that programs get. -/
def printenv : Tool := fun words => do
  let vars := (← get).environment
  match words with
  | [] => output (unlines (vars.map fun v => v.1 ++ ascii "=" ++ v.2))
  | names =>
    let found := names.filterMap fun n => (vars.find? fun v => v.1 == n).map Prod.snd
    discard <| output (unlines found)
    return if found.length = names.length then 0 else 1

/-- Print the working directory. -/
def pwd : Tool := fun _ => do
  output ((← act (Act.look workDirPath)).bytes ++ [0x0A])

/-- Print words with their escapes. -/
def echo : Tool := fun words =>
  output (echoed words)

/-- Print words in a format. -/
def printf : Tool := fun words => do
  let words := if words.head? = some (ascii "--") then words.drop 1 else words
  match words with
  | [] => do
    complain (ascii "printf: usage: printf format [arg ...]")
    return 2
  | f :: args => do
    let (text, bad) := format f args
    for arg in bad do
      complain (ascii "printf: " ++ arg ++ ascii ": expected numeric value")
    let n ← output text
    return if bad.isEmpty then n else 1

/-- Answer a question by the status. -/
def answer (name : String) : Tool := fun words => do
  match ← act (Act.look (Test.answer? · words)) with
  | some true => return 0
  | some false => return 1
  | none => do
    match words.find? fun w => (Test.number? w).isNone && w.head?.any (· != 0x2D) with
    | some w => complain (ascii (name ++ ": Illegal number: ") ++ w)
    | none => complain (ascii (name ++ ": argument expected"))
    return 2

/-- The programs by name. -/
def tools : List (String × Tool) :=
  [("true", fun _ => return 0), ("false", fun _ => return 1), ("sleep", fun _ => return 0),
   ("cat", cat), ("echo", echo), ("printf", printf), ("pwd", pwd), ("test", answer "test"),
   ("[", fun words => answer "[" words.dropLast), ("mkdir", mkdir), ("rmdir", rmdir), ("rm", rm),
   ("touch", touch), ("cp", cp), ("mv", mv), ("ln", ln), ("chmod", chmod), ("ls", ls),
   ("head", head), ("tail", tail), ("wc", wc), ("sort", sort),
   ("uniq", uniq), ("expr", expr), ("tr", tr),
   ("seq", seq), ("tee", tee), ("basename", basename), ("dirname", dirname), ("cut", cut),
   ("grep", grep), ("rev", fun words => onLines "rev" (·.map List.reverse) words),
   ("printenv", printenv), ("uname", fun _ => output (ascii "Linux\n")),
   ("id", fun words => output (ascii (if words.isEmpty then
      "uid=0(root) gid=0(root) groups=0(root)\n" else "0\n")))]

/-- The program of a name. -/
def tool? (name : String) : Option Tool :=
  (tools.find? fun t => t.1 == name).map Prod.snd

end ServerLauncher.Shell
