import ServerLauncher.FileTree.Access
import ServerLauncher.Shell.Print
import ServerLauncher.Shell.Syntax

/-!
# Tests

The questions that a script asks about texts, numbers and files. `Test.answer?` reads the words of a
question and answers it ; there is no answer to a question that is not put well.
-/

namespace ServerLauncher.Shell.Test

/-- The number that a word is. -/
def number? (w : Bytes) : Option Int :=
  match w.map charOf with
  | '-' :: ds => (ServerLauncher.number? ds).map fun n => -(n : Int)
  | '+' :: ds => (ServerLauncher.number? ds).map Int.ofNat
  | ds => (ServerLauncher.number? ds).map Int.ofNat

/-- The mode bit of a file is set. -/
def hasBit (t : FileTree) (bit : Nat) (p : Path) : Bool :=
  match t.find p with
  | .ok (_, .file mode _) => mode &&& bit != 0
  | .ok (_, .dir) => true
  | _ => false

/-- A symbolic link lies at the path. -/
def isLink (t : FileTree) (p : Path) : Bool :=
  match t.walk false p with
  | .ok (.taken _ (.link _)) => true
  | _ => false

/-- A file with something in it lies at the path. -/
def isNonempty (t : FileTree) (p : Path) : Bool :=
  match t.find p with
  | .ok (_, .file _ content) => !content.isEmpty
  | .ok (_, .dir) => true
  | _ => false

/-- The questions about one word. -/
def unary? (t : FileTree) (op : String) : Option (Bytes → Bool) :=
  match op with
  | "-n" => some fun w => !w.isEmpty
  | "-z" => some fun w => w.isEmpty
  | "-f" => some fun w => t.isFile ⟨w⟩
  | "-d" => some fun w => t.isDir ⟨w⟩
  | "-e" => some fun w => t.exists? ⟨w⟩
  | "-s" => some fun w => isNonempty t ⟨w⟩
  | "-r" => some fun w => hasBit t FileTree.readBit ⟨w⟩
  | "-w" => some fun w => hasBit t FileTree.writeBit ⟨w⟩
  | "-x" => some fun w => hasBit t FileTree.executeBit ⟨w⟩
  | "-L" => some fun w => isLink t ⟨w⟩
  | "-h" => some fun w => isLink t ⟨w⟩
  | _ => if ["-t", "-p", "-S", "-b", "-c", "-u", "-g", "-k"].contains op then some fun _ => false
    else none

/-- The order of numbers that a sign asks for. -/
def comparison? (op : String) : Option (Int → Int → Bool) :=
  match op with
  | "-eq" => some fun a b => a == b
  | "-ne" => some fun a b => a != b
  | "-lt" => some fun a b => a < b
  | "-le" => some fun a b => a ≤ b
  | "-gt" => some fun a b => b < a
  | "-ge" => some fun a b => b ≤ a
  | _ => none

/-- The question about two words, which has no answer where numbers are asked for and not given. -/
def binary? (op : String) : Option (Bytes → Bytes → Option Bool) :=
  match comparison? op with
  | some f => some fun a b => do
    let m ← number? a
    let n ← number? b
    return f m n
  | none =>
    match op with
    | "=" => some fun a b => some (a == b)
    | "!=" => some fun a b => some (a != b)
    | "<" => some fun a b => some (a != b && bytesLe a b)
    | ">" => some fun a b => some (a != b && bytesLe b a)
    | _ => none

/-- A word as a text. -/
def text (w : Bytes) : String :=
  Utf8.decodeLossy w

mutual

/-- Questions of which one has to hold. -/
def either (t : FileTree) : Nat → List Bytes → Option (Bool × List Bytes)
  | 0, _ => none
  | fuel + 1, ws =>
    match both t fuel ws with
    | some (a, w :: rest) =>
      if text w = "-o" then (either t fuel rest).map fun r => (a || r.1, r.2)
      else some (a, w :: rest)
    | r => r

/-- Questions that have to hold together. -/
def both (t : FileTree) : Nat → List Bytes → Option (Bool × List Bytes)
  | 0, _ => none
  | fuel + 1, ws =>
    match one t fuel ws with
    | some (a, w :: rest) =>
      if text w = "-a" then (both t fuel rest).map fun r => (a && r.1, r.2)
      else some (a, w :: rest)
    | r => r

/-- One question. A word between two others is asked about before the one in front. -/
def one (t : FileTree) : Nat → List Bytes → Option (Bool × List Bytes)
  | 0, _ => none
  | fuel + 1, ws =>
    match ws with
    | [] => none
    | a :: rest =>
      match rest with
      | op :: b :: rest' =>
        match binary? (text op) with
        | some f => (f a b).map fun r => (r, rest')
        | none => simple t fuel a rest
      | _ => simple t fuel a rest

/-- A question that starts with a sign, or about one word. -/
def simple (t : FileTree) : Nat → Bytes → List Bytes → Option (Bool × List Bytes)
  | 0, _, _ => none
  | fuel + 1, a, rest =>
    if rest.isEmpty then some (!a.isEmpty, [])
    else if text a = "!" then (one t fuel rest).map fun r => (!r.1, r.2)
    else if text a = "(" then
      match either t fuel rest with
      | some (r, w :: rest) => if text w = ")" then some (r, rest) else none
      | _ => none
    else
      match unary? t (text a), rest with
      | some f, b :: rest => some (f b, rest)
      | _, rest => some (!a.isEmpty, rest)

end

/-- The answer to a question. Nothing at all is not so. -/
def answer? (t : FileTree) (ws : List Bytes) : Option Bool :=
  if ws.isEmpty then some false
  else
    match either t (8 * (ws.length + 1)) ws with
    | some (r, []) => some r
    | _ => none

end ServerLauncher.Shell.Test
