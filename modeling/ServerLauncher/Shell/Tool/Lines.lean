import ServerLauncher.Shell.Test
import ServerLauncher.Shell.Tool.Words

/-!
# Programs for texts

The programs that make one text of another : a part of it, its lines in another order, or what is
counted in it.
-/

namespace ServerLauncher.Shell

/-- How many of something an option asks for : `-n 3`, `-n3` or `-3`, or the same with `-c`, which
counts bytes ; and the words behind it. -/
def countOption (words : List Bytes) : Bool × Nat × List Bytes :=
  match words with
  | [] => (false, 10, [])
  | w :: rest =>
    match w.map charOf with
    | '-' :: c :: ds =>
      let bytes := c == 'c'
      if c = 'n' ∨ c = 'c' then
        if ds.isEmpty then (bytes, numberOf (rest.headD []), rest.drop 1)
        else (bytes, (number? ds).getD 0, rest)
      else
        match number? (c :: ds) with
        | some n => (false, n, rest)
        | none => (false, 10, words)
    | _ => (false, 10, words)

/-- The lines of a text with their ends. -/
def fullLines (bs : Bytes) : List Bytes :=
  let ls := bs.splitOn 0x0A
  (ls.dropLast.map (· ++ [0x0A])) ++ (ls.getLast?.toList.filter fun l => !l.isEmpty)

/-- Print the first lines or bytes. Of the input, what was printed is used up. -/
def head : Tool := fun words => do
  let (bytes, n, files) := countOption words
  let first (text : Bytes) := if bytes then text.take n else ((fullLines text).take n).flatten
  if files.isEmpty then
    let text ← input
    setInput []
    output (first text)
  else
    let (text, status) ← contents "head" files
    return max (← output (first text)) status

/-- Print the last lines or bytes. -/
def tail : Tool := fun words => do
  let (bytes, n, files) := countOption words
  let last {α : Type} (xs : List α) := xs.drop (xs.length - n)
  let (text, status) ← contents "tail" files
  return max (← output (if bytes then last text else (last (fullLines text)).flatten)) status

/-- How many words a text has. -/
def wordCount (bs : Bytes) : Nat :=
  ((bs.splitOnP fun b => b == 0x20 || (0x09 ≤ b && b ≤ 0x0D)).filter fun w => !w.isEmpty).length

/-- Count lines, words and bytes. -/
def wc : Tool := fun words => do
  let (letters, files) := options words
  let letters := letters.filter "lwcm".toList.contains
  let letters := if letters.isEmpty then ['l', 'w', 'c'] else letters
  let (text, status) ← contents "wc" files
  let counts := ([('l', (text.filter (· == 0x0A)).length), ('w', wordCount text),
    ('c', text.length), ('m', text.length)].filter fun c => letters.contains c.1).map Prod.snd
  let shown := counts.map fun n =>
    if counts.length = 1 ∨ !files.isEmpty then ascii (toString n)
    else padded ⟨0, [], 7, none⟩ (ascii (toString n))
  let name := if files.length = 1 then [files.headD []] else []
  return max (← output ([0x20].intercalate (shown ++ name) ++ [0x0A])) status

/-- Put lines in order. -/
def sort : Tool := fun words => do
  let (letters, files) := options words
  onLines "sort" (fun ls =>
    let value (l : Bytes) : Int := ((Test.number? l).getD 0)
    let le (a b : Bytes) : Bool :=
      if letters.contains 'n' && value a != value b then value a < value b else bytesLe a b
    let ls := ls.mergeSort le
    let ls := if letters.contains 'u' then ls.eraseDups else ls
    if letters.contains 'r' then ls.reverse else ls) files

/-- Lines that follow each other and are equal, by how many they are. -/
def repeats : List Bytes → List (Nat × Bytes)
  | [] => []
  | l :: ls =>
    match repeats ls with
    | [] => [(1, l)]
    | (n, l') :: rest => if l = l' then (n + 1, l) :: rest else (1, l) :: (n, l') :: rest

/-- Print lines that follow each other and are equal only once, or only those that have equals, or
only the others, or with their number. -/
def uniq : Tool := fun words => do
  let (letters, files) := options words
  onLines "uniq" (fun ls =>
    ((repeats ls).filter fun r =>
      !(letters.contains 'd' && r.1 = 1) && !(letters.contains 'u' && r.1 != 1)).map fun r =>
        if letters.contains 'c' then padded ⟨0, [], 7, none⟩ (ascii (toString r.1)) ++ [0x20] ++ r.2
        else r.2) files

/-- The bytes that a set of `tr` means. -/
def byteSet (bs : Bytes) : Bytes :=
  let rec ranges : Bytes → Bytes
    | a :: 0x2D :: b :: rest =>
      ((List.range (b.toNat + 1 - a.toNat)).map fun i => a + UInt8.ofNat i) ++ ranges rest
    | a :: rest => a :: ranges rest
    | [] => []
  let plain := (printed (unescape bs)).1
  match Pattern.namedRanges.find? fun r => ascii ("[:" ++ r.1 ++ ":]") == plain with
  | some r =>
    r.2.flatMap fun (low, high) =>
      (List.range (high.toNat + 1 - low.toNat)).map fun i => low + UInt8.ofNat i
  | none => ranges plain

/-- Replace bytes of the input, or take them away. -/
def tr : Tool := fun words => do
  let (letters, sets) := options words
  let text ← input
  setInput []
  match sets.map byteSet with
  | [set] => output (text.filter fun b => !(letters.contains 'd' && set.contains b))
  | [old, new] =>
    let last := new.getLast?
    output (text.map fun b =>
      match old.findIdx? (· == b), last with
      | some i, some z => new.getD i z
      | _, _ => b)
  | _ => return 1

/-- Print the numbers of a range. -/
def seq : Tool := fun words => do
  let upTo (a step b : Int) : List Int :=
    if step = 0 then []
    else (List.range (Int.fdiv (b - a) step + 1).toNat).map fun (i : Nat) => a + step * (i : Int)
  let numbers := match words.map fun w => (Test.number? w).getD 0 with
    | [b] => upTo 1 1 b
    | [a, b] => upTo a 1 b
    | [a, step, b] => upTo a step b
    | _ => []
  output (unlines (numbers.map fun n => ascii (toString n)))

/-- Copy the input to the output and to files. -/
def tee : Tool := fun words => do
  let (letters, files) := options words
  let mode := fileMode (← get)
  let text ← input
  setInput []
  let n ← output text
  let status ← forWords files fun f => do
    let there ← act (Act.look (·.readFile ⟨f⟩))
    let old := if letters.contains 'a' then there.toOption.getD [] else []
    tryChange "tee" "cannot open" f (·.writeFile ⟨f⟩ (old ++ text) mode)
  return max n status

/-- The last name of a path, without an ending. -/
def basename : Tool := fun words => do
  let p := Path.dropTrailingSlashes ⟨words.headD []⟩
  let name := if p.bytes = [slash] then [slash] else (p.bytes.splitOn slash).getLastD []
  let ending := words.getD 1 []
  let name :=
    if ending.isSuffixOf name ∧ ending ≠ name then name.take (name.length - ending.length) else name
  output (name ++ [0x0A])

/-- A path without its last name. -/
def dirname : Tool := fun words => do
  let p := Path.dropTrailingSlashes ⟨words.headD []⟩
  let dir : Bytes :=
    if p.bytes.contains slash then
      (Path.dropTrailingSlashes ⟨([slash].intercalate (p.bytes.splitOn slash).dropLast) ++
        [slash]⟩).bytes
    else [dot]
  output (dir ++ [0x0A])

/-- Some fields or bytes of each line. -/
def cut : Tool := fun words => do
  let rec read (bytes : Bool) (list sep : Bytes) : List Bytes → Bool × Bytes × Bytes × List Bytes
    | [] => (bytes, list, sep, [])
    | w :: rest =>
      match w.map charOf with
      | '-' :: 'd' :: ds =>
        if ds.isEmpty then
          match rest with
          | d :: rest => read bytes list d rest
          | [] => (bytes, list, sep, [])
        else read bytes list (ds.map byteOf) rest
      | '-' :: c :: ds =>
        if ds.isEmpty then
          match rest with
          | l :: rest => read (c != 'f') l sep rest
          | [] => (bytes, list, sep, [])
        else read (c != 'f') (ds.map byteOf) sep rest
      | _ => (bytes, list, sep, w :: rest)
  let (bytes, list, sep, files) := read false [] [0x09] words
  let ranges := (list.splitOn 0x2C).map fun r =>
    match r.splitOn 0x2D with
    | [a, b] => (numberOf a, if b.isEmpty then none else some (numberOf b))
    | _ => (numberOf r, some (numberOf r))
  let wanted (i : Nat) : Bool := ranges.any fun r => r.1 ≤ i && r.2.all (i ≤ ·)
  let select {α : Type} (xs : List α) : List α :=
    (xs.zipIdx 1).filterMap fun x => if wanted x.2 then some x.1 else none
  onLines "cut" (fun ls => ls.map fun l =>
    if bytes then select l
    else if sep.all l.contains then
      sep.intercalate (select (l.splitOnP fun b => sep.contains b))
    else l) files

/-- The parts of a pattern of `grep` : `.` stands for one byte, `.*` for any, brackets for a set. -/
def wildcards : Nat → Bytes → Pattern
  | _, [] => []
  | 0, _ => []
  | fuel + 1, b :: bs =>
    match b, bs with
    | 0x2E, 0x2A :: rest => .any :: wildcards fuel rest
    | 0x2E, rest => .one :: wildcards fuel rest
    | 0x5C, c :: rest => .exactly c :: wildcards fuel rest
    | 0x5B, rest =>
      match Pattern.set? (rest.map fun b => ⟨b, false⟩) with
      | some (w, n) => w :: wildcards fuel (rest.drop n)
      | none => .exactly b :: wildcards fuel rest
    | b, rest => .exactly b :: wildcards fuel rest

/-- The lines that hold a pattern, as a pattern for whole lines. The signs `^` and `$` stand for the
ends of a line. -/
def linePattern (fixed : Bool) (bs : Bytes) : Pattern :=
  if fixed then [.any] ++ bs.map .exactly ++ [.any]
  else
    let start := bs.head? == some 0x5E
    let stop := bs.getLast? == some 0x24
    let middle := (bs.drop start.toNat).take (bs.length - start.toNat - stop.toNat)
    (if start then [] else [.any]) ++ wildcards middle.length middle ++
      (if stop then [] else [.any])

/-- Print the lines that hold a pattern. -/
def grep : Tool := fun words => do
  let (letters, rest) := options words
  match rest with
  | [] => return 2
  | pattern :: files => do
    let lower (bs : Bytes) : Bytes :=
      if letters.contains 'i' then bs.map fun b => byteOf (charOf b).toLower else bs
    let pattern := lower pattern
    let p : Pattern :=
      if letters.contains 'x' then
        if letters.contains 'F' then pattern.map .exactly else wildcards pattern.length pattern
      else linePattern (letters.contains 'F') pattern
    let (text, status) ← contents "grep" files
    let found := ((linesOf text).zipIdx 1).filter fun l =>
      p.isMatch (lower l.1) != letters.contains 'v'
    let shown := found.map fun l =>
      if letters.contains 'n' then ascii (toString l.2 ++ ":") ++ l.1 else l.1
    if letters.contains 'c' then discard <| output (ascii (toString found.length ++ "\n"))
    else if !letters.contains 'q' then discard <| output (unlines shown)
    return if status != 0 then 2 else if found.isEmpty then 1 else 0

end ServerLauncher.Shell
