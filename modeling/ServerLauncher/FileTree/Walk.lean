import ServerLauncher.FileTree.Basic
import ServerLauncher.FileTree.Error

/-!
# Walking a path

A path is walked from the working directory, or from the root if it is absolute, one stretch
between slashes at a time (`PathStep`). A symbolic link on the way is replaced by its target, seen
from the directory that holds it ; at most `maxLinks` links are followed. The walk ends at a node or
at a free name in a directory (`Spot`), or fails. Whether a link at the very end is followed is up
to the caller.
-/

namespace ServerLauncher

/-! ## Steps -/

/-- One stretch of a path between slashes. -/
inductive PathStep where
  /-- An empty stretch or `.`, which asks for a directory to be there. -/
  | stay
  | up
  | down (name : Name)
  deriving Repr, DecidableEq

/-- The step that a stretch spells. A stretch with a zero byte spells none. -/
def PathStep.ofBytes? (bs : Bytes) : Option PathStep :=
  if bs = [] ∨ bs = [dot] then some .stay
  else if bs = [dot, dot] then some .up
  else if h : isName bs then some (.down ⟨bs, h⟩)
  else none

/-- The longest path that is walked, in bytes. -/
def maxPathBytes : Nat := 4095

/-- The longest name that is looked up, in bytes. -/
def maxNameBytes : Nat := 255

/-- How many links a walk follows. -/
def maxLinks : Nat := 40

/-- The steps of a path. -/
def Path.steps (p : Path) : Except SystemError (List PathStep) :=
  match (p.bytes.splitOn slash).mapM PathStep.ofBytes? with
  | none => .error .nulInPath
  | some ss =>
    if p.bytes.isEmpty then .error .notFound
    else if maxPathBytes < p.bytes.length then .error .nameTooLong
    else .ok ss

/-! ## The walk -/

/-- Where a walk ends : at a node, or at a free name in a directory. -/
inductive Spot where
  | taken (place : Place) (node : Node)
  | free (parent : Place) (name : Name)
  deriving Repr, DecidableEq

namespace FileTree

/-- Where a walk starts. -/
def startOf (d : Place) (p : Path) : Place :=
  if p.isAbsolute then [] else d

/-- Walk down from the directory `d`. `onLink` goes on at a link, with the directory that its
target starts from and the steps of the target and of what is left. -/
def walkSteps (t : FileTree) (followLast : Bool)
    (onLink : Place → List PathStep → Except SystemError Spot) :
    Place → List PathStep → Except SystemError Spot
  | d, [] => .ok (.taken d .dir)
  | d, .stay :: ss => walkSteps t followLast onLink d ss
  | d, .up :: ss => walkSteps t followLast onLink d.tail ss
  | d, .down n :: ss =>
    if maxNameBytes < n.bytes.length then .error .nameTooLong
    else
      match t.at? (n :: d) with
      | none => if ss.isEmpty then .ok (.free d n) else .error .notFound
      | some .dir => walkSteps t followLast onLink (n :: d) ss
      | some (.file mode content) =>
        if ss.isEmpty then .ok (.taken (n :: d) (.file mode content)) else .error .notADirectory
      | some (.link target) =>
        if ss.isEmpty && !followLast then .ok (.taken (n :: d) (.link target))
        else
          match target.steps with
          | .error e => .error e
          | .ok ts => onLink (startOf d target) (ts ++ ss)

/-- Walk down from a directory over at most `links` links. -/
def walkLinks (t : FileTree) (followLast : Bool) :
    Nat → Place → List PathStep → Except SystemError Spot
  | 0 => walkSteps t followLast fun _ _ => .error .tooManyLinks
  | links + 1 => walkSteps t followLast (walkLinks t followLast links)

/-- Walk a path, to the end of a link in the last place if `followLast`. -/
def walk (t : FileTree) (followLast : Bool) (p : Path) : Except SystemError Spot :=
  match p.steps with
  | .error e => .error e
  | .ok ss => t.walkLinks followLast maxLinks (startOf t.workDir p) ss

end FileTree

end ServerLauncher
