import ServerLauncher.Text.Digits

/-!
# Versions

A server has a version of three numbers, written `v1.2.3`. `Version.parse?` accepts exactly the
texts that are a `v` and three digit sequences with points between them, each below 2^64 ; leading
zeros are allowed, and `toString` writes the numbers without them. Versions are compared by major
number, then minor, then patch (`Version.lt`).
-/

namespace ServerLauncher

/-- A version of a server, ordered by `major`, then `minor`, then `patch`. -/
structure Version where
  major : UInt64
  minor : UInt64
  patch : UInt64
  deriving Repr, DecidableEq

namespace Version

/-- The version that every other one is newer than ; it stands for having no server. -/
def zero : Version :=
  ⟨0, 0, 0⟩

instance : Inhabited Version := ⟨zero⟩

/-! ## Order -/

/-- The order of versions. -/
def compare (v w : Version) : Ordering :=
  (Ord.compare v.major w.major).then
    ((Ord.compare v.minor w.minor).then (Ord.compare v.patch w.patch))

instance : Ord Version := ⟨compare⟩

/-- `v` is strictly newer than `w`. -/
def isNewerThan (v w : Version) : Bool :=
  v.compare w == .gt

/-- `v` is not newer than `w`. -/
def le (v w : Version) : Bool :=
  v.compare w != .gt

/-- An element with the newest version : the last of several with equal versions. -/
def newestBy? {α : Type} (version : α → Version) : List α → Option α
  | [] => none
  | a :: as => some (as.foldl (fun b c => if (version b).le (version c) then c else b) a)

/-! ## Text -/

/-- The tag of a version. -/
def tag (v : Version) : String :=
  s!"v{v.major}.{v.minor}.{v.patch}"

instance : ToString Version := ⟨tag⟩

/-- A component of a version : a digit sequence with a value below 2^64. -/
def component? (cs : List Char) : Option UInt64 :=
  (number? cs).bind fun n => if n < UInt64.size then some (UInt64.ofNat n) else none

/-- The version that a tag names, if it is a tag. -/
def parse? (s : String) : Option Version :=
  match s.toList with
  | 'v' :: cs =>
    match cs.splitOn '.' with
    | [a, b, c] =>
      match component? a, component? b, component? c with
      | some a, some b, some c => some ⟨a, b, c⟩
      | _, _, _ => none
    | _ => none
  | _ => none

end Version

end ServerLauncher
