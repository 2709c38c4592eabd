import ServerLauncher.Path

/-!
# File trees

What the process sees of the file system : directories, regular files and symbolic links below one
root. A node lies at a `Place`, the list of names from it up to the root. The entries are kept in
the order in which they were made, which is the order in which a directory is read.

No two entries have one place, and every entry lies in a directory ; both facts are part of
`FileTree`. The primitive changes are `add?`, which puts a new entry into a directory, `modify`,
which changes a regular file, and `erase`, which takes away an entry with all below it.
-/

namespace ServerLauncher

/-! ## Names and places -/

/-- The byte strings that name an entry of a directory. -/
def isName (bs : Bytes) : Bool :=
  bs != [] && bs != [dot] && bs != [dot, dot] && !bs.contains slash && !bs.contains 0

/-- The name of an entry of a directory. -/
structure Name where
  bytes : Bytes
  isName_bytes : isName bytes = true
  deriving DecidableEq

instance : Repr Name := ⟨fun n k => reprPrec n.bytes k⟩

/-- A place in the tree : the names from there up to the root. -/
abbrev Place := List Name

/-! ## Trees -/

/-- What lies at a place. -/
inductive Node where
  | dir
  | file (mode : Nat) (content : Bytes)
  | link (target : Path)
  deriving Repr, DecidableEq

/-- An entry of a directory. -/
structure Entry where
  parent : Place
  name : Name
  node : Node
  deriving Repr, DecidableEq

/-- The place of an entry. -/
def Entry.place (e : Entry) : Place :=
  e.name :: e.parent

/-- A regular file with mode and content changed by `f` ; other nodes stay. -/
def Node.mapFile (f : Nat → Bytes → Nat × Bytes) : Node → Node
  | .file mode content => .file (f mode content).1 (f mode content).2
  | node => node

/-- An entry with its file changed, if it lies at `p`. -/
def Entry.mapFile (p : Place) (f : Nat → Bytes → Nat × Bytes) (e : Entry) : Entry :=
  if e.place = p then { e with node := e.node.mapFile f } else e

theorem Entry.place_mapFile (p : Place) (f : Nat → Bytes → Nat × Bytes) (e : Entry) :
    (e.mapFile p f).place = e.place := by
  unfold mapFile
  split <;> rfl

theorem Entry.parent_mapFile (p : Place) (f : Nat → Bytes → Nat × Bytes) (e : Entry) :
    (e.mapFile p f).parent = e.parent := by
  unfold mapFile
  split <;> rfl

theorem Entry.node_mapFile_of_dir (p : Place) (f : Nat → Bytes → Nat × Bytes) {e : Entry}
    (h : e.node = .dir) : (e.mapFile p f).node = .dir := by
  unfold mapFile
  split
  · simp [h, Node.mapFile]
  · exact h

/-- A place lies in a directory of `es`, the root being one. -/
def HasParent (es : List Entry) (parent : Place) : Prop :=
  parent = [] ∨ ∃ d ∈ es, d.place = parent ∧ d.node = .dir

/-- A file system, and the working directory of the process. -/
structure FileTree where
  entries : List Entry
  workDir : Place
  nodup : (entries.map Entry.place).Nodup
  hasParent : ∀ e ∈ entries, HasParent entries e.parent

namespace FileTree

/-- The tree with nothing below the root. -/
def empty : FileTree where
  entries := []
  workDir := []
  nodup := by simp
  hasParent := by simp

/-- What lies at a place. -/
def at? (t : FileTree) (p : Place) : Option Node :=
  match p with
  | [] => some .dir
  | p => (t.entries.find? fun e => e.place = p).map Entry.node

/-- The names in a directory, in the order of reading. -/
def names (t : FileTree) (d : Place) : List Name :=
  (t.entries.filter fun e => e.parent = d).map Entry.name

/-- The tree seen from another working directory. -/
def within (t : FileTree) (d : Place) : FileTree :=
  { t with workDir := d }

theorem not_mem_of_at?_eq_none {t : FileTree} {n : Name} {d : Place}
    (h : t.at? (n :: d) = none) : n :: d ∉ t.entries.map Entry.place := by
  simp only [at?, Option.map_eq_none_iff, List.find?_eq_none, decide_eq_true_eq] at h
  simpa using h

theorem hasParent_of_at?_eq_dir {t : FileTree} {d : Place} (h : t.at? d = some .dir) :
    HasParent t.entries d := by
  unfold at? at h
  split at h
  · exact Or.inl rfl
  · obtain ⟨e, he, hn⟩ := Option.map_eq_some_iff.mp h
    exact Or.inr ⟨e, List.mem_of_find?_eq_some he, by simpa using List.find?_some he, hn⟩

/-! ## Changes -/

/-- Put a new entry into a directory, if it is one and the name is free. -/
def add? (t : FileTree) (d : Place) (n : Name) (node : Node) : Option FileTree :=
  if h : t.at? d = some .dir ∧ t.at? (n :: d) = none then
    some {
      entries := t.entries ++ [⟨d, n, node⟩]
      workDir := t.workDir
      nodup := by
        have hfree := not_mem_of_at?_eq_none h.2
        rw [List.map_append, List.nodup_append]
        refine ⟨t.nodup, by simp, ?_⟩
        intro a ha b hb hab
        simp only [List.map_cons, List.map_nil, List.mem_singleton, Entry.place] at hb
        subst hb
        exact hfree (hab ▸ ha)
      hasParent := by
        intro e he
        have up : ∀ {p}, HasParent t.entries p → HasParent (t.entries ++ [⟨d, n, node⟩]) p :=
          fun h => h.imp_right fun ⟨x, hx, hp⟩ => ⟨x, List.mem_append_left _ hx, hp⟩
        rcases List.mem_append.mp he with he | he
        · exact up (t.hasParent e he)
        · rw [List.mem_singleton] at he
          subst he
          exact up (hasParent_of_at?_eq_dir h.1) }
  else none

/-- Change the regular file at a place, if there is one. -/
def modify (t : FileTree) (p : Place) (f : Nat → Bytes → Nat × Bytes) : FileTree where
  entries := t.entries.map (Entry.mapFile p f)
  workDir := t.workDir
  nodup := by
    have h : (t.entries.map (Entry.mapFile p f)).map Entry.place = t.entries.map Entry.place := by
      rw [List.map_map]
      exact List.map_congr_left fun e _ => Entry.place_mapFile p f e
    rw [h]
    exact t.nodup
  hasParent := by
    intro e he
    obtain ⟨x, hx, rfl⟩ := List.mem_map.mp he
    rw [Entry.parent_mapFile]
    exact (t.hasParent x hx).imp_right fun ⟨d, hd, hplace, hdir⟩ =>
      ⟨_, List.mem_map.mpr ⟨d, hd, rfl⟩, (Entry.place_mapFile p f d).trans hplace,
        Entry.node_mapFile_of_dir p f hdir⟩

/-- Take away what lies at a place and below it. -/
def erase (t : FileTree) (p : Place) : FileTree where
  entries := t.entries.filter fun e => !p.isSuffixOf e.place
  workDir := t.workDir
  nodup := t.nodup.sublist (List.filter_sublist.map _)
  hasParent := by
    intro e he
    rw [List.mem_filter] at he
    refine (t.hasParent e he.1).imp_right fun ⟨d, hd, hplace, hdir⟩ =>
      ⟨d, List.mem_filter.mpr ⟨hd, ?_⟩, hplace, hdir⟩
    have hkept := he.2
    simp only [Bool.not_eq_true', Bool.eq_false_iff, ne_eq, List.isSuffixOf_iff_suffix] at hkept ⊢
    intro hs
    exact hkept (hs.trans (hplace ▸ List.suffix_cons e.name e.parent))

end FileTree

end ServerLauncher
