import Mathlib.Data.List.Nodup
import ServerLauncher.FileTree.Basic

/-!
# What lies where after a change

A file tree is told by what lies at each place : an entry with the place `n :: d` is there exactly
if `FileTree.at?` finds its node (`FileTree.mem_entries_iff`). The three primitive changes are told
that way too, `at?_add?`, `at?_modify` and `at?_erase`, and what is put in and changed and taken
away again leaves the tree as it was (`add?_modify`, `erase_of_add?`).

`FileTree.Keeps` and `FileTree.Extends` compare a tree with a later one : its directories and links
are still there, or everything is.
-/

namespace ServerLauncher.FileTree

variable {t t' t'' : FileTree}

/-- A tree is its entries and the working directory. -/
theorem ext_of_entries (h : t.entries = t'.entries) (hw : t.workDir = t'.workDir) : t = t' := by
  obtain ⟨es, w, _, _⟩ := t
  obtain ⟨es', w', _, _⟩ := t'
  obtain rfl : es = es' := h
  obtain rfl : w = w' := hw
  rfl

/-! ## Entries and places -/

@[simp] theorem at?_nil (t : FileTree) : t.at? [] = some .dir :=
  rfl

theorem place_eq_cons_iff (e : Entry) (n : Name) (d : Place) :
    e.place = n :: d ↔ e.name = n ∧ e.parent = d := by
  simp [Entry.place]

theorem mem_entries_iff (n : Name) (d : Place) (node : Node) :
    ⟨d, n, node⟩ ∈ t.entries ↔ t.at? (n :: d) = some node := by
  simp only [at?, Option.map_eq_some_iff]
  constructor
  · intro h
    obtain ⟨e, he⟩ : ∃ e, (t.entries.find? fun e => e.place = n :: d) = some e := by
      rw [← Option.isSome_iff_exists, List.find?_isSome]
      exact ⟨_, h, by simp [Entry.place]⟩
    have hplace : e.place = n :: d := by simpa using List.find?_some he
    have heq := List.inj_on_of_nodup_map t.nodup (List.mem_of_find?_eq_some he) h hplace
    exact ⟨e, he, by rw [heq]⟩
  · rintro ⟨e, he, rfl⟩
    have hplace : e.place = n :: d := by simpa using List.find?_some he
    obtain ⟨rfl, rfl⟩ := (place_eq_cons_iff e n d).mp hplace
    exact List.mem_of_find?_eq_some he

theorem at?_eq_iff_of_entries {n : Name} {d : Place} {a : Option Node}
    (h : ∀ node, ⟨d, n, node⟩ ∈ t.entries ↔ a = some node) : t.at? (n :: d) = a := by
  ext node
  rw [← h node]
  exact (mem_entries_iff n d node).symm

/-- Whatever is in the tree lies in a directory. -/
theorem at?_tail {n : Name} {d : Place} {node : Node} (h : t.at? (n :: d) = some node) :
    t.at? d = some .dir := by
  rcases t.hasParent _ ((mem_entries_iff n d node).mpr h) with hd | ⟨e, he, hplace, hdir⟩
  · obtain rfl : d = [] := hd
    rfl
  · obtain ⟨e, m, node'⟩ := e
    obtain rfl : m :: e = d := hplace
    obtain rfl : node' = .dir := hdir
    exact (mem_entries_iff m e .dir).mp he

/-- Below what is no directory there is nothing. -/
theorem at?_eq_none_of_suffix {p q : Place} (hp : t.at? p ≠ some .dir) (hs : p <:+ q)
    (hne : q ≠ p) : t.at? q = none := by
  induction q with
  | nil => exact absurd (List.suffix_nil.mp hs).symm hne
  | cons n d ih =>
    have hs' : p <:+ d := (List.suffix_cons_iff.mp hs).resolve_left (Ne.symm hne)
    by_contra hnode
    obtain ⟨node, hnode⟩ := Option.ne_none_iff_exists'.mp hnode
    have hd := at?_tail hnode
    by_cases hdp : d = p
    · exact hp (hdp ▸ hd)
    · rw [ih hs' hdp] at hd
      simp at hd

theorem mem_names (n : Name) (d : Place) : n ∈ t.names d ↔ ∃ node, t.at? (n :: d) = some node := by
  simp only [names, List.mem_map, List.mem_filter, decide_eq_true_eq]
  constructor
  · rintro ⟨⟨e, m, node⟩, ⟨he, rfl⟩, rfl⟩
    exact ⟨node, (mem_entries_iff m e node).mp he⟩
  · rintro ⟨node, h⟩
    exact ⟨⟨d, n, node⟩, ⟨(mem_entries_iff n d node).mpr h, rfl⟩, rfl⟩

theorem nodup_names (t : FileTree) (d : Place) : (t.names d).Nodup := by
  refine List.Nodup.of_map (· :: d) ?_
  have hplaces : (t.names d).map (· :: d) =
      (t.entries.filter fun e => e.parent = d).map Entry.place := by
    rw [names, List.map_map]
    refine List.map_congr_left fun e he => ?_
    obtain ⟨-, hparent⟩ := List.mem_filter.mp he
    rw [Entry.place, of_decide_eq_true hparent]
    rfl
  rw [hplaces]
  exact t.nodup.sublist (List.filter_sublist.map _)

/-! ## A new entry -/

variable {d : Place} {n : Name} {node : Node}

theorem add?_eq_some_iff : t.add? d n node = some t' ↔
    (t.at? d = some .dir ∧ t.at? (n :: d) = none) ∧
      t'.entries = t.entries ++ [⟨d, n, node⟩] ∧ t'.workDir = t.workDir := by
  unfold add?
  split
  case isTrue h =>
    simp only [Option.some.injEq, h, and_self, true_and]
    constructor
    · rintro rfl
      exact ⟨rfl, rfl⟩
    · rintro ⟨he, hw⟩
      exact ext_of_entries he.symm hw.symm
  case isFalse h => simp [h]

theorem at?_add? (h : t.add? d n node = some t') (p : Place) :
    t'.at? p = if p = n :: d then some node else t.at? p := by
  obtain ⟨⟨-, hfree⟩, he, -⟩ := add?_eq_some_iff.mp h
  cases p with
  | nil => rfl
  | cons m e =>
    refine at?_eq_iff_of_entries fun x => ?_
    rw [he, List.mem_append, mem_entries_iff, List.mem_singleton, Entry.mk.injEq]
    split
    case isTrue hp =>
      obtain ⟨rfl, rfl⟩ := List.cons.inj hp
      simp [hfree, eq_comm]
    case isFalse hp =>
      simp only [List.cons.injEq, not_and] at hp
      grind

theorem add?_modify (h : t.add? d n node = some t') (f : Nat → Bytes → Nat × Bytes) :
    t.add? d n (node.mapFile f) = some (t'.modify (n :: d) f) := by
  obtain ⟨hpos, he, hw⟩ := add?_eq_some_iff.mp h
  refine add?_eq_some_iff.mpr ⟨hpos, ?_, hw⟩
  have hold : t.entries.map (Entry.mapFile (n :: d) f) = t.entries := by
    refine (List.map_congr_left fun e he' => ?_).trans (List.map_id _)
    rw [Entry.mapFile, if_neg, id]
    intro hplace
    exact not_mem_of_at?_eq_none hpos.2 (hplace ▸ List.mem_map_of_mem he')
  simp only [modify, he, List.map_append, hold, List.map_cons, List.map_nil]
  simp [Entry.mapFile, Entry.place]

/-- A new entry that is taken away again leaves the tree as it was. -/
theorem erase_of_add? (h : t.add? d n node = some t') : t'.erase (n :: d) = t := by
  obtain ⟨⟨-, hfree⟩, he, hw⟩ := add?_eq_some_iff.mp h
  refine ext_of_entries ?_ hw
  have hold : (t.entries.filter fun e => !(n :: d).isSuffixOf e.place) = t.entries := by
    refine List.filter_eq_self.mpr fun ⟨e, m, x⟩ he' => ?_
    have hx := (mem_entries_iff m e x).mp he'
    simp only [Bool.not_eq_true', Bool.eq_false_iff, ne_eq, List.isSuffixOf_iff_suffix]
    intro hs
    by_cases hp : m :: e = n :: d
    · simp [hp, hfree] at hx
    · have hnone := at?_eq_none_of_suffix (t := t) (by simp [hfree]) hs hp
      rw [Entry.place, hx] at hnone
      simp at hnone
  simp only [erase, he, List.filter_append, hold]
  simp [Entry.place]

/-! ## Other changes -/

theorem at?_modify (t : FileTree) (p q : Place) (f : Nat → Bytes → Nat × Bytes) :
    (t.modify p f).at? q = if q = p then (t.at? q).map (Node.mapFile f) else t.at? q := by
  cases q with
  | nil => split <;> rfl
  | cons m e =>
    have hplace : (fun x : Entry => decide (x.place = m :: e)) ∘ Entry.mapFile p f =
        fun x => decide (x.place = m :: e) := by
      funext x
      simp only [Function.comp_apply, Entry.place_mapFile]
    simp only [at?, modify, List.find?_map, hplace]
    cases hx : t.entries.find? fun x => decide (x.place = m :: e) with
    | none => split <;> rfl
    | some x =>
      have hxp : x.place = m :: e := by simpa using List.find?_some hx
      simp only [Option.map_some, Entry.mapFile, hxp]
      split <;> rfl

theorem at?_erase (t : FileTree) {p : Place} (hp : p ≠ []) (q : Place) :
    (t.erase p).at? q = if p <:+ q then none else t.at? q := by
  cases q with
  | nil => simp [List.suffix_nil, hp]
  | cons m e =>
    simp only [at?, erase, List.find?_filter]
    split
    case isTrue hs =>
      rw [List.find?_eq_none.mpr, Option.map_none]
      intro x _ hx
      simp only [Bool.not_eq_true', decide_eq_true_eq] at hx
      rw [hx.2, Bool.eq_false_iff, ne_eq, List.isSuffixOf_iff_suffix] at hx
      exact hx.1 hs
    case isFalse hs =>
      have hkept : p.isSuffixOf (m :: e) = false := by
        rwa [Bool.eq_false_iff, ne_eq, List.isSuffixOf_iff_suffix]
      congr 2
      funext x
      by_cases hx : x.place = m :: e
      · simp [hx, hkept]
      · simp [hx]

/-- What is no directory can be taken away without anything else. -/
theorem at?_erase_of_not_dir {p : Place} (hp : t.at? p ≠ some .dir) (q : Place) :
    (t.erase p).at? q = if q = p then none else t.at? q := by
  have hne : p ≠ [] := by
    rintro rfl
    exact hp rfl
  rw [at?_erase t hne]
  by_cases hq : q = p
  · simp [hq]
  · rw [if_neg hq]
    split
    case isTrue hs => exact (at?_eq_none_of_suffix hp hs hq).symm
    case isFalse => rfl

/-! ## Comparing trees -/

/-- Directories and links are still there. -/
structure Keeps (t t' : FileTree) : Prop where
  workDir : t'.workDir = t.workDir
  dir : ∀ p, t.at? p = some .dir → t'.at? p = some .dir
  link : ∀ p target, t.at? p = some (.link target) → t'.at? p = some (.link target)

/-- Everything is still there. -/
structure Extends (t t' : FileTree) : Prop where
  workDir : t'.workDir = t.workDir
  at? : ∀ p node, t.at? p = some node → t'.at? p = some node

theorem Extends.keeps (h : t.Extends t') : t.Keeps t' :=
  ⟨h.workDir, fun p => h.at? p .dir, fun p target => h.at? p (.link target)⟩

theorem Extends.refl (t : FileTree) : t.Extends t :=
  ⟨rfl, fun _ _ h => h⟩

theorem Extends.trans (h : t.Extends t') (h' : t'.Extends t'') : t.Extends t'' :=
  ⟨h'.workDir.trans h.workDir, fun p node hp => h'.at? p node (h.at? p node hp)⟩

/-- A tree with more entries at the end still has all that was there. -/
theorem extends_of_entries {es : List Entry} (hw : t'.workDir = t.workDir)
    (hentries : t'.entries = t.entries ++ es) : t.Extends t' := by
  refine ⟨hw, fun p node hp => ?_⟩
  cases p with
  | nil => exact hp
  | cons n d =>
    rw [← mem_entries_iff] at hp ⊢
    rw [hentries]
    exact List.mem_append_left es hp

theorem extends_of_add? (h : t.add? d n node = some t') : t.Extends t' := by
  obtain ⟨-, hentries, hw⟩ := add?_eq_some_iff.mp h
  exact extends_of_entries hw hentries

theorem Keeps.trans (h : t.Keeps t') (h' : t'.Keeps t'') : t.Keeps t'' :=
  ⟨h'.workDir.trans h.workDir, fun p hp => h'.dir p (h.dir p hp),
    fun p target hp => h'.link p target (h.link p target hp)⟩

theorem keeps_modify (t : FileTree) (p : Place) (f : Nat → Bytes → Nat × Bytes) :
    t.Keeps (t.modify p f) := by
  refine ⟨rfl, fun q hq => ?_, fun q target hq => ?_⟩
  · rw [at?_modify, hq]
    split <;> rfl
  · rw [at?_modify, hq]
    split <;> rfl

theorem keeps_erase {p : Place} {mode : Nat} {content : Bytes}
    (h : t.at? p = some (.file mode content)) : t.Keeps (t.erase p) := by
  have hkept : ∀ {q x}, t.at? q = some x → x ≠ .file mode content →
      (t.erase p).at? q = some x := by
    intro q x hq hx
    rw [at?_erase_of_not_dir (by simp [h]), if_neg, hq]
    rintro rfl
    exact hx (Option.some.inj (hq.symm.trans h))
  exact ⟨rfl, fun q hq => hkept hq (by simp), fun q target hq => hkept hq (by simp)⟩

end ServerLauncher.FileTree
