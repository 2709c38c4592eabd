import Mathlib.Data.List.Perm.Subperm
import ServerLauncher.Proofs.Storing

/-!
# What a store can do anywhere

`Stored` tells how a store ends in a directory that is known and with names that are one entry each.
`Settled` asks for neither : whatever the directory and the name of the program are, a store puts
the server where its path leads, or leaves the tree as it was once the directory had been made
(`Cache.settled_store`). It fails only where there is no room for the server (`Cache.HasRoom`). In a
directory that is known there is room wherever the server itself can be made, as long as the path of
a temporary file is not too long (`Cache.hasRoom_iff`) : for the file itself there is always a name
that is free.

While the store is under way, the tree is the one that it began with and one file more, to which the
path of the temporary file leads (`Aside`).
-/

namespace ServerLauncher

open FileTree

namespace FileTree

variable {t t' : FileTree} {p q : Path} {d : Place} {n : Name} {mode : Nat}

/-! ## Paths that end at an entry -/

/-- A path that does not lead to a directory ends with a look under a name, in every later tree. -/
theorem exists_lookUp_of_walk {x : Spot} (h : t.walk false p = .ok x)
    (hx : ∀ q, x ≠ .taken q .dir) : ∃ e n, t.lookUp e n = .ok x ∧
      ∀ {t' : FileTree} {y : Spot}, t.Keeps t' → t'.lookUp e n = .ok y →
        t'.walk false p = .ok y := by
  obtain ⟨ss, hss, hl⟩ := walk_eq_ok_iff.mp h
  obtain ⟨e, n, hlook, hlater⟩ := hl.exists_lookUp hx
  exact ⟨e, n, hlook, fun hk hy => walk_eq_ok_iff.mpr ⟨ss, hss, hk.workDir ▸ hlater hk hy⟩⟩

/-- In a later tree, a path that led to a free name leads to what is under the name then. -/
theorem walk_of_free (h : t.walk false p = .ok (.free d n)) :
    n.bytes.length ≤ maxNameBytes ∧ t.at? (n :: d) = none ∧
      ∀ {t' : FileTree} {y : Spot}, t.Keeps t' → t'.lookUp d n = .ok y →
        t'.walk false p = .ok y := by
  obtain ⟨e, m, hlook, hlater⟩ := exists_lookUp_of_walk h (by simp)
  obtain ⟨hshort, ⟨rfl, rfl⟩, hfree⟩ := lookUp_eq_free_iff.mp hlook
  exact ⟨hshort, hfree, hlater⟩

theorem exists_lookUp (t : FileTree) (d : Place) (hn : n.bytes.length ≤ maxNameBytes) :
    ∃ y, t.lookUp d n = .ok y := by
  rw [lookUp, if_neg (Nat.not_lt.mpr hn)]
  cases t.at? (n :: d) <;> exact ⟨_, rfl⟩

theorem short_of_lookUp {x : Spot} (h : t.lookUp d n = .ok x) : n.bytes.length ≤ maxNameBytes := by
  refine Nat.not_lt.mp fun hlong => ?_
  rw [lookUp, if_pos hlong] at h
  cases h

theorem exists_taken_of_exists? (h : t.exists? p = true) :
    ∃ q node, t.walk false p = .ok (.taken q node) := by
  unfold exists? at h
  split at h
  case h_1 hx => exact exists_taken_of_find hx
  case h_2 => cases h

theorem walk_true_of_file {content : Bytes}
    (h : t.walk false p = .ok (.taken d (.file mode content))) :
    t.walk true p = .ok (.taken d (.file mode content)) := by
  obtain ⟨ss, hss, hl⟩ := walk_eq_ok_iff.mp h
  exact walk_eq_ok_iff.mpr ⟨ss, hss, hl.of_file⟩

/-- Where a file can be made, a complete one can be put as well. -/
theorem exists_add?_of_dir (hd : t.at? d = some .dir) (hn : t.at? (n :: d) = none) (node : Node) :
    ∃ t', t.add? d n node = some t' :=
  ⟨_, by rw [add?, dif_pos ⟨hd, hn⟩]⟩

/-- The later tree has one file more, which lies where the path leads, and nothing else is
different. -/
structure AddsFile (p : Path) (mode : Nat) (content : Bytes) (t t' : FileTree) : Prop where
  workDir : t'.workDir = t.workDir
  entries : ∃ e : Entry, t'.entries = t.entries ++ [e] ∧ e.node = .file mode content ∧
    t'.walk false p = .ok (.taken e.place (.file mode content))

theorem addsFile_of_add? {content : Bytes} (hfree : t.walk false p = .ok (.free d n))
    (hadd : t.add? d n (.file mode content) = some t') : t.AddsFile p mode content t' := by
  obtain ⟨hshort, -, hlater⟩ := walk_of_free hfree
  obtain ⟨-, hentries, hw⟩ := add?_eq_some_iff.mp hadd
  refine ⟨hw, ⟨d, n, .file mode content⟩, hentries, rfl, ?_⟩
  refine hlater (extends_of_add? hadd).keeps (lookUp_eq_taken_iff.mpr ⟨hshort, rfl, ?_⟩)
  rw [at?_add? hadd, if_pos rfl]

theorem AddsFile.extends {content : Bytes} (h : t.AddsFile p mode content t') : t.Extends t' := by
  obtain ⟨e, hentries, -⟩ := h.entries
  exact extends_of_entries h.workDir hentries

end FileTree

/-! ## Beside the tree -/

/-- The tree `t` is `u` with one file more, to which the path `p` leads. -/
structure Aside (u t : FileTree) (p : Path) (e : Place) (m : Name) (mode : Nat) (content : Bytes) :
    Prop where
  path : ∀ {t' : FileTree} {y : Spot}, u.Keeps t' → t'.lookUp e m = .ok y →
    t'.walk false p = .ok y
  short : m.bytes.length ≤ maxNameBytes
  added : u.add? e m (.file mode content) = some t

variable {c : Cache} {v : Version} {data : Bytes} {t u t' : FileTree} {s : StoreStage} {p : Path}
  {d e : Place} {m : Name} {mode : Nat} {content : Bytes}

namespace Aside

theorem at? (h : Aside u t p e m mode content) (q : Place) :
    t.at? q = if q = m :: e then some (.file mode content) else u.at? q :=
  at?_add? h.added q

theorem keeps (h : Aside u t p e m mode content) : u.Keeps t :=
  (extends_of_add? h.added).keeps

theorem walk (h : Aside u t p e m mode content) :
    t.walk false p = .ok (.taken (m :: e) (.file mode content)) :=
  h.path h.keeps (lookUp_eq_taken_iff.mpr ⟨h.short, rfl, by rw [h.at?, if_pos rfl]⟩)

theorem find (h : Aside u t p e m mode content) : t.find p = .ok (m :: e, .file mode content) :=
  find_eq_ok_iff.mpr (walk_true_of_file h.walk)

theorem erase_eq (h : Aside u t p e m mode content) : t.erase (m :: e) = u :=
  erase_of_add? h.added

/-- The tree without the file keeps what the tree with it has. -/
theorem keeps_back (h : Aside u t p e m mode content) : t.Keeps u := by
  have hkeeps := keeps_erase (t := t) (p := m :: e) (by rw [h.at?, if_pos rfl])
  rwa [h.erase_eq] at hkeeps

theorem modify (h : Aside u t p e m mode content) (f : Nat → Bytes → Nat × Bytes) :
    Aside u (t.modify (m :: e) f) p e m (f mode content).1 (f mode content).2 :=
  ⟨h.path, h.short, add?_modify h.added f⟩

theorem of_createNew (h : u.createNew p mode = .ok t) : ∃ e m, Aside u t p e m mode [] := by
  obtain ⟨d, n, hwalk, hadd⟩ := createNew_eq_ok_iff.mp h
  obtain ⟨hshort, -, hlater⟩ := walk_of_free hwalk
  exact ⟨d, n, hlater, hshort, hadd⟩

end Aside

/-! ## The ends of a store -/

/-- There is room for the server of version `v` : a temporary file can be made, and so can a file at
the path of the version. -/
structure Cache.HasRoom (c : Cache) (u : FileTree) (v : Version) : Prop where
  temporary : ∃ t, u.createNew (c.temporaryPath (c.freshSuffix u)) temporaryMode = .ok t
  path : ∃ t, u.createNew (c.pathFor v) serverMode = .ok t

/-- How a store ends, with the result and the tree that it leaves : `u` is the tree in which its
directory has been made. -/
inductive Settled (c : Cache) (v : Version) (data : Bytes) (u : FileTree) :
    Except CacheError Path → FileTree → Prop
  | kept {x} (h : u.walk false (c.pathFor v) = .ok x) : Settled c v data u (.ok (c.pathFor v)) u
  | new {d n t'} (hfree : u.walk false (c.pathFor v) = .ok (.free d n))
      (hadd : u.add? d n (.file serverMode data) = some t') :
      Settled c v data u (.ok (c.pathFor v)) t'
  | failed {e : SystemError} (h : ¬c.HasRoom u v) :
      Settled c v data u (.error (.writeFailed (c.pathFor v) e)) u

/-- The path of a server that a store gives back leads somewhere. -/
theorem Settled.exists_walk (h : Settled c v data u (.ok p) t') :
    ∃ x, u.walk false (c.pathFor v) = .ok x := by
  cases h with
  | kept h => exact ⟨_, h⟩
  | new hfree => exact ⟨_, hfree⟩

/-- Where a store that has found its directory stands, told by what is left to do. -/
def StoreStage.Holds (c : Cache) (v : Version) (data : Bytes) (u t : FileTree) : StoreStage → Prop
  | .ensureDir => False
  | .check | .createTemporary => t = u
  | .write p left => ∃ e m mode content, Aside u t p e m mode content ∧ content ++ left = data
  | .makeExecutable p => ∃ e m mode, Aside u t p e m mode data
  | .rename p => ∃ e m, Aside u t p e m serverMode data
  | .discard p r => (∃ e m mode content, Aside u t p e m mode content) ∧ Settled c v data u r u
  | .done r => Settled c v data u r t

/-- Without the file beside it, a tree has something to look up wherever it has with it. -/
theorem Aside.exists_walk {x : Spot} {q : Path} (h : Aside u t p e m mode content)
    (hwalk : t.walk false q = .ok x) : ∃ y, u.walk false q = .ok y := by
  by_cases hdir : ∃ r, x = .taken r .dir
  · obtain ⟨r, rfl⟩ := hdir
    exact ⟨_, walk_of_keeps hwalk h.keeps_back (h.keeps_back.dir r)⟩
  · obtain ⟨d, n, hlook, hlater⟩ := exists_lookUp_of_walk hwalk fun r hr => hdir ⟨r, hr⟩
    obtain ⟨y, hy⟩ := exists_lookUp u d (short_of_lookUp hlook)
    exact ⟨y, hlater h.keeps_back hy⟩

/-- A rename into place puts the file where the path leads, or finds the name taken, or fails for
want of room. -/
theorem Aside.renameNew (h : Aside u t p e m serverMode data) (c : Cache) (v : Version) :
    (∃ d n t', u.walk false (c.pathFor v) = .ok (.free d n) ∧
        u.add? d n (.file serverMode data) = some t' ∧
        t.renameNew p (c.pathFor v) = .ok t') ∨
      (∃ x, u.walk false (c.pathFor v) = .ok x) ∧
        t.renameNew p (c.pathFor v) = .error .alreadyExists ∨
      ¬c.HasRoom u v ∧ ∃ e, e ≠ .alreadyExists ∧ t.renameNew p (c.pathFor v) = .error e := by
  rw [FileTree.renameNew, h.walk]
  cases hwalk : t.walk false (c.pathFor v) with
  | error e =>
    refine Or.inr (Or.inr ⟨?_, e, ?_, rfl⟩)
    · -- A path that led to a free name leads somewhere in every later tree.
      rintro ⟨-, t', hnew⟩
      obtain ⟨d, n, hfree, -⟩ := createNew_eq_ok_iff.mp hnew
      obtain ⟨hshort, -, hlater⟩ := walk_of_free hfree
      obtain ⟨y, hy⟩ := exists_lookUp t d hshort
      simp [hlater h.keeps hy] at hwalk
    · rintro rfl
      simpa [SystemError.blocksWalk] using error_of_walk hwalk
  | ok x =>
    cases x with
    | taken q node => exact Or.inr (Or.inl ⟨h.exists_walk hwalk, rfl⟩)
    | free d n =>
      have hfree : u.walk false (c.pathFor v) = .ok (.free d n) := by
        refine walk_of_keeps hwalk h.keeps_back fun hx => ?_
        by_cases hnm : n :: d = m :: e
        · rw [Spot.IsIn, hnm]
          exact (add?_eq_some_iff.mp h.added).1.2
        · rw [Spot.IsIn, h.at?, if_neg hnm] at hx
          exact hx
      simp only [h.erase_eq]
      cases hadd : u.add? d n (.file serverMode data) with
      | some t' => exact Or.inl ⟨d, n, t', hfree, hadd, rfl⟩
      | none =>
        refine Or.inr (Or.inr ⟨?_, .notFound, by simp, rfl⟩)
        rintro ⟨-, t', hnew⟩
        obtain ⟨d', n', hfree', hadd'⟩ := createNew_eq_ok_iff.mp hnew
        obtain ⟨rfl, rfl⟩ := Spot.free.inj (Except.ok.inj (hfree.symm.trans hfree'))
        obtain ⟨hd, hn⟩ := (add?_eq_some_iff.mp hadd').1
        obtain ⟨t'', hadd''⟩ := exists_add?_of_dir hd hn (.file serverMode data)
        simp [hadd] at hadd''

/-! ## From the beginning to the end -/

namespace Cache

/-- A step of a store leads from where it stands to where it should stand next, with fewer steps
left. -/
theorem holds_storeStep (h : s.Holds c v data u t) :
    let o := (c.storeStep v data c.freshSuffix data.length s).run t
    o.result.Holds c v data u o.tree ∧ o.result.stepsLeft ≤ s.stepsLeft - 1 := by
  intro o
  cases s with
  | ensureDir => exact h.elim
  | check =>
    obtain rfl : t = u := h
    simp only [o, storeStep, Act.run_bind, Act.look]
    by_cases hexists : t.exists? (c.pathFor v) = true
    · rw [if_pos hexists]
      obtain ⟨q, node, htaken⟩ := exists_taken_of_exists? hexists
      exact ⟨.kept htaken, Nat.zero_le _⟩
    · rw [if_neg hexists]
      exact ⟨rfl, Nat.le_refl 6⟩
  | createTemporary =>
    obtain rfl : t = u := h
    simp only [o, storeStep, Act.run_bind, Act.look, Act.change]
    cases hnew : t.createNew (c.temporaryPath (c.freshSuffix t)) temporaryMode with
    | error e =>
      refine ⟨.failed ?_, Nat.zero_le _⟩
      rintro ⟨⟨t', ht'⟩, -⟩
      simp [hnew] at ht'
    | ok t₁ =>
      obtain ⟨e, m, haside⟩ := Aside.of_createNew hnew
      refine ⟨⟨e, m, _, [], haside, rfl⟩, ?_⟩
      cases data with
      | nil => exact Nat.le_succ 4
      | cons b data => exact Nat.le_refl 5
  | write p left =>
    obtain ⟨e, m, mode, content, haside, hdata⟩ := h
    cases left with
    | nil =>
      rw [List.append_nil] at hdata
      exact ⟨⟨e, m, mode, hdata ▸ haside⟩, Nat.le_refl 3⟩
    | cons b left =>
      simp only [o, storeStep, Act.run_bind, Act.change, append, modifyFile, haside.find]
      have hdrop : (b :: left).drop data.length = [] := by
        rw [List.drop_eq_nil_iff, ← hdata, List.length_append]
        omega
      refine ⟨⟨e, m, _, _, haside.modify _, ?_⟩, ?_⟩
      · rw [List.append_assoc, List.take_append_drop, hdata]
      · rw [hdrop]
        exact Nat.le_refl 4
  | makeExecutable p =>
    obtain ⟨e, m, mode, haside⟩ := h
    simp only [o, storeStep, Act.run_bind, Act.change, setMode, modifyFile, haside.find]
    exact ⟨⟨e, m, haside.modify _⟩, Nat.le_refl 2⟩
  | rename p =>
    obtain ⟨e, m, haside⟩ := h
    rcases haside.renameNew c v with ⟨d, n, t', hfree, hadd, hrename⟩ | ⟨⟨x, hx⟩, hrename⟩ |
      ⟨hroom, e', he', hrename⟩
    · simp only [o, storeStep, Act.run_bind, Act.change, hrename]
      exact ⟨.new hfree hadd, Nat.zero_le _⟩
    · simp only [o, storeStep, Act.run_bind, Act.change, hrename]
      exact ⟨⟨⟨e, m, _, _, haside⟩, .kept hx⟩, Nat.le_refl 1⟩
    · simp only [o, storeStep, Act.run_bind, Act.change, hrename]
      exact ⟨⟨⟨e, m, _, _, haside⟩, .failed hroom⟩, Nat.le_refl 1⟩
  | discard p r =>
    obtain ⟨⟨e, m, mode, content, haside⟩, hsettled⟩ := h
    have hremove : t.removeFile p = .ok u := by
      rw [removeFile, haside.walk]
      exact congrArg Except.ok haside.erase_eq
    simp only [o, storeStep, Act.run_bind, Act.run_discard, Act.change, hremove]
    exact ⟨hsettled, Nat.zero_le _⟩
  | done r => exact ⟨h, Nat.zero_le _⟩

/-- A store that has steps enough to go comes to its end. -/
theorem settled_runStore (n : Nat) : ∀ {s : StoreStage} {t : FileTree}, s.Holds c v data u t →
    s.stepsLeft ≤ n → ∃ r, ((c.runStore v data n s).run t).result = .done r ∧
      Settled c v data u r ((c.runStore v data n s).run t).tree := by
  induction n with
  | zero =>
    intro s t hs hn
    cases s with
    | done r => exact ⟨r, rfl, hs⟩
    | ensureDir | check | createTemporary | makeExecutable | rename | discard =>
      simp [StoreStage.stepsLeft] at hn
    | write p left => cases left <;> simp [StoreStage.stepsLeft] at hn
  | succ n ih =>
    intro s t hs hn
    obtain ⟨hholds, hless⟩ := holds_storeStep hs
    exact ih hholds (by omega)

/-- What a store leaves behind once its directory has been made. -/
theorem settled_store (v : Version) (data : Bytes) (h : (c.ensureDir.run t).result = .ok ()) :
    Settled c v data (c.ensureDir.run t).tree ((c.store v data).run t).result
      ((c.store v data).run t).tree := by
  obtain ⟨hresult, htree⟩ := runStore_of_ensureDir v data 7 h
  have hbegun : StoreStage.check.Holds c v data (c.ensureDir.run t).tree
      (c.ensureDir.run t).tree := rfl
  obtain ⟨r, hr, hsettled⟩ := settled_runStore 7 hbegun (Nat.le_refl _)
  have hsteps : storeSteps = 7 + 1 := rfl
  simp only [store, hsteps, Act.run_bind, Act.run_pure, hresult, htree, hr]
  exact hsettled

/-- Where the directory cannot be made, a store ends with that error. -/
theorem store_of_error {err : CacheError} (v : Version) (data : Bytes)
    (h : (c.ensureDir.run t).result = .error err) :
    ((c.store v data).run t).result = .error err ∧
      ((c.store v data).run t).tree = (c.ensureDir.run t).tree := by
  have hstep : ((c.storeStep v data c.freshSuffix data.length .ensureDir).run t).result =
        .done (.error err) ∧
      ((c.storeStep v data c.freshSuffix data.length .ensureDir).run t).tree =
        (c.ensureDir.run t).tree := by
    simp only [storeStep, Act.run_bind, h]
    exact ⟨rfl, rfl⟩
  have hsteps : storeSteps = 7 + 1 := rfl
  simp only [store, hsteps, runStore, Act.run_bind, hstep]
  exact ⟨rfl, rfl⟩

/-- Where something is at the path once the directory is made, a store leaves it there. -/
theorem store_of_exists? (data : Bytes) (h : (c.ensureDir.run t).result = .ok ())
    (hexists : (c.ensureDir.run t).tree.exists? (c.pathFor v) = true) :
    ((c.store v data).run t).result = .ok (c.pathFor v) ∧
      ((c.store v data).run t).tree = (c.ensureDir.run t).tree := by
  obtain ⟨hresult, htree⟩ := runStore_of_ensureDir v data 7 h
  have hstep : ((c.storeStep v data c.freshSuffix data.length .check).run
          (c.ensureDir.run t).tree).result = .done (.ok (c.pathFor v)) ∧
      ((c.storeStep v data c.freshSuffix data.length .check).run
          (c.ensureDir.run t).tree).tree = (c.ensureDir.run t).tree := by
    simp only [storeStep, Act.run_bind, Act.look, hexists, if_true]
    exact ⟨rfl, rfl⟩
  have hsteps : storeSteps = 7 + 1 := rfl
  simp only [store, hsteps, Act.run_bind, hresult, htree]
  simp only [runStore, Act.run_bind, hstep]
  exact ⟨rfl, rfl⟩

theorem addsDirs_ensureDir (c : Cache) (t : FileTree) :
    t.AddsDirs c.dir.IsAbove (c.ensureDir.run t).tree := by
  rw [tree_ensureDir]
  exact addsDirs_createDirs t c.dir

/-- Once its directory has been made, or was not, a store either does nothing more to the tree or
adds the server. -/
theorem adds_store (c : Cache) (v : Version) (data : Bytes) (t : FileTree) :
    ((c.store v data).run t).tree = (c.ensureDir.run t).tree ∨
      ((c.store v data).run t).result = .ok (c.pathFor v) ∧
        (c.ensureDir.run t).tree.AddsFile (c.pathFor v) serverMode data
          ((c.store v data).run t).tree := by
  cases h : (c.ensureDir.run t).result with
  | error err => exact Or.inl (store_of_error v data h).2
  | ok =>
    have hsettled := settled_store v data h
    generalize (c.store v data).run t = o at hsettled ⊢
    obtain ⟨r, t', es⟩ := o
    cases hsettled with
    | kept | failed => exact Or.inl rfl
    | new hfree hadd => exact Or.inr ⟨rfl, addsFile_of_add? hfree hadd⟩

end Cache

/-! ## Room for a temporary file -/

namespace Cache

/-- A temporary file in the directory of the cache has neither a path nor a name that is too
long. -/
structure TemporaryFits (c : Cache) (u : FileTree) : Prop where
  path : (c.temporaryPath (c.freshSuffix u)).bytes.length ≤ maxPathBytes
  name : (Utf8.encode (temporaryName (c.freshSuffix u))).length ≤ maxNameBytes

/-- More suffixes are tried than there are entries, so one of them is not in use. -/
theorem exists_unused (hd : u.find c.dir = .ok (d, .dir)) :
    ∃ n ∈ List.range (u.entries.length + 1), ∀ q node,
      u.walk false (c.temporaryPath (nthSuffix n)) ≠ .ok (.taken q node) := by
  by_contra hused
  simp only [not_exists, not_and, not_forall, not_not] at hused
  let name (n : Nat) : Bytes := Utf8.encode (temporaryName (nthSuffix n))
  have hnames : ((List.range (u.entries.length + 1)).map name).Nodup := by
    refine List.nodup_range.map fun m n h => nthSuffix_injective ?_
    simpa [temporaryName] using Utf8.encode_inj.mp h
  have hentries : (List.range (u.entries.length + 1)).map name ⊆
      u.entries.map fun e => e.name.bytes := by
    intro bs hbs
    obtain ⟨n, hn, rfl⟩ := List.mem_map.mp hbs
    obtain ⟨q, node, hwalk⟩ := hused n hn
    obtain ⟨m, hm⟩ := exists_name_temporaryName (isSuffix_nthSuffix n)
    rw [temporaryPath_eq hm, walk_join_eq_ok_iff hd, lookUp_eq_taken_iff] at hwalk
    obtain ⟨-, -, -, hat⟩ := hwalk
    exact List.mem_map.mpr ⟨⟨d, m, node⟩, (mem_entries_iff m d node).mpr hat, hm⟩
  have hlength := (hnames.subperm hentries).length_le
  rw [List.length_map, List.length_map, List.length_range] at hlength
  omega

/-- The suffix that is picked is one of those that are tried, and it is not in use. -/
theorem exists_freshSuffix_eq (hd : u.find c.dir = .ok (d, .dir)) :
    ∃ n ≤ u.entries.length, c.freshSuffix u = nthSuffix n ∧ ∀ q node,
      u.walk false (c.temporaryPath (nthSuffix n)) ≠ .ok (.taken q node) := by
  obtain ⟨n, hn, hunused⟩ := exists_unused hd
  unfold freshSuffix
  simp only
  generalize hfind : List.find? _ _ = found
  cases found with
  | none =>
    have hnone := List.find?_eq_none.mp hfind n hn
    split at hnone
    case h_1 hwalk => exact absurd hwalk (hunused _ _)
    case h_2 => simp at hnone
  | some m =>
    have hm := List.find?_some hfind
    have hrange := List.mem_range.mp (List.mem_of_find?_eq_some hfind)
    refine ⟨m, Nat.lt_succ_iff.mp hrange, rfl, fun q node htaken => ?_⟩
    simp [htaken] at hm

/-- With less than a million entries in the tree, a temporary file takes eleven bytes more than the
directory. -/
theorem TemporaryFits.of_short (hd : u.find c.dir = .ok (d, .dir))
    (hdir : c.dir.bytes.length + 11 ≤ maxPathBytes) (hentries : u.entries.length < 1000000) :
    c.TemporaryFits u := by
  obtain ⟨n, hn, hfresh, -⟩ := exists_freshSuffix_eq hd
  have hlength : (Utf8.encode (temporaryName (c.freshSuffix u))).length = 10 := by
    rw [hfresh, length_temporaryName, length_nthSuffix (Nat.lt_of_le_of_lt hn hentries)]
  refine ⟨?_, by rw [hlength]; decide⟩
  have hjoin := Path.length_join_le c.dir (.ofString (temporaryName (c.freshSuffix u)))
  rw [Path.ofString] at hjoin
  rw [temporaryPath, Path.ofString]
  simp only [hlength] at hjoin
  omega

/-- Where the server itself can be made, only a path or a name that is too long keeps a temporary
file from being made beside it. -/
theorem hasRoom_iff (hbin : '/' ∉ c.binaryName.toList) (hd : u.find c.dir = .ok (d, .dir)) :
    c.HasRoom u v ↔
      c.TemporaryFits u ∧ ∃ t, u.createNew (c.pathFor v) serverMode = .ok t := by
  obtain ⟨m, hm⟩ := exists_name_temporaryName (isSuffix_freshSuffix c u)
  have hpath := temporaryPath_eq (c := c) hm
  constructor
  · rintro ⟨⟨t, htemporary⟩, hserver⟩
    obtain ⟨e, n, hwalk, -⟩ := createNew_eq_ok_iff.mp htemporary
    rw [hpath, walk_join_eq_ok_iff hd, lookUp_eq_free_iff] at hwalk
    obtain ⟨hshort, hname, -⟩ := hwalk
    exact ⟨⟨hpath ▸ hshort, hm ▸ hname⟩, hserver⟩
  · rintro ⟨⟨hshort, hname⟩, t, hserver⟩
    refine ⟨?_, t, hserver⟩
    rw [hpath] at hshort ⊢
    have hfree : u.at? (m :: d) = none := by
      by_contra hsome
      obtain ⟨node, hnode⟩ := Option.ne_none_iff_exists'.mp hsome
      obtain ⟨n, -, hfresh, hunused⟩ := exists_freshSuffix_eq hd
      refine hunused (m :: d) node ?_
      rw [← hfresh, hpath]
      exact (walk_join_eq_taken_iff hd).mpr ⟨hshort, hm ▸ hname, hnode⟩
    -- the directory is there, for the server can be made in it
    have hdir : u.at? d = some .dir := by
      obtain ⟨e, n, hwalk, hadd⟩ := createNew_eq_ok_iff.mp hserver
      obtain ⟨n', -, hlook⟩ := lookUp_of_walk_pathFor hd hbin hwalk
      obtain ⟨-, ⟨rfl, -⟩, -⟩ := lookUp_eq_free_iff.mp hlook
      exact (add?_eq_some_iff.mp hadd).1.1
    obtain ⟨t', hadd⟩ := exists_add?_of_dir hdir hfree (.file temporaryMode [])
    refine ⟨t', createNew_eq_ok_iff.mpr ⟨d, m, ?_, hadd⟩⟩
    exact (walk_join_eq_free_iff hd).mpr ⟨hshort, hm ▸ hname, hfree⟩

end Cache

end ServerLauncher
