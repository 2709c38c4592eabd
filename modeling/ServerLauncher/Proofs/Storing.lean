import ServerLauncher.Proofs.Listing

/-!
# What a store leaves behind

A store that runs alone ends in one of four ways (`Stored`) : the path leads somewhere already, the
name is taken though the path leads nowhere, the server is put there, or something fails. Only the
third changes the tree, and it adds nothing but the server (`Cache.stored_store`).

While the store is under way, its tree is the one that it began with and the temporary file
(`StoreStage.Stands`) ; every move keeps that, and as many moves as `storeSteps` get to the end.
-/

namespace ServerLauncher

open FileTree

/-- How a store ends, with the result and the tree that it leaves : `t` is the tree before, with the
cache directory at the place `d`. -/
inductive Stored (c : Cache) (v : Version) (data : Bytes) (d : Place) (t : FileTree) :
    Except CacheError Path → FileTree → Prop
  | present (h : t.exists? (c.pathFor v) = true) : Stored c v data d t (.ok (c.pathFor v)) t
  | blocked {n node} (hn : n.bytes = Utf8.encode (c.fileName v))
      (hat : t.at? (n :: d) = some node) (h : t.exists? (c.pathFor v) = false) :
      Stored c v data d t (.ok (c.pathFor v)) t
  | new {n t'} (hn : n.bytes = Utf8.encode (c.fileName v))
      (hfree : t.walk false (c.pathFor v) = .ok (.free d n))
      (hadd : t.add? d n (.file serverMode data) = some t') :
      Stored c v data d t (.ok (c.pathFor v)) t'
  | failed (e : SystemError) : Stored c v data d t (.error (.writeFailed (c.pathFor v) e)) t

variable {c : Cache} {v : Version} {data : Bytes} {d : Place} {t u t' : FileTree}
  {s s' : StoreStage} {p : Path} {m : Name} {mode : Nat} {content : Bytes}

/-! ## Under way -/

/-- The tree is `u` with the temporary file in it. -/
structure Beside (c : Cache) (d : Place) (u t : FileTree) (p : Path) (m : Name) (mode : Nat)
    (content : Bytes) : Prop where
  temporary : Temporary c d t p m mode content
  added : u.add? d m (.file mode content) = some t

/-- Where a store that began on the tree `u` stands, told by what is left to do. -/
def StoreStage.Stands (c : Cache) (v : Version) (data : Bytes) (d : Place) (u t : FileTree) :
    StoreStage → Prop
  | .ensureDir | .check => t = u
  | .createTemporary => t = u ∧ u.exists? (c.pathFor v) = false
  | .write p left => u.exists? (c.pathFor v) = false ∧
      ∃ m mode content, Beside c d u t p m mode content ∧ content ++ left = data
  | .makeExecutable p => u.exists? (c.pathFor v) = false ∧ ∃ m mode, Beside c d u t p m mode data
  | .rename p => u.exists? (c.pathFor v) = false ∧ ∃ m, Beside c d u t p m serverMode data
  | .discard p r => (∃ m mode content, Beside c d u t p m mode content) ∧ Stored c v data d u r u
  | .done r => Stored c v data d u r t

/-- How many steps are left at most, if all bytes are written at once. -/
def StoreStage.stepsLeft : StoreStage → Nat
  | .ensureDir => 8
  | .check => 7
  | .createTemporary => 6
  | .write _ (_ :: _) => 5
  | .write _ [] => 4
  | .makeExecutable _ => 3
  | .rename _ => 2
  | .discard _ _ => 1
  | .done _ => 0

namespace Beside

theorem at? (h : Beside c d u t p m mode content) (q : Place) :
    t.at? q = if q = m :: d then some (.file mode content) else u.at? q :=
  at?_add? h.added q

/-- Beside the temporary file there are the same servers. -/
theorem at?_server (h : Beside c d u t p m mode content) {n : Name}
    (hn : n.bytes = Utf8.encode (c.fileName v)) : t.at? (n :: d) = u.at? (n :: d) := by
  rw [h.at?, if_neg]
  intro hm
  have hhidden := h.temporary.hidden
  rw [← (List.cons.inj hm).1, hn, Cache.versionOf?_fileName] at hhidden
  simp at hhidden

/-- The temporary file can be changed without a trace in what was there before. -/
theorem modify (hdir : t.find c.dir = .ok (d, .dir)) (h : Beside c d u t p m mode content)
    (f : Nat → Bytes → Nat × Bytes) :
    Beside c d u (t.modify (m :: d) f) p m (f mode content).1 (f mode content).2 := by
  refine ⟨h.temporary.of_at? hdir (find_dir_of_keeps hdir (keeps_modify ..)) ?_,
    add?_modify h.added f⟩
  rw [at?_modify, if_pos rfl, h.temporary.at? hdir]
  rfl

/-- Without the temporary file the tree is as it was before. -/
theorem erase_eq {m' : Name} {mode' : Nat} {content' : Bytes}
    (h : Beside c d u t p m mode content) (htemp : Temporary c d t p m' mode' content') :
    t.erase (m' :: d) = u := by
  obtain ⟨rfl, -, -⟩ := h.temporary.unique htemp
  exact erase_of_add? h.added

end Beside

theorem StoreStage.Stands.ready (h : s.Stands c v data d u t) : s.Ready c d t := by
  intro p hp
  cases s with
  | ensureDir | check | createTemporary | done => simp [temporary?] at hp
  | write =>
    obtain rfl := Option.some.inj hp
    obtain ⟨-, m, mode, content, hb, -⟩ := h
    exact ⟨m, mode, content, hb.temporary⟩
  | makeExecutable =>
    obtain rfl := Option.some.inj hp
    obtain ⟨-, m, mode, hb⟩ := h
    exact ⟨m, mode, data, hb.temporary⟩
  | rename =>
    obtain rfl := Option.some.inj hp
    obtain ⟨-, m, hb⟩ := h
    exact ⟨m, serverMode, data, hb.temporary⟩
  | discard =>
    obtain rfl := Option.some.inj hp
    obtain ⟨⟨m, mode, content, hb⟩, -⟩ := h
    exact ⟨m, mode, content, hb.temporary⟩

namespace StoreMove

/-- A move leads from where a store stands to where it should stand next. -/
theorem stands {portion : Nat} (hu : u.find c.dir = .ok (d, .dir))
    (hdir : t.find c.dir = .ok (d, .dir)) (h : StoreMove c v data d portion s t s' t')
    (hs : s.Stands c v data d u t) : s'.Stands c v data d u t' := by
  cases h with
  | ensured => exact hs
  | found hexists =>
    obtain rfl : t = u := hs
    exact .present hexists
  | missing hexists =>
    obtain rfl : t = u := hs
    exact ⟨rfl, hexists⟩
  | created hadd htemp =>
    obtain ⟨rfl, hexists⟩ := hs
    exact ⟨hexists, _, _, [], ⟨htemp, hadd⟩, rfl⟩
  | notCreated =>
    obtain ⟨rfl, -⟩ := hs
    exact .failed _
  | written =>
    obtain ⟨hexists, m, mode, content, hb, hdata⟩ := hs
    rw [List.append_nil] at hdata
    exact ⟨hexists, m, mode, hdata ▸ hb⟩
  | wrote htemp =>
    obtain ⟨hexists, _, _, _, hb, hdata⟩ := hs
    obtain ⟨rfl, rfl, rfl⟩ := htemp.unique hb.temporary
    refine ⟨hexists, _, _, _, hb.modify hdir _, ?_⟩
    rw [List.append_assoc, List.take_append_drop, hdata]
  | madeExecutable htemp =>
    obtain ⟨hexists, _, _, hb⟩ := hs
    obtain ⟨rfl, rfl, rfl⟩ := htemp.unique hb.temporary
    exact ⟨hexists, _, hb.modify hdir _⟩
  | @renamed _ _ _ m _ _ n htemp hn hfree hadd =>
    obtain ⟨-, _, hb⟩ := hs
    rw [hb.erase_eq htemp] at hadd
    obtain ⟨-, rfl, rfl⟩ := htemp.unique hb.temporary
    refine .new hn ?_ hadd
    rw [Cache.pathFor, Path.ofString, ← hn] at hfree ⊢
    rw [walk_join_eq_free_iff hdir, hb.at?_server hn] at hfree
    exact (walk_join_eq_free_iff hu).mpr hfree
  | taken hn hat =>
    obtain ⟨hexists, m, hb⟩ := hs
    rw [hb.at?_server hn] at hat
    exact ⟨⟨m, _, _, hb⟩, .blocked hn hat hexists⟩
  | notRenamed =>
    obtain ⟨hexists, m, hb⟩ := hs
    exact ⟨⟨m, _, _, hb⟩, .failed _⟩
  | discarded htemp =>
    obtain ⟨⟨_, _, _, hb⟩, hstored⟩ := hs
    rw [hb.erase_eq htemp]
    exact hstored
  | done => exact hs

/-- A store that writes all bytes at once has fewer steps left after each move. -/
theorem stepsLeft_le (h : StoreMove c v data d data.length s t s' t')
    (hs : s.Stands c v data d u t) : s'.stepsLeft ≤ s.stepsLeft - 1 := by
  cases h with
  | created => cases data <;> simp [StoreStage.stepsLeft]
  | @wrote _ _ _ _ _ left _ hleft =>
    obtain ⟨-, _, _, content, -, hdata⟩ := hs
    have hdrop : left.drop data.length = [] := by
      rw [List.drop_eq_nil_iff, ← hdata, List.length_append]
      omega
    cases left with
    | nil => exact absurd rfl hleft
    | cons b left => simp [hdrop, StoreStage.stepsLeft]
  | ensured | found | missing | notCreated | written | madeExecutable | renamed | taken |
    notRenamed | discarded | done => simp [StoreStage.stepsLeft]

end StoreMove

/-! ## From the beginning to the end -/

namespace Cache

/-- A store that has steps enough to go comes to its end. -/
theorem stored_runStore (hu : u.find c.dir = .ok (d, .dir))
    (hbin : '/' ∉ c.binaryName.toList) (n : Nat) :
    ∀ {s : StoreStage} {t : FileTree}, t.find c.dir = .ok (d, .dir) → s.Stands c v data d u t →
      s.stepsLeft ≤ n → ∃ r, ((c.runStore v data n s).run t).result = .done r ∧
        Stored c v data d u r ((c.runStore v data n s).run t).tree := by
  induction n with
  | zero =>
    intro s t _ hs hn
    cases s with
    | done r => exact ⟨r, rfl, hs⟩
    | ensureDir | check | createTemporary | makeExecutable | rename | discard =>
      simp [StoreStage.stepsLeft] at hn
    | write p left => cases left <;> simp [StoreStage.stepsLeft] at hn
  | succ n ih =>
    intro s t hdir hs hn
    have hmove := storeMove_storeStep hdir hbin v data c.freshSuffix data.length
      (isSuffix_freshSuffix c t) hs.ready
    refine ih (find_dir_of_keeps hdir (hmove.keeps hdir)) (hmove.stands hu hdir hs) ?_
    have hless := hmove.stepsLeft_le hs
    omega

/-- What a store leaves behind where the directory is there. -/
theorem stored_store (hdir : t.find c.dir = .ok (d, .dir)) (hbin : '/' ∉ c.binaryName.toList)
    (v : Version) (data : Bytes) :
    Stored c v data d t ((c.store v data).run t).result ((c.store v data).run t).tree := by
  have hbegun : StoreStage.ensureDir.Stands c v data d t t := rfl
  obtain ⟨r, hr, hstored⟩ := stored_runStore hdir hbin storeSteps hdir hbegun (Nat.le_refl _)
  simp only [store, Act.run_bind, hr]
  exact hstored

theorem ensureDir_again (h : (c.ensureDir.run t).result = .ok ()) :
    (c.ensureDir.run (c.ensureDir.run t).tree).result = .ok () ∧
      (c.ensureDir.run (c.ensureDir.run t).tree).tree = (c.ensureDir.run t).tree := by
  by_cases hdir : c.dir.bytes = []
  · have hnone : ∀ t : FileTree, t.createDirs c.dir = (t, .ok ()) :=
      fun t => by rw [createDirs, if_pos (by simpa using hdir)]
    refine ⟨result_ensureDir_eq_ok_iff.mpr (by rw [hnone]), ?_⟩
    rw [tree_ensureDir c (c.ensureDir.run t).tree, hnone]
  · obtain ⟨d, hd⟩ := find_of_ensureDir h hdir
    rw [run_ensureDir hd]
    exact ⟨rfl, rfl⟩

/-- Once the directory is made, a store goes on to look for the server. -/
theorem runStore_of_ensureDir (v : Version) (data : Bytes) (n : Nat)
    (h : (c.ensureDir.run t).result = .ok ()) :
    ((c.runStore v data (n + 1) .ensureDir).run t).result =
        ((c.runStore v data n .check).run (c.ensureDir.run t).tree).result ∧
      ((c.runStore v data (n + 1) .ensureDir).run t).tree =
        ((c.runStore v data n .check).run (c.ensureDir.run t).tree).tree := by
  have hstep : ((c.storeStep v data c.freshSuffix data.length .ensureDir).run t).result =
        .check ∧
      ((c.storeStep v data c.freshSuffix data.length .ensureDir).run t).tree =
        (c.ensureDir.run t).tree := by
    simp only [storeStep, Act.run_bind, h]
    exact ⟨rfl, rfl⟩
  rw [runStore, Act.run_bind, hstep.1, hstep.2]
  exact ⟨rfl, rfl⟩

/-- A store begins with the directory, and goes on from there as if it had been there before. -/
theorem store_of_ensureDir (h : (c.ensureDir.run t).result = .ok ()) :
    ((c.store v data).run t).result = ((c.store v data).run (c.ensureDir.run t).tree).result ∧
      ((c.store v data).run t).tree = ((c.store v data).run (c.ensureDir.run t).tree).tree := by
  obtain ⟨hagain, htree⟩ := ensureDir_again h
  obtain ⟨hresult, hafter⟩ := runStore_of_ensureDir v data 7 h
  obtain ⟨hresult', hafter'⟩ := runStore_of_ensureDir v data 7 hagain
  rw [htree] at hresult' hafter'
  have hsteps : storeSteps = 7 + 1 := rfl
  simp only [store, hsteps, Act.run_bind, hresult, hafter, hresult', hafter', and_self]

/-- A store that has come to its end stays there. -/
theorem runStore_done (n : Nat) (r : Except CacheError Path) :
    ∀ t : FileTree, ((c.runStore v data n (.done r)).run t).result = .done r := by
  induction n with
  | zero => exact fun _ => rfl
  | succ n ih => exact fun t => ih t

/-- A store that gives back a path was able to make the directory. -/
theorem ensureDir_of_store (h : ((c.store v data).run t).result = .ok p) :
    (c.ensureDir.run t).result = .ok () := by
  cases he : (c.ensureDir.run t).result with
  | ok u => rfl
  | error e =>
    have hrun : ∀ n, ((c.runStore v data (n + 1) .ensureDir).run t).result =
        .done (.error e) := by
      intro n
      have hstep : ((c.storeStep v data c.freshSuffix data.length .ensureDir).run t).result =
          .done (.error e) := by
        simp only [storeStep, Act.run_bind, he]
        rfl
      rw [runStore, Act.run_bind, hstep]
      exact runStore_done n _ _
    have hend : ((c.runStore v data storeSteps .ensureDir).run t).result = .done (.error e) :=
      hrun 7
    simp only [store, Act.run_bind, hend] at h
    cases h

end Cache

/-! ## The path that is given back -/

/-- The stage gives back no path but `q`. -/
def StoreStage.GivesOnly (q : Path) : StoreStage → Prop
  | .discard _ r | .done r => ∀ p, r = .ok p → p = q
  | _ => True

namespace Cache

variable {suffix : FileTree → String} {portion : Nat}

theorem givesOnly_storeStep (hs : s.GivesOnly (c.pathFor v)) :
    ((c.storeStep v data suffix portion s).run t).result.GivesOnly (c.pathFor v) := by
  have herror : ∀ (e : CacheError) (p : Path), .error e = Except.ok p → p = c.pathFor v := by
    intro e p hp
    cases hp
  have hok : ∀ p, Except.ok (c.pathFor v) = (.ok p : Except CacheError Path) → p = c.pathFor v :=
    fun p hp => (Except.ok.inj hp).symm
  cases s with
  | ensureDir =>
    simp only [storeStep, Act.run_bind]
    split
    · exact herror _
    · trivial
  | check =>
    simp only [storeStep, Act.run_bind]
    split
    · exact hok
    · trivial
  | createTemporary =>
    simp only [storeStep, Act.run_bind]
    split
    · exact herror _
    · trivial
  | write p left =>
    cases left with
    | nil => trivial
    | cons b left =>
      simp only [storeStep, Act.run_bind]
      split
      · exact herror _
      · trivial
  | makeExecutable p =>
    simp only [storeStep, Act.run_bind]
    split
    · exact herror _
    · trivial
  | rename p =>
    simp only [storeStep, Act.run_bind]
    split
    · exact hok
    · exact hok
    · exact herror _
  | discard p r => exact hs
  | done r => exact hs

theorem givesOnly_runStore (n : Nat) : ∀ {s : StoreStage} {t : FileTree},
    s.GivesOnly (c.pathFor v) →
      ((c.runStore v data n s).run t).result.GivesOnly (c.pathFor v) := by
  induction n with
  | zero => exact fun hs => hs
  | succ n ih => exact fun hs => ih (givesOnly_storeStep hs)

/-- If a store gives back a path, it is that of the version. -/
theorem path_of_store (h : ((c.store v data).run t).result = .ok p) : p = c.pathFor v := by
  have hgives : ((c.runStore v data storeSteps .ensureDir).run t).result.GivesOnly (c.pathFor v) :=
    givesOnly_runStore storeSteps trivial
  simp only [store, Act.run_bind] at h
  split at h
  case h_1 r hr =>
    rw [hr] at hgives
    exact hgives p h
  case h_2 => cases h

end Cache

end ServerLauncher
