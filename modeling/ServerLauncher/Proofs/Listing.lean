import ServerLauncher.Proofs.StoreStep

/-!
# What the listing shows

The listing of a cache makes its directory and nothing else (`Cache.addsDirs_list`), and shows the
entries of the directory that are named like a server and lead to a regular file
(`Cache.result_list_eq_ok_iff`, `Cache.mem_serversIn_iff`).
-/

namespace ServerLauncher.Cache

open FileTree

variable {c : Cache} {t : FileTree} {d : Place} {ss : List CachedServer}

/-- The servers among the entries of the directory at `d`. -/
def serversIn (c : Cache) (t : FileTree) (d : Place) : List CachedServer :=
  (t.names d).filterMap (c.serverAt? t)

/-- An entry is a server if it is named like one and its path leads to a regular file. -/
theorem serverAt?_eq_some_iff {n : Name} {s : CachedServer} : c.serverAt? t n = some s ↔
    c.versionOf? n.bytes = some s.version ∧ s.path = c.dir.join ⟨n.bytes⟩ ∧
      t.isFile s.path = true := by
  obtain ⟨v, p⟩ := s
  unfold serverAt?
  cases c.versionOf? n.bytes with
  | none => simp
  | some w =>
    by_cases hfile : t.isFile (c.dir.join ⟨n.bytes⟩) = true
    · simp only [hfile, if_true, Option.some.injEq, CachedServer.mk.injEq]
      constructor
      · rintro ⟨rfl, rfl⟩
        exact ⟨rfl, rfl, hfile⟩
      · rintro ⟨rfl, rfl, -⟩
        exact ⟨rfl, rfl⟩
    · simp only [hfile, if_false, reduceCtorEq, false_iff, not_and]
      rintro - rfl
      exact hfile

/-- A server is listed if an entry has its name and leads to a regular file. -/
theorem mem_serversIn_iff {s : CachedServer} : s ∈ c.serversIn t d ↔
    ∃ n ∈ t.names d, c.versionOf? n.bytes = some s.version ∧ s.path = c.dir.join ⟨n.bytes⟩ ∧
      t.isFile s.path = true := by
  simp only [serversIn, List.mem_filterMap, serverAt?_eq_some_iff]

/-- No two servers have one path. -/
theorem nodup_serversIn (c : Cache) (t : FileTree) (d : Place) :
    ((c.serversIn t d).map CachedServer.path).Nodup := by
  rw [serversIn, List.map_filterMap]
  refine (t.nodup_names d).filterMap fun n n' p h h' => ?_
  obtain ⟨s, hs, rfl⟩ := Option.map_eq_some_iff.mp h
  obtain ⟨s', hs', hpath⟩ := Option.map_eq_some_iff.mp h'
  obtain ⟨-, hn, -⟩ := serverAt?_eq_some_iff.mp hs
  obtain ⟨-, hn', -⟩ := serverAt?_eq_some_iff.mp hs'
  rw [hn, hn', Path.join_inj n'.slash_not_mem n.slash_not_mem] at hpath
  exact Name.ext_bytes hpath.symm

theorem servers_eq_ok_iff : c.servers t = .ok ss ↔
    ∃ d, t.find c.dir = .ok (d, .dir) ∧ ss = c.serversIn t d := by
  unfold servers readDir
  split
  case h_1 e he =>
    split at he
    case h_1 hfind => simp [hfind]
    case h_2 => simp at he
    case h_3 hnot hfind =>
      refine ⟨fun h => by simp at h, ?_⟩
      rintro ⟨d, hd, -⟩
      exact (hnot d (Except.ok.inj (hfind.symm.trans hd))).elim
  case h_2 names hnames =>
    split at hnames
    case h_1 => simp at hnames
    case h_2 d hfind =>
      obtain rfl := Except.ok.inj hnames
      simp [hfind, serversIn, eq_comm]
    case h_3 => simp at hnames

/-! ## Making the directory -/

theorem tree_ensureDir (c : Cache) (t : FileTree) :
    (c.ensureDir.run t).tree = (t.createDirs c.dir).1 := by
  simp only [ensureDir, Act.run_bind, Act.changeAnyway]
  split <;> rfl

theorem result_ensureDir_eq_ok_iff :
    (c.ensureDir.run t).result = .ok () ↔ (t.createDirs c.dir).2 = .ok () := by
  simp only [ensureDir, Act.run_bind, Act.changeAnyway]
  split
  case h_1 h => simp [h, Act.run_pure]
  case h_2 h => simp [h, Act.run_pure]

theorem find_of_ensureDir (h : (c.ensureDir.run t).result = .ok ()) (hdir : c.dir.bytes ≠ []) :
    ∃ d, (c.ensureDir.run t).tree.find c.dir = .ok (d, .dir) := by
  rw [tree_ensureDir]
  exact find_of_createDirs (result_ensureDir_eq_ok_iff.mp h) hdir

/-! ## Listing -/

theorem tree_list (c : Cache) (t : FileTree) :
    (c.list.run t).tree = (c.ensureDir.run t).tree := by
  simp only [list, Act.andThen, Act.run_bind, Act.look]
  split
  · rfl
  · simp only [Act.run_bind]
    split <;> rfl

/-- The listing makes the directories on the way to that of the cache, and changes nothing else. -/
theorem addsDirs_list (c : Cache) (t : FileTree) :
    t.AddsDirs c.dir.IsAbove (c.list.run t).tree := by
  rw [tree_list, tree_ensureDir]
  exact addsDirs_createDirs t c.dir

theorem result_list (c : Cache) (t : FileTree) : (c.list.run t).result =
    match (c.ensureDir.run t).result with
    | .error e => .error e
    | .ok () => c.servers (c.ensureDir.run t).tree := by
  simp only [list, Act.andThen, Act.run_bind, Act.look]
  cases (c.ensureDir.run t).result with
  | error e => rfl
  | ok u =>
    cases h : c.servers (c.ensureDir.run t).tree <;> simp [h, Act.run_bind, Act.run_pure]

/-- The listing gives the servers of the directory, which is there then. -/
theorem result_list_eq_ok_iff : (c.list.run t).result = .ok ss ↔
    (c.ensureDir.run t).result = .ok () ∧
      ∃ d, (c.list.run t).tree.find c.dir = .ok (d, .dir) ∧
        ss = c.serversIn (c.list.run t).tree d := by
  rw [result_list, tree_list, ← servers_eq_ok_iff]
  cases (c.ensureDir.run t).result <;> simp

/-- Where the directory is there, the listing only looks. -/
theorem list_of_find (hdir : t.find c.dir = .ok (d, .dir)) :
    (c.list.run t).result = .ok (c.serversIn t d) ∧ (c.list.run t).tree = t := by
  have htree : (c.list.run t).tree = t := by rw [tree_list, run_ensureDir hdir]
  refine ⟨result_list_eq_ok_iff.mpr ⟨by rw [run_ensureDir hdir], d, ?_, ?_⟩, htree⟩
  · rw [htree, hdir]
  · rw [htree]

/-- Listing a second time gives the same. -/
theorem list_again (h : (c.list.run t).result = .ok ss) :
    (c.list.run (c.list.run t).tree).result = .ok ss ∧
      (c.list.run (c.list.run t).tree).tree = (c.list.run t).tree := by
  obtain ⟨-, d, hd, rfl⟩ := result_list_eq_ok_iff.mp h
  exact list_of_find hd

theorem dir_ne_nil_of_find (hdir : t.find c.dir = .ok (d, .dir)) : c.dir.bytes ≠ [] := by
  obtain ⟨ss, hss, -⟩ := walk_eq_ok_iff.mp (find_eq_ok_iff.mp hdir)
  exact (Path.steps_eq_ok_iff.mp hss).2.1

end ServerLauncher.Cache
