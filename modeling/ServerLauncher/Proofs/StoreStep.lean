import ServerLauncher.Proofs.Directories
import ServerLauncher.Proofs.Naming

/-!
# What a step of a store does

`StoreMove` tells everything that one step of a store can do once the cache directory is there :
which stage comes next, and how the tree after it differs from the one before.
`Cache.storeMove_storeStep` says that `Cache.storeStep` does nothing else, as long as the temporary
file that the stage names is there (`StoreStage.Ready`).

Of the tree, a step changes the temporary file of this store and the name of its server, and what it
puts under that name is complete (`StoreMove.at?_old`, `StoreMove.at?_new`).
-/

namespace ServerLauncher

open FileTree

theorem Act.run_discard {ε α : Type} (x : Act ε α) (t : FileTree) :
    (discard x : Act ε Unit).run t = ⟨(), (x.run t).tree, (x.run t).events ++ []⟩ :=
  rfl

/-! ## Temporary files -/

/-- The path is that of the entry `m` of the cache directory `d`, which is a file and not one of the
servers. -/
structure Temporary (c : Cache) (d : Place) (t : FileTree) (p : Path) (m : Name) (mode : Nat)
    (content : Bytes) : Prop where
  path : p = c.dir.join ⟨m.bytes⟩
  hidden : c.versionOf? m.bytes = none
  walk : t.walk false p = .ok (.taken (m :: d) (.file mode content))

/-- The temporary file of a stage. -/
def StoreStage.temporary? : StoreStage → Option Path
  | .write p _ | .makeExecutable p | .rename p | .discard p _ => some p
  | .ensureDir | .check | .createTemporary | .done _ => none

/-- The temporary file of the stage is there. -/
def StoreStage.Ready (c : Cache) (d : Place) (t : FileTree) (s : StoreStage) : Prop :=
  ∀ p, s.temporary? = some p → ∃ m mode content, Temporary c d t p m mode content

/-! ## Moves -/

/-- What a step of storing `data` as the server of version `v` does to the stage and to the tree,
in a cache directory at the place `d`. -/
inductive StoreMove (c : Cache) (v : Version) (data : Bytes) (d : Place) (portion : Nat) :
    StoreStage → FileTree → StoreStage → FileTree → Prop
  | ensured {t} : StoreMove c v data d portion .ensureDir t .check t
  | found {t} (h : t.exists? (c.pathFor v) = true) :
      StoreMove c v data d portion .check t (.done (.ok (c.pathFor v))) t
  | missing {t} (h : t.exists? (c.pathFor v) = false) :
      StoreMove c v data d portion .check t .createTemporary t
  | created {t t' p m} (hadd : t.add? d m (.file temporaryMode []) = some t')
      (h : Temporary c d t' p m temporaryMode []) :
      StoreMove c v data d portion .createTemporary t (.write p data) t'
  | notCreated {t e} :
      StoreMove c v data d portion .createTemporary t
        (.done (.error (.writeFailed (c.pathFor v) e))) t
  | written {t p} : StoreMove c v data d portion (.write p []) t (.makeExecutable p) t
  | wrote {t p m mode content left} (h : Temporary c d t p m mode content) (hleft : left ≠ []) :
      StoreMove c v data d portion (.write p left) t (.write p (left.drop portion))
        (t.modify (m :: d) fun mode content => (mode, content ++ left.take portion))
  | madeExecutable {t p m mode content} (h : Temporary c d t p m mode content) :
      StoreMove c v data d portion (.makeExecutable p) t (.rename p)
        (t.modify (m :: d) fun _ content => (serverMode, content))
  | renamed {t t' p m mode content n} (h : Temporary c d t p m mode content)
      (hn : n.bytes = Utf8.encode (c.fileName v))
      (hfree : t.walk false (c.pathFor v) = .ok (.free d n))
      (hadd : (t.erase (m :: d)).add? d n (.file mode content) = some t') :
      StoreMove c v data d portion (.rename p) t (.done (.ok (c.pathFor v))) t'
  | taken {t p n node} (hn : n.bytes = Utf8.encode (c.fileName v))
      (hat : t.at? (n :: d) = some node) :
      StoreMove c v data d portion (.rename p) t (.discard p (.ok (c.pathFor v))) t
  | notRenamed {t p e} :
      StoreMove c v data d portion (.rename p) t
        (.discard p (.error (.writeFailed (c.pathFor v) e))) t
  | discarded {t p r m mode content} (h : Temporary c d t p m mode content) :
      StoreMove c v data d portion (.discard p r) t (.done r) (t.erase (m :: d))
  | done {t r} : StoreMove c v data d portion (.done r) t (.done r) t

/-! ## The temporary file is known -/

variable {c : Cache} {v : Version} {data : Bytes} {d : Place} {t t' : FileTree}
  {s s' : StoreStage} {p : Path} {m n : Name} {mode portion : Nat} {content : Bytes}

namespace Temporary

theorem unique {m' : Name} {mode' : Nat} {content' : Bytes} (h : Temporary c d t p m mode content)
    (h' : Temporary c d t p m' mode' content') : m = m' ∧ mode = mode' ∧ content = content' := by
  obtain ⟨hplace, hnode⟩ := Spot.taken.inj (Except.ok.inj (h.walk.symm.trans h'.walk))
  obtain ⟨hmode, hcontent⟩ := Node.file.inj hnode
  exact ⟨(List.cons.inj hplace).1, hmode, hcontent⟩

variable (hdir : t.find c.dir = .ok (d, .dir))
include hdir

theorem at? (h : Temporary c d t p m mode content) :
    t.at? (m :: d) = some (.file mode content) :=
  ((walk_join_eq_taken_iff hdir).mp (h.path ▸ h.walk)).2.2

/-- In another tree with the same directory, the file is there with what that tree holds under its
name. -/
theorem of_at? {mode' : Nat} {content' : Bytes} (h : Temporary c d t p m mode content)
    (hdir' : t'.find c.dir = .ok (d, .dir)) (hat : t'.at? (m :: d) = some (.file mode' content')) :
    Temporary c d t' p m mode' content' := by
  obtain ⟨hlong, hname, -⟩ := (walk_join_eq_taken_iff hdir).mp (h.path ▸ h.walk)
  refine ⟨h.path, h.hidden, ?_⟩
  rw [h.path]
  exact (walk_join_eq_taken_iff hdir').mpr ⟨hlong, hname, hat⟩

theorem find (h : Temporary c d t p m mode content) :
    t.find p = .ok (m :: d, .file mode content) := by
  rw [find_eq_ok_iff, ← h.walk, h.path]
  exact walk_true_join_of_file hdir (h.at? hdir)

end Temporary

/-! ## The paths of a store -/

namespace Cache

variable (hdir : t.find c.dir = .ok (d, .dir))
include hdir

/-- The path of a server leads to what the directory holds under its name, if it leads anywhere. -/
theorem walk_pathFor (hbin : '/' ∉ c.binaryName.toList) (v : Version) :
    t.walk false (c.pathFor v) = .error .nulInPath ∨
      t.walk false (c.pathFor v) = .error .nameTooLong ∨
      ∃ n : Name, n.bytes = Utf8.encode (c.fileName v) ∧
        t.walk false (c.pathFor v) = t.lookUp d n := by
  rcases ofBytes?_fileName c v with hnone | ⟨n, hn⟩
  · exact Or.inl (walk_join_of_none hdir (slash_not_mem_fileName hbin v) hnone)
  · have hwalk := walk_false_join hdir n
    rw [hn] at hwalk
    split at hwalk
    case isTrue => exact Or.inr (Or.inl hwalk)
    case isFalse => exact Or.inr (Or.inr ⟨n, hn, hwalk⟩)

theorem lookUp_of_walk_pathFor {x : Spot} (hbin : '/' ∉ c.binaryName.toList)
    (h : t.walk false (c.pathFor v) = .ok x) :
    ∃ n : Name, n.bytes = Utf8.encode (c.fileName v) ∧ t.lookUp d n = .ok x := by
  rcases walk_pathFor hdir hbin v with hwalk | hwalk | ⟨n, hn, hwalk⟩
  · simp [hwalk] at h
  · simp [hwalk] at h
  · exact ⟨n, hn, hwalk ▸ h⟩

/-- Something at the path of a server is an entry of the directory. -/
theorem exists_at?_of_exists? (hbin : '/' ∉ c.binaryName.toList)
    (h : t.exists? (c.pathFor v) = true) :
    ∃ n : Name, n.bytes = Utf8.encode (c.fileName v) ∧ ∃ node, t.at? (n :: d) = some node := by
  unfold exists? at h
  split at h
  case h_1 x hx =>
    obtain ⟨q, node, hq⟩ := exists_taken_of_find hx
    obtain ⟨n, hn, hlook⟩ := lookUp_of_walk_pathFor hdir hbin hq
    exact ⟨n, hn, node, (lookUp_eq_taken_iff.mp hlook).2.2⟩
  case h_2 => simp at h

theorem createNew_temporaryPath {suffix : String} (hs : IsSuffix suffix)
    (h : t.createNew (c.temporaryPath suffix) mode = .ok t') :
    ∃ m, t.add? d m (.file mode []) = some t' ∧
      Temporary c d t' (c.temporaryPath suffix) m mode [] := by
  obtain ⟨m, hm⟩ := exists_name_temporaryName hs
  rw [Cache.temporaryPath_eq hm] at h ⊢
  obtain ⟨e, l, hwalk, hadd⟩ := createNew_eq_ok_iff.mp h
  rw [walk_join_eq_ok_iff hdir, lookUp_eq_free_iff] at hwalk
  obtain ⟨hshort, hname, ⟨rfl, rfl⟩, -⟩ := hwalk
  refine ⟨l, hadd, rfl, hm ▸ versionOf?_temporaryName hs, ?_⟩
  have hdir' := find_dir_of_keeps hdir (extends_of_add? hadd).keeps
  refine (walk_join_eq_taken_iff hdir').mpr ⟨hshort, hname, ?_⟩
  rw [at?_add? hadd, if_pos rfl]

/-- A rename into place puts the file where nothing was, or finds the name taken, or fails. -/
theorem renameNew_pathFor (hbin : '/' ∉ c.binaryName.toList)
    (h : Temporary c d t p m mode content) :
    (∃ n t', n.bytes = Utf8.encode (c.fileName v) ∧
        t.walk false (c.pathFor v) = .ok (.free d n) ∧
        (t.erase (m :: d)).add? d n (.file mode content) = some t' ∧
        t.renameNew p (c.pathFor v) = .ok t') ∨
      (∃ n node, n.bytes = Utf8.encode (c.fileName v) ∧ t.at? (n :: d) = some node ∧
        t.renameNew p (c.pathFor v) = .error .alreadyExists) ∨
      ∃ e, e ≠ .alreadyExists ∧ t.renameNew p (c.pathFor v) = .error e := by
  rw [renameNew, h.walk]
  rcases walk_pathFor hdir hbin v with hwalk | hwalk | ⟨n, hn, hwalk⟩
  · exact Or.inr (Or.inr ⟨.nulInPath, by simp, by rw [hwalk]⟩)
  · exact Or.inr (Or.inr ⟨.nameTooLong, by simp, by rw [hwalk]⟩)
  · rw [hwalk, lookUp]
    by_cases hlong : maxNameBytes < n.bytes.length
    · exact Or.inr (Or.inr ⟨.nameTooLong, by simp, by simp [hlong]⟩)
    · cases hat : t.at? (n :: d) with
      | some node => exact Or.inr (Or.inl ⟨n, node, hn, hat, by simp [hlong]⟩)
      | none =>
        cases hadd : (t.erase (m :: d)).add? d n (.file mode content) with
        | none => exact Or.inr (Or.inr ⟨.notFound, by simp, by simp [hlong, hadd, orNotFound]⟩)
        | some t₁ =>
          exact Or.inl ⟨n, t₁, hn, by simp [hlong], hadd, by simp [hlong, hadd, orNotFound]⟩

/-! ## Every step is a move -/

theorem run_ensureDir : c.ensureDir.run t = ⟨.ok (), t, []⟩ := by
  simp only [ensureDir, Act.run_bind, Act.changeAnyway, createDirs_of_find hdir]
  rfl

/-- What a step of `Cache.storeStep` does is a move. -/
theorem storeMove_storeStep (hbin : '/' ∉ c.binaryName.toList) (v : Version) (data : Bytes)
    (suffix : FileTree → String) (portion : Nat) (hsuffix : IsSuffix (suffix t))
    (h : s.Ready c d t) :
    StoreMove c v data d portion s t ((c.storeStep v data suffix portion s).run t).result
      ((c.storeStep v data suffix portion s).run t).tree := by
  cases s with
  | ensureDir =>
    simp only [storeStep, Act.run_bind, run_ensureDir hdir]
    exact .ensured
  | check =>
    simp only [storeStep, Act.run_bind, Act.look]
    by_cases hexists : t.exists? (c.pathFor v) = true
    · rw [if_pos hexists]
      exact .found hexists
    · rw [if_neg hexists]
      exact .missing (by simpa using hexists)
  | createTemporary =>
    simp only [storeStep, Act.run_bind, Act.look, Act.change]
    cases hnew : t.createNew (c.temporaryPath (suffix t)) temporaryMode with
    | error e => exact .notCreated
    | ok t₁ =>
      obtain ⟨m, hadd, htemp⟩ := createNew_temporaryPath hdir hsuffix hnew
      exact .created hadd htemp
  | write p left =>
    cases left with
    | nil => exact .written
    | cons b left =>
      obtain ⟨m, mode, content, htemp⟩ := h p rfl
      have hfind := htemp.find hdir
      simp only [storeStep, Act.run_bind, Act.change, append, modifyFile, hfind]
      exact .wrote htemp (by simp)
  | makeExecutable p =>
    obtain ⟨m, mode, content, htemp⟩ := h p rfl
    have hfind := htemp.find hdir
    simp only [storeStep, Act.run_bind, Act.change, setMode, modifyFile, hfind]
    exact .madeExecutable htemp
  | rename p =>
    obtain ⟨m, mode, content, htemp⟩ := h p rfl
    rcases renameNew_pathFor (v := v) hdir hbin htemp with
      ⟨n, t₁, hn, hfree, hadd, hrename⟩ | ⟨n, node, hn, hat, hrename⟩ | ⟨e, he, hrename⟩
    · simp only [storeStep, Act.run_bind, Act.change, hrename]
      exact .renamed htemp hn hfree hadd
    · simp only [storeStep, Act.run_bind, Act.change, hrename]
      exact .taken hn hat
    · simp only [storeStep, Act.run_bind, Act.change, hrename]
      exact .notRenamed
  | discard p r =>
    obtain ⟨m, mode, content, htemp⟩ := h p rfl
    have hremove : t.removeFile p = .ok (t.erase (m :: d)) := by rw [removeFile, htemp.walk]
    simp only [storeStep, Act.run_bind, Act.run_discard, Act.change, hremove]
    exact .discarded htemp
  | done r => exact .done

end Cache

/-! ## What a move changes -/

namespace StoreMove

variable (hdir : t.find c.dir = .ok (d, .dir))
include hdir

theorem keeps (h : StoreMove c v data d portion s t s' t') : t.Keeps t' := by
  cases h with
  | created hadd => exact (extends_of_add? hadd).keeps
  | wrote | madeExecutable => exact keeps_modify ..
  | renamed htemp _ _ hadd =>
    exact (keeps_erase (htemp.at? hdir)).trans (extends_of_add? hadd).keeps
  | discarded htemp => exact keeps_erase (htemp.at? hdir)
  | ensured | found | missing | notCreated | written | taken | notRenamed | done =>
    exact (Extends.refl t).keeps

/-- Whatever is in the tree stays as it is, but for the temporary file of the stage. -/
theorem at?_old (h : StoreMove c v data d portion s t s' t') {q : Place} {node : Node}
    (hq : t.at? q = some node) : t'.at? q = some node ∨
      ∃ m : Name, q = m :: d ∧ s.temporary? = some (c.dir.join ⟨m.bytes⟩) := by
  cases h with
  | created hadd => exact Or.inl ((extends_of_add? hadd).at? q node hq)
  | @wrote _ _ m _ _ _ htemp | @madeExecutable _ _ m _ _ htemp =>
    by_cases hqm : q = m :: d
    · exact Or.inr ⟨m, hqm, by rw [← htemp.path]; rfl⟩
    · exact Or.inl (by rw [at?_modify, if_neg hqm, hq])
  | @renamed _ _ _ m _ _ n htemp _ _ hadd =>
    by_cases hqm : q = m :: d
    · exact Or.inr ⟨m, hqm, by rw [← htemp.path]; rfl⟩
    · refine Or.inl ((extends_of_add? hadd).at? q node ?_)
      rw [at?_erase_of_not_dir (by simp [htemp.at? hdir]), if_neg hqm, hq]
  | @discarded _ _ _ m _ _ htemp =>
    by_cases hqm : q = m :: d
    · exact Or.inr ⟨m, hqm, by rw [← htemp.path]; rfl⟩
    · refine Or.inl ?_
      rw [at?_erase_of_not_dir (by simp [htemp.at? hdir]), if_neg hqm, hq]
  | ensured | found | missing | notCreated | written | taken | notRenamed | done => exact Or.inl hq

/-- Whatever is new in the tree is a temporary file, or the server that the temporary file was
renamed to. -/
theorem at?_new (h : StoreMove c v data d portion s t s' t') {q : Place} {node : Node}
    (hq : t'.at? q = some node) : t.at? q = some node ∨
      (∃ m : Name, q = m :: d ∧ c.versionOf? m.bytes = none) ∨
      ∃ n p m mode content, q = n :: d ∧ n.bytes = Utf8.encode (c.fileName v) ∧ s = .rename p ∧
        Temporary c d t p m mode content ∧ node = .file mode content := by
  cases h with
  | @created _ _ _ m hadd htemp =>
    rw [at?_add? hadd] at hq
    split at hq
    case isTrue hqm => exact Or.inr (Or.inl ⟨m, hqm, htemp.hidden⟩)
    case isFalse => exact Or.inl hq
  | @wrote _ _ m _ _ _ htemp | @madeExecutable _ _ m _ _ htemp =>
    rw [at?_modify] at hq
    split at hq
    case isTrue hqm => exact Or.inr (Or.inl ⟨m, hqm, htemp.hidden⟩)
    case isFalse => exact Or.inl hq
  | @renamed _ _ p m mode content n htemp hn _ hadd =>
    rw [at?_add? hadd] at hq
    split at hq
    case isTrue hqn =>
      exact Or.inr (Or.inr ⟨n, p, m, mode, content, hqn, hn, rfl, htemp,
        (Option.some.inj hq).symm⟩)
    case isFalse =>
      rw [at?_erase_of_not_dir (by simp [htemp.at? hdir])] at hq
      split at hq
      case isTrue => simp at hq
      case isFalse => exact Or.inl hq
  | @discarded _ _ _ m _ _ htemp =>
    rw [at?_erase_of_not_dir (by simp [htemp.at? hdir])] at hq
    split at hq
    case isTrue => simp at hq
    case isFalse => exact Or.inl hq
  | ensured | found | missing | notCreated | written | taken | notRenamed | done => exact Or.inl hq

omit hdir in
/-- A temporary file that the stage did not have is new. -/
theorem temporary?_new (h : StoreMove c v data d portion s t s' t') (hp : s'.temporary? = some p) :
    s.temporary? = some p ∨ ∃ m : Name, p = c.dir.join ⟨m.bytes⟩ ∧ t.at? (m :: d) = none := by
  cases h with
  | created hadd htemp =>
    obtain rfl := Option.some.inj hp
    exact Or.inr ⟨_, htemp.path, (add?_eq_some_iff.mp hadd).1.2⟩
  | written | wrote | madeExecutable | taken | notRenamed => exact Or.inl hp
  | ensured | found | missing | notCreated | renamed | discarded | done =>
    simp [StoreStage.temporary?] at hp

end StoreMove

end ServerLauncher
