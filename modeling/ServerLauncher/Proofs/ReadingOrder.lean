import ServerLauncher.Proofs.Refresh

/-!
# The order in which a directory is read

The entries of a directory are read in no particular order. Two trees that differ in the order of
their entries (`FileTree.Reordered`) are walked alike, and the same directories can be made in them
(`FileTree.Reordered.createDirs`). So a listing shows the same servers in some order, and the newest
one has the same version. `Cache.listing_exact` says this and which servers are shown at all.
-/

namespace ServerLauncher

open FileTree

/-! ## Trees read in another order -/

/-- The other tree has the same entries in some order. -/
structure FileTree.Reordered (t t' : FileTree) : Prop where
  workDir : t'.workDir = t.workDir
  entries : t.entries.Perm t'.entries

/-- A change that is tried in both trees fails in both for one reason, or happens in both. -/
inductive FileTree.SameOutcome : Except SystemError FileTree → Except SystemError FileTree → Prop
  | done {u u'} (h : u.Reordered u') : SameOutcome (.ok u) (.ok u')
  | failed {e} : SameOutcome (.error e) (.error e)

namespace FileTree

variable {t t' u u' : FileTree} {p : Path} {d : Place} {n : Name} {node : Node}
  {followLast : Bool}

/-- A walk only looks at what lies where. -/
theorem walkSteps_congr (hat : ∀ q, t'.at? q = t.at? q)
    (onLink : Place → List PathStep → Except SystemError Spot) (ss : List PathStep) :
    ∀ d, t'.walkSteps followLast onLink d ss = t.walkSteps followLast onLink d ss := by
  induction ss with
  | nil => intro d; rfl
  | cons s ss ih =>
    intro d
    cases s with
    | stay => exact ih d
    | up => exact ih d.tail
    | down n => simp only [walkSteps, hat, ih]

theorem walkLinks_congr (hat : ∀ q, t'.at? q = t.at? q) (k : Nat) :
    t'.walkLinks followLast k = t.walkLinks followLast k := by
  induction k with
  | zero => funext d ss; exact walkSteps_congr hat _ ss d
  | succ k ih =>
    funext d ss
    rw [walkLinks, walkLinks, ih]
    exact walkSteps_congr hat _ ss d

namespace Reordered

theorem at? (h : t.Reordered t') (q : Place) : t'.at? q = t.at? q := by
  cases q with
  | nil => rfl
  | cons n d =>
    refine at?_eq_iff_of_entries fun node => ?_
    rw [← h.entries.mem_iff, mem_entries_iff]

theorem walk (h : t.Reordered t') (p : Path) : t'.walk followLast p = t.walk followLast p := by
  rw [FileTree.walk, FileTree.walk, h.workDir, walkLinks_congr h.at?]

theorem find (h : t.Reordered t') (p : Path) : t'.find p = t.find p := by
  rw [FileTree.find, FileTree.find, h.walk]

theorem isDir (h : t.Reordered t') (p : Path) : t'.isDir p = t.isDir p := by
  rw [FileTree.isDir, FileTree.isDir, h.find]

theorem isFile (h : t.Reordered t') (p : Path) : t'.isFile p = t.isFile p := by
  rw [FileTree.isFile, FileTree.isFile, h.find]

theorem names (h : t.Reordered t') (d : Place) : (t.names d).Perm (t'.names d) :=
  (h.entries.filter _).map _

/-! ## Making directories -/

theorem add? (h : t.Reordered t') (d : Place) (n : Name) (node : Node) :
    SameOutcome (orNotFound (t.add? d n node)) (orNotFound (t'.add? d n node)) := by
  cases hadd : t.add? d n node with
  | some u =>
    obtain ⟨⟨hdir, hfree⟩, hentries, hw⟩ := add?_eq_some_iff.mp hadd
    cases hadd' : t'.add? d n node with
    | some u' =>
      obtain ⟨-, hentries', hw'⟩ := add?_eq_some_iff.mp hadd'
      refine .done ⟨by rw [hw', hw, h.workDir], ?_⟩
      rw [hentries, hentries']
      exact h.entries.append_right _
    | none =>
      rw [FileTree.add?, dif_pos ⟨by rw [h.at?, hdir], by rw [h.at?, hfree]⟩] at hadd'
      cases hadd'
  | none =>
    cases hadd' : t'.add? d n node with
    | some u' =>
      obtain ⟨⟨hdir, hfree⟩, -⟩ := add?_eq_some_iff.mp hadd'
      rw [FileTree.add?, dif_pos ⟨by rw [← h.at?, hdir], by rw [← h.at?, hfree]⟩] at hadd
      cases hadd
    | none => exact .failed

theorem makeDir (h : t.Reordered t') (p : Path) : SameOutcome (t.makeDir p) (t'.makeDir p) := by
  rw [FileTree.makeDir, FileTree.makeDir, h.walk]
  split
  case h_1 => exact .failed
  case h_2 => exact .failed
  case h_3 => exact .failed
  case h_4 d n _ _ => exact h.add? d n .dir

/-- The outcomes of making directories : what was made is the same, and so is whether all of it
was. -/
def SameMade (r r' : FileTree × Except SystemError Unit) : Prop :=
  r.1.Reordered r'.1 ∧ r'.2 = r.2

/-- Where a directory cannot be made, it is there or not in both trees. -/
theorem sameMade_of_failed (h : t.Reordered t') (p : Path) (e : SystemError) :
    SameMade (if t.isDir p then (t, .ok ()) else (t, .error e))
      (if t'.isDir p then (t', .ok ()) else (t', .error e)) := by
  rw [h.isDir]
  split <;> exact ⟨h, rfl⟩

theorem makeDirWith {parent : FileTree → FileTree × Except SystemError Unit}
    (hparent : ∀ {t t'}, t.Reordered t' → SameMade (parent t) (parent t'))
    (h : t.Reordered t') (p : Path) :
    SameMade (t.makeDirWith parent p) (t'.makeDirWith parent p) := by
  have hmake := h.makeDir p
  obtain ⟨hw, hresult⟩ := hparent h
  have hagain := hw.makeDir p
  unfold FileTree.makeDirWith
  generalize t.makeDir p = x, t'.makeDir p = x' at hmake ⊢
  cases hmake with
  | done hu => exact ⟨hu, rfl⟩
  | @failed e =>
    by_cases hmissing : e = .notFound
    · subst hmissing
      generalize parent t = r, parent t' = r' at hw hresult hagain ⊢
      obtain ⟨w, result⟩ := r
      obtain ⟨w', result'⟩ := r'
      obtain rfl : result' = result := hresult
      cases result' with
      | error e => exact ⟨hw, rfl⟩
      | ok =>
        simp only at hagain hw ⊢
        generalize w.makeDir p = y, w'.makeDir p = y' at hagain ⊢
        cases hagain with
        | done hu => exact ⟨hu, rfl⟩
        | @failed e => exact sameMade_of_failed hw p e
    · have hfailed := sameMade_of_failed h p e
      cases e with
      | notFound => exact absurd rfl hmissing
      | _ => exact hfailed

theorem createDirsOf (absolute : Bool) (cs : List Bytes) : ∀ {t t' : FileTree}, t.Reordered t' →
    SameMade (FileTree.createDirsOf absolute cs t) (FileTree.createDirsOf absolute cs t') := by
  induction cs with
  | nil => exact fun h => ⟨h, rfl⟩
  | cons c cs ih => exact fun h => makeDirWith ih h _

theorem createDirs (h : t.Reordered t') (p : Path) :
    SameMade (t.createDirs p) (t'.createDirs p) := by
  unfold FileTree.createDirs
  split
  case isTrue => exact ⟨h, rfl⟩
  case isFalse => exact makeDirWith (createDirsOf _ _) h p

end Reordered

end FileTree

/-! ## Listings -/

namespace Cache

variable {c : Cache} {t t' : FileTree} {ss ss' : List CachedServer}

/-- Of the same servers in another order, the newest have one version. -/
theorem newest?_of_perm (h : ss.Perm ss') :
    (newest? ss).map CachedServer.version = (newest? ss').map CachedServer.version := by
  cases hs : newest? ss with
  | none =>
    obtain rfl := (Version.newestBy?_eq_none_iff _ ss).mp hs
    rw [List.nil_perm.mp h]
    rfl
  | some s =>
    obtain ⟨hmem, hmax⟩ := Version.newestBy?_spec hs
    cases hs' : newest? ss' with
    | none =>
      obtain rfl := (Version.newestBy?_eq_none_iff _ ss').mp hs'
      simp [List.perm_nil.mp h] at hmem
    | some s' =>
      obtain ⟨hmem', hmax'⟩ := Version.newestBy?_spec hs'
      have hversion := Version.eq_of_not_olderThan (hmax s' (h.mem_iff.mpr hmem'))
        (hmax' s (h.mem_iff.mp hmem))
      simp [hversion]

theorem serversIn_reordered (h : t.Reordered t') (d : Place) :
    (c.serversIn t d).Perm (c.serversIn t' d) := by
  have hat : c.serverAt? t' = c.serverAt? t := by
    funext n
    unfold serverAt?
    simp only [h.isFile]
  rw [serversIn, serversIn, hat]
  exact (h.names d).filterMap _

theorem list_reordered (h : t.Reordered t') (hlist : (c.list.run t).result = .ok ss) :
    ∃ ss', (c.list.run t').result = .ok ss' ∧ ss.Perm ss' ∧
      (c.list.run t).tree.Reordered (c.list.run t').tree := by
  obtain ⟨hens, d, hfind, rfl⟩ := result_list_eq_ok_iff.mp hlist
  obtain ⟨htree, hresult⟩ := h.createDirs c.dir
  rw [← tree_ensureDir, ← tree_ensureDir, ← tree_list, ← tree_list] at htree
  rw [result_ensureDir_eq_ok_iff, ← hresult, ← result_ensureDir_eq_ok_iff] at hens
  exact ⟨_, result_list_eq_ok_iff.mpr ⟨hens, d, by rw [htree.find, hfind], rfl⟩,
    serversIn_reordered htree d, htree⟩

/-- A listing that succeeds shows the entries of the directory whose names are the name of the
program, a point and a tag, and whose paths lead to a regular file, each of them once and with the
version of its tag, and nothing else. It makes the directory if that is missing, and changes nothing
else. The newest server is one that is listed and that no other is newer than, and there is none
exactly if none is listed. In whatever order the entries are read, the same servers are listed, and
the newest one has the same version. -/
theorem listing_exact (h : (c.list.run t).result = .ok ss) :
    let u := (c.list.run t).tree
    (∃ d, u.find c.dir = .ok (d, .dir) ∧ (ss.map CachedServer.path).Nodup ∧
      ∀ s, s ∈ ss ↔ ∃ n ∈ u.names d, ∃ text,
        n.bytes = Utf8.encode (c.binaryName ++ "." ++ text) ∧
        Version.parse? text = some s.version ∧ s.path = c.dir.join ⟨n.bytes⟩ ∧
        u.isFile s.path = true) ∧
    (t.AddsDirs c.dir.IsAbove u ∧ (t.isDir c.dir = true → u = t)) ∧
    (∃ newest, (c.latest.run t).result = .ok newest ∧ (newest = none ↔ ss = []) ∧
      ∀ s ∈ newest, s ∈ ss ∧ ∀ s' ∈ ss, ¬s.version.OlderThan s'.version) ∧
    ∀ t', t.Reordered t' → ∃ ss', (c.list.run t').result = .ok ss' ∧ ss.Perm ss' ∧
      ∃ newest newest', (c.latest.run t).result = .ok newest ∧
        (c.latest.run t').result = .ok newest' ∧
        newest.map CachedServer.version = newest'.map CachedServer.version := by
  intro u
  have hlatest : ∀ {t ss}, (c.list.run t).result = .ok ss →
      (c.latest.run t).result = .ok (newest? ss) := by
    intro t ss h
    rw [(Resolver.latest_of_list c t).1, h]
    rfl
  refine ⟨?_, ⟨c.addsDirs_list t, ?_⟩, ⟨newest? ss, hlatest h, ?_, ?_⟩, ?_⟩
  · obtain ⟨-, d, hfind, rfl⟩ := result_list_eq_ok_iff.mp h
    refine ⟨d, hfind, c.nodup_serversIn u d, fun s => ?_⟩
    simp only [mem_serversIn_iff, versionOf?_eq_some_iff, ← exists_and_right, and_assoc]
    rfl
  · intro hdir
    obtain ⟨d, hfind⟩ := exists_find_of_isDir hdir
    exact (list_of_find hfind).2
  · exact Version.newestBy?_eq_none_iff _ ss
  · intro s hs
    exact Version.newestBy?_spec hs
  · intro t' hreordered
    obtain ⟨ss', hlist', hperm, -⟩ := list_reordered hreordered h
    exact ⟨ss', hlist', hperm, _, _, hlatest h, hlatest hlist', newest?_of_perm hperm⟩

/-- A directory with all kinds of entries : a server, a link to it, one that leads nowhere, a
directory with the name of a server, and a server of another program. -/
def mixedTree : FileTree :=
  FileTree.empty.editEach [
    .file (.ofString "bin/server.v01.0.0") [1] serverMode,
    .link (.ofString "bin/server.v2.0.0") (.ofString "server.v01.0.0"),
    .link (.ofString "bin/server.v3.0.0") (.ofString "nothing"),
    .dir (.ofString "bin/server.v4.0.0"),
    .file (.ofString "bin/server.v1.2.3.v5.0.0") [2] serverMode]

/-- The server and the link to it are listed, and the newest is the link. -/
theorem listing_of_mixedTree :
    (sample.list.run mixedTree).result = .ok [⟨⟨1, 0, 0⟩, .ofString "bin/server.v01.0.0"⟩,
      ⟨⟨2, 0, 0⟩, .ofString "bin/server.v2.0.0"⟩] ∧
    (sample.list.run mixedTree).tree = mixedTree ∧
    ∃ s, (sample.latest.run mixedTree).result = .ok (some s) ∧ s.version = ⟨2, 0, 0⟩ := by
  have hlist : (sample.list.run mixedTree).result =
      .ok [⟨⟨1, 0, 0⟩, .ofString "bin/server.v01.0.0"⟩,
        ⟨⟨2, 0, 0⟩, .ofString "bin/server.v2.0.0"⟩] := by
    decide +kernel
  obtain ⟨-, ⟨-, htree⟩, ⟨newest, hnewest, hnone, hmax⟩, -⟩ := listing_exact hlist
  refine ⟨hlist, htree (by decide +kernel), ?_⟩
  cases newest with
  | none => simp at hnone
  | some s =>
    obtain ⟨hmem, hnewer⟩ := hmax s rfl
    refine ⟨s, hnewest, ?_⟩
    simp only [List.mem_cons, List.not_mem_nil, or_false] at hmem hnewer
    rcases hmem with rfl | rfl
    · exact absurd (Or.inl (by decide)) (hnewer _ (Or.inr rfl))
    · rfl

end Cache

end ServerLauncher
