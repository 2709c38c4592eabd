import ServerLauncher.Proofs.Table

/-!
# Caches in one directory

Caches of different programs can share a directory. A file name belongs to one of them at most
(`Cache.binaryName_of_versionOf?`) : the tag behind the name of the program has two points in it, so
the point in front of the tag is the third from the end, whatever points the name of the program
has. So in a directory without links (`FileTree.IsLinkFree`) what is stored through one cache makes
no difference for the others, and no store is answered with what was stored through another
(`Cache.neighbours_apart`).
-/

namespace ServerLauncher

open FileTree

namespace Cache

/-! ## Names -/

/-- A file name is that of a server of one program only. -/
theorem binaryName_of_versionOf? {c c' : Cache} {bs : Bytes} {v w : Version}
    (h : c.versionOf? bs = some v) (h' : c'.versionOf? bs = some w) :
    c.binaryName = c'.binaryName := by
  obtain ⟨text, rfl, hv⟩ := versionOf?_eq_some_iff.mp h
  obtain ⟨text', hbytes, hw⟩ := versionOf?_eq_some_iff.mp h'
  have hcut : c.binaryName.toList ++ '.' :: text.toList =
      c'.binaryName.toList ++ '.' :: text'.toList := by
    simpa [String.toList_append] using congrArg String.toList (Utf8.encode_inj.mp hbytes)
  have hcount : text.toList.count '.' = text'.toList.count '.' := by
    rw [Version.count_dot_of_parse? hv, Version.count_dot_of_parse? hw]
  exact String.toList_inj.mp (append_cons_inj_of_count hcut hcount).1

end Cache

/-! ## Directories without links -/

/-- The path leads to the directory at `d`, and no entry of it is a link. -/
structure FileTree.IsLinkFree (t : FileTree) (p : Path) (d : Place) : Prop where
  find : t.find p = .ok (d, .dir)
  noLink : ∀ n target, t.at? (n :: d) ≠ some (.link target)

namespace Cache

/-- Another cache in the same directory : its program has another name, without a slash in it. -/
structure Neighbour (c c' : Cache) : Prop where
  dir : c'.dir = c.dir
  binaryName_ne : c'.binaryName ≠ c.binaryName
  slash_not_mem : '/' ∉ c'.binaryName.toList

/-- The tree after calls of several caches, one after the other. -/
def afterAll (t : FileTree) (calls : List (Cache × Call)) : FileTree :=
  calls.foldl (fun t x => (x.1.call t x.2).2) t

variable {c c' : Cache} {t u : FileTree} {d : Place} {v w : Version} {data : Bytes} {call : Call}
  {calls : List (Cache × Call)}

/-! ## One call -/

/-- In a directory that is there, a call leaves the tree alone, or it puts a file there that is
named like a server. -/
theorem tree_call (hdir : t.find c.dir = .ok (d, .dir)) (hbin : '/' ∉ c.binaryName.toList)
    (call : Call) : (c.call t call).2 = t ∨ ∃ v data n, call = .store v data ∧
      n.bytes = Utf8.encode (c.fileName v) ∧
      t.add? d n (.file serverMode data) = some (c.call t call).2 := by
  have hlist := (list_of_find hdir).2
  cases call with
  | list => exact Or.inl hlist
  | latest => exact Or.inl ((Resolver.latest_of_list c t).2.trans hlist)
  | pathFor v => exact Or.inl rfl
  | store v data =>
    have hstored := stored_store hdir hbin v data
    simp only [Cache.call]
    generalize (c.store v data).run t = o at hstored ⊢
    obtain ⟨r, t', es⟩ := o
    cases hstored with
    | present | blocked | failed => exact Or.inl rfl
    | new hn _ hadd => exact Or.inr ⟨v, data, _, rfl, hn, hadd⟩

/-- A call leaves the directory without links. -/
theorem isLinkFree_call (h : t.IsLinkFree c.dir d) (hbin : '/' ∉ c.binaryName.toList)
    (call : Call) : (c.call t call).2.IsLinkFree c.dir d := by
  rcases tree_call h.find hbin call with hsame | ⟨v, data, n, -, -, hadd⟩
  · rwa [hsame]
  · refine ⟨find_dir_of_keeps h.find (extends_of_add? hadd).keeps, fun m target => ?_⟩
    rw [at?_add? hadd]
    split
    case isTrue => simp
    case isFalse => exact h.noLink m target

/-- A call of a neighbour shows nowhere in the listing. -/
theorem serversIn_call (h : t.IsLinkFree c.dir d) (hnext : c.Neighbour c') (call : Call) :
    c.serversIn (c'.call t call).2 d = c.serversIn t d := by
  have hfree := isLinkFree_call (hnext.dir ▸ h) hnext.slash_not_mem call
  rcases tree_call (hnext.dir ▸ h.find) hnext.slash_not_mem call with
    hsame | ⟨v, data, n, -, hn, hadd⟩
  · rw [hsame]
  · have hother : c.versionOf? n.bytes = none := by
      by_contra hne
      obtain ⟨w, hw⟩ := Option.ne_none_iff_exists'.mp hne
      exact hnext.binaryName_ne (binaryName_of_versionOf? (hn ▸ c'.versionOf?_fileName v) hw)
    rw [serversIn, serversIn, names_add? hadd, List.filterMap_append,
      List.filterMap_cons_none (by rw [serverAt?, hother]), List.filterMap_nil, List.append_nil]
    refine List.filterMap_congr fun m hm => ?_
    obtain ⟨node, hat⟩ := (mem_names m d).mp hm
    have hfile : (c'.call t call).2.isFile (c.dir.join ⟨m.bytes⟩) =
        t.isFile (c.dir.join ⟨m.bytes⟩) := by
      rw [isFile, isFile, find_join_congr h.find (hnext.dir ▸ hfree.find) (h.noLink m)
        (by rw [(extends_of_add? hadd).at? _ _ hat, hat])]
    simp only [serverAt?, hfile]

/-! ## Runs of calls -/

theorem isLinkFree_afterAll (hcalls : ∀ x ∈ calls, x.1.dir = c.dir ∧ '/' ∉ x.1.binaryName.toList) :
    ∀ {t : FileTree}, t.IsLinkFree c.dir d → (afterAll t calls).IsLinkFree c.dir d := by
  induction calls with
  | nil => exact fun h => h
  | cons x calls ih =>
    intro t h
    obtain ⟨⟨hdir, hbin⟩, hcalls⟩ := List.forall_mem_cons.mp hcalls
    exact ih hcalls (hdir ▸ isLinkFree_call (hdir ▸ h) hbin x.2)

/-- Calls of neighbours show nowhere in the listing. -/
theorem serversIn_afterAll (hcalls : ∀ x ∈ calls, c.Neighbour x.1) :
    ∀ {t : FileTree}, t.IsLinkFree c.dir d →
      c.serversIn (afterAll t calls) d = c.serversIn t d := by
  induction calls with
  | nil => exact fun _ => rfl
  | cons x calls ih =>
    intro t h
    obtain ⟨hnext, hcalls⟩ := List.forall_mem_cons.mp hcalls
    have hfree := isLinkFree_call (hnext.dir ▸ h) hnext.slash_not_mem x.2
    exact (ih hcalls (hnext.dir ▸ hfree)).trans (serversIn_call h hnext x.2)

/-! ## What a store is answered with -/

/-- In a directory without links, the path of a server leads to the entry that is named like it. -/
theorem name_of_find_pathFor (h : t.IsLinkFree c.dir d) (hbin : '/' ∉ c.binaryName.toList)
    {place : Place} {node : Node} (hfind : t.find (c.pathFor v) = .ok (place, node)) :
    ∃ n : Name, place = n :: d ∧ n.bytes = Utf8.encode (c.fileName v) := by
  obtain ⟨q, node', hq⟩ := exists_taken_of_find hfind
  obtain ⟨n, hn, hlook⟩ := lookUp_of_walk_pathFor h.find hbin hq
  have hpath : c.pathFor v = c.dir.join ⟨n.bytes⟩ := by rw [hn]; rfl
  rw [find_eq_ok_iff, hpath, walk_true_join h.find (h.noLink n), ← hpath, hq] at hfind
  obtain ⟨rfl, -⟩ := Spot.taken.inj (Except.ok.inj hfind)
  exact ⟨n, (lookUp_eq_taken_iff.mp hlook).2.1, hn⟩

/-- A file that a store has put into the tree lies in the directory, under the server's name. -/
theorem name_of_stored (hfree : (c.ensureDir.run t).tree.IsLinkFree c.dir d)
    (hbin : '/' ∉ c.binaryName.toList) {place : Place} {mode : Nat} {content : Bytes}
    (hnone : t.at? place = none)
    (hsome : ((c.store v data).run t).tree.at? place = some (.file mode content)) :
    ∃ n : Name, place = n :: d ∧ n.bytes = Utf8.encode (c.fileName v) := by
  have hmade : (c.ensureDir.run t).tree.at? place ≠ some (.file mode content) := by
    intro hfile
    rw [(c.addsDirs_ensureDir t).at?_file hfile] at hnone
    cases hnone
  cases hens : (c.ensureDir.run t).result with
  | error e =>
    rw [(store_of_error v data hens).2] at hsome
    exact absurd hsome hmade
  | ok =>
    rw [(store_of_ensureDir hens).2] at hsome
    rcases tree_call hfree.find hbin (.store v data) with hsame | ⟨v', data', n, hcall, hn, hadd⟩
    · simp only [call] at hsame
      rw [hsame] at hsome
      exact absurd hsome hmade
    · obtain ⟨rfl, -⟩ := Call.store.inj hcall
      simp only [call] at hadd
      rw [at?_add? hadd] at hsome
      split at hsome
      case isTrue hplace => exact ⟨n, hplace, hn⟩
      case isFalse => exact absurd hsome hmade

theorem isLinkFree_ensureDir (h : t.IsLinkFree c.dir d) :
    (c.ensureDir.run t).tree.IsLinkFree c.dir d := by
  rwa [run_ensureDir h.find]

theorem isLinkFree_store (hfree : (c.ensureDir.run t).tree.IsLinkFree c.dir d)
    (hbin : '/' ∉ c.binaryName.toList) (v : Version) (data : Bytes) :
    ((c.store v data).run t).tree.IsLinkFree c.dir d := by
  cases hens : (c.ensureDir.run t).result with
  | error e => rwa [(store_of_error v data hens).2]
  | ok =>
    rw [(store_of_ensureDir hens).2]
    exact isLinkFree_call hfree hbin (.store v data)

/-- A file that was stored through one cache is not what a store through a neighbour is answered
with later. -/
theorem find_ne_of_stored (hnext : c.Neighbour c') (hbin : '/' ∉ c.binaryName.toList)
    (hfree : (c'.ensureDir.run t).tree.IsLinkFree c'.dir d)
    (hcalls : ∀ x ∈ calls, x.1.dir = c.dir ∧ '/' ∉ x.1.binaryName.toList) {p : Path}
    {data' : Bytes} {place : Place} {mode : Nat} {content : Bytes} (node : Node)
    (hstore : ((c.store v data').run (afterAll ((c'.store w data).run t).tree calls)).result =
      .ok p) (hnone : t.at? place = none)
    (hsome : ((c'.store w data).run t).tree.at? place = some (.file mode content)) :
    ((c.store v data').run (afterAll ((c'.store w data).run t).tree calls)).tree.find p ≠
      .ok (place, node) := by
  intro hfind
  obtain rfl := path_of_store hstore
  obtain ⟨n, hplace, hn⟩ := name_of_stored hfree hnext.slash_not_mem hnone hsome
  have hafter := isLinkFree_afterAll hcalls
    (hnext.dir ▸ isLinkFree_store hfree hnext.slash_not_mem w data)
  obtain ⟨m, hplace', hm⟩ :=
    name_of_find_pathFor (isLinkFree_call hafter hbin (.store v data')) hbin hfind
  obtain ⟨rfl, -⟩ := List.cons.inj (hplace.symm.trans hplace')
  exact hnext.binaryName_ne (binaryName_of_versionOf? (hn ▸ c'.versionOf?_fileName w)
    (hm ▸ c.versionOf?_fileName v))

/-- A file name is that of a server of one program only. So in a directory without links, whatever
is called through other caches of the directory, a cache lists the same servers, with the same one
the newest. And a file that is stored through one cache, also where that has to make the directory,
is never what a store through another is answered with, whatever is called in between. -/
theorem neighbours_apart :
    (∀ (c c' : Cache) (bs : Bytes), c.binaryName ≠ c'.binaryName →
      c.versionOf? bs = none ∨ c'.versionOf? bs = none) ∧
    (∀ (c : Cache) (t : FileTree) (d : Place) (calls : List (Cache × Call)),
      t.IsLinkFree c.dir d → (∀ x ∈ calls, c.Neighbour x.1) →
        (c.list.run (afterAll t calls)).result = (c.list.run t).result ∧
          (c.latest.run (afterAll t calls)).result = (c.latest.run t).result) ∧
    ∀ (c c' : Cache) (t : FileTree) (d : Place) (w : Version) (data : Bytes)
      (calls : List (Cache × Call)) (v : Version) (data' : Bytes) (p : Path),
      c.Neighbour c' → '/' ∉ c.binaryName.toList →
      (c'.ensureDir.run t).tree.IsLinkFree c'.dir d →
      (∀ x ∈ calls, x.1.dir = c.dir ∧ '/' ∉ x.1.binaryName.toList) →
      let u := ((c'.store w data).run t).tree
      let o := (c.store v data').run (afterAll u calls)
      o.result = .ok p → ∀ place mode content, t.at? place = none →
        u.at? place = some (.file mode content) → ∀ node, o.tree.find p ≠ .ok (place, node) := by
  refine ⟨fun c c' bs hne => ?_, fun c t d calls hfree hcalls => ?_, ?_⟩
  · by_contra hboth
    rw [not_or] at hboth
    obtain ⟨v, hv⟩ := Option.ne_none_iff_exists'.mp hboth.1
    obtain ⟨w, hw⟩ := Option.ne_none_iff_exists'.mp hboth.2
    exact hne (binaryName_of_versionOf? hv hw)
  · have hafter := isLinkFree_afterAll
      (fun x hx => ⟨(hcalls x hx).dir, (hcalls x hx).slash_not_mem⟩) hfree
    have hlist : (c.list.run (afterAll t calls)).result = (c.list.run t).result := by
      rw [(list_of_find hafter.find).1, (list_of_find hfree.find).1,
        serversIn_afterAll hcalls hfree]
    refine ⟨hlist, ?_⟩
    rw [(Resolver.latest_of_list c _).1, (Resolver.latest_of_list c _).1, hlist]
  · intro c c' t d w data calls v data' p hnext hbin hfree hcalls u o hstore place mode content
      hnone hsome node
    exact find_ne_of_stored hnext hbin hfree hcalls node hstore hnone hsome

/-- The cache of a program that is called like a server of `sample`. -/
def lookalike : Cache :=
  ⟨.ofString "bin", "server.v1.0.0"⟩

/-- The name of a server of `lookalike`. -/
def lookalikeName : Name :=
  ⟨Utf8.encode "server.v1.0.0.v2.0.0", by decide⟩

/-- What is stored for the program called `server.v1.0.0` is not listed for `server`, though it
begins like the server that is there, and a store for `server` is not answered with it. -/
theorem neighbours_sample :
    sample.Neighbour lookalike ∧ (sampleTree [7]).IsLinkFree sample.dir samplePlace ∧
      sample.versionOf? lookalikeName.bytes = none ∧
      (sample.list.run (afterAll (sampleTree [7]) [(lookalike, .store ⟨2, 0, 0⟩ [8])])).result =
        .ok [⟨⟨1, 0, 0⟩, .ofString "bin/server.v1.0.0"⟩] ∧
      ((lookalike.store ⟨2, 0, 0⟩ [8]).run (sampleTree [7])).tree.at?
        (lookalikeName :: samplePlace) = some (.file serverMode [8]) ∧
      ∀ node, ((sample.store ⟨2, 0, 0⟩ [9]).run (afterAll
          ((lookalike.store ⟨2, 0, 0⟩ [8]).run (sampleTree [7])).tree [(sample, .list)])).tree.find
            (.ofString "bin/server.v2.0.0") ≠ .ok (lookalikeName :: samplePlace, node) := by
  have hnext : sample.Neighbour lookalike := ⟨rfl, by decide, by decide⟩
  have hfind : (sampleTree [7]).find lookalike.dir = .ok (samplePlace, .dir) := by decide +kernel
  have hfree : (sampleTree [7]).IsLinkFree sample.dir samplePlace := by
    refine ⟨by decide +kernel, fun n target hat => ?_⟩
    have hall : ∀ e ∈ (sampleTree [7]).entries, e.node = .dir ∨ e.node = .file serverMode [7] := by
      decide +kernel
    rcases hall _ ((mem_entries_iff n samplePlace _).mpr hat) with h | h <;> cases h
  have hmade : (lookalike.ensureDir.run (sampleTree [7])).tree.IsLinkFree lookalike.dir
      samplePlace :=
    isLinkFree_ensureDir ⟨hfind, hfree.noLink⟩
  have hfirst : (sampleTree [7]).at? (lookalikeName :: samplePlace) = none := by decide +kernel
  have hstored : ((lookalike.store ⟨2, 0, 0⟩ [8]).run (sampleTree [7])).tree.at?
      (lookalikeName :: samplePlace) = some (.file serverMode [8]) := by
    decide +kernel
  have hstore : ((sample.store ⟨2, 0, 0⟩ [9]).run (afterAll
      ((lookalike.store ⟨2, 0, 0⟩ [8]).run (sampleTree [7])).tree [(sample, .list)])).result =
        .ok (.ofString "bin/server.v2.0.0") := by
    decide +kernel
  have hlist : (sample.list.run (sampleTree [7])).result =
      .ok [⟨⟨1, 0, 0⟩, .ofString "bin/server.v1.0.0"⟩] := by
    decide +kernel
  have hread : lookalike.versionOf? lookalikeName.bytes ≠ none := by decide +kernel
  have hcalls : ∀ x ∈ [(sample, Call.list)],
      x.1.dir = sample.dir ∧ '/' ∉ x.1.binaryName.toList := by
    simp only [List.forall_mem_singleton]
    decide
  obtain ⟨hnames, hlists, hanswers⟩ := neighbours_apart
  have hnone := (hnames sample lookalike lookalikeName.bytes (by decide)).resolve_right hread
  obtain ⟨hsame, -⟩ := hlists sample _ _ [(lookalike, .store ⟨2, 0, 0⟩ [8])] hfree
    (by simpa using hnext)
  exact ⟨hnext, hfree, hnone, hsame.trans hlist, hstored,
    hanswers sample lookalike (sampleTree [7]) samplePlace ⟨2, 0, 0⟩ [8] [(sample, .list)]
      ⟨2, 0, 0⟩ [9] (.ofString "bin/server.v2.0.0") hnext (by decide) hmade hcalls hstore
      (lookalikeName :: samplePlace) serverMode [8] hfirst hstored⟩

end Cache

end ServerLauncher
