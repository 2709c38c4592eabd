import ServerLauncher.Proofs.Resolving

/-!
# What is stored and what is listed

A store that gives back a path promises a server that the next listing shows (`Cache.Finds`). It
keeps that promise exactly if the cache and the tree fit the version (`Cache.Fits`) : the directory
has a name, the name of the program no slash, and what lies at the path is nothing or a file
(`Cache.finds_store_iff`). A store never looks at that : it takes a directory at the path for the
server, and a link that leads nowhere for another store that was faster.
-/

namespace ServerLauncher

open FileTree

namespace Cache

/-- The path is that of a file in the cache directory, and the listing shows it as the server of
version `v`. -/
structure Finds (c : Cache) (t : FileTree) (v : Version) (p : Path) : Prop where
  entry : ∃ d, t.find c.dir = .ok (d, .dir) ∧ ∃ n ∈ t.names d, p = c.dir.join ⟨n.bytes⟩
  file : t.isFile p = true
  listed : ∃ ss, (c.list.run t).result = .ok ss ∧ ⟨v, p⟩ ∈ ss

/-- A server of version `v` can be put into the directory and be listed there, or is there. -/
structure Fits (c : Cache) (t : FileTree) (v : Version) : Prop where
  dir : c.dir.bytes ≠ []
  binaryName : '/' ∉ c.binaryName.toList
  path : t.isFile (c.pathFor v) = true ∨ ∃ d n, t.walk false (c.pathFor v) = .ok (.free d n)

variable {c : Cache} {v : Version} {data : Bytes} {d : Place} {t t' : FileTree} {p : Path}

/-! ## What is found -/

namespace Finds

theorem slash_not_mem (h : c.Finds t v p) : '/' ∉ c.binaryName.toList := by
  obtain ⟨ss, hss, hmem⟩ := h.listed
  obtain ⟨-, d, -, rfl⟩ := result_list_eq_ok_iff.mp hss
  obtain ⟨n, -, hv, -⟩ := mem_serversIn_iff.mp hmem
  exact slash_not_mem_of_versionOf? hv

theorem dir_ne_nil (h : c.Finds t v p) : c.dir.bytes ≠ [] := by
  obtain ⟨d, hd, -⟩ := h.entry
  exact dir_ne_nil_of_find hd

end Finds

/-- In a directory that is there, a file at the path of a server is found. -/
theorem finds_of_isFile (hdir : t.find c.dir = .ok (d, .dir)) (hbin : '/' ∉ c.binaryName.toList)
    (hfile : t.isFile (c.pathFor v) = true) : c.Finds t v (c.pathFor v) := by
  obtain ⟨n, hn, node, hat⟩ := exists_at?_of_exists? hdir hbin (exists?_of_isFile hfile)
  have hmem : n ∈ t.names d := (mem_names n d).mpr ⟨node, hat⟩
  have hpath : c.pathFor v = c.dir.join ⟨n.bytes⟩ := by rw [hn]; rfl
  refine ⟨⟨d, hdir, n, hmem, hpath⟩, hfile, _, (list_of_find hdir).1, ?_⟩
  exact mem_serversIn_iff.mpr ⟨n, hmem, by rw [hn, versionOf?_fileName], hpath, hfile⟩

/-! ## What a store leaves to be found -/

theorem find_dir_of_stored {result : Except CacheError Path}
    (hdir : t.find c.dir = .ok (d, .dir)) (h : Stored c v data d t result t') :
    t'.find c.dir = .ok (d, .dir) := by
  cases h with
  | present | blocked | failed => exact hdir
  | new hn hfree hadd => exact find_dir_of_keeps hdir (extends_of_add? hadd).keeps

/-- What was at the path before a store decides whether a file is there after it. -/
theorem isFile_of_stored_iff (hdir : t.find c.dir = .ok (d, .dir))
    (h : Stored c v data d t (.ok p) t') : t'.isFile (c.pathFor v) = true ↔
      t.isFile (c.pathFor v) = true ∨ ∃ e n, t.walk false (c.pathFor v) = .ok (.free e n) := by
  cases h with
  | present hexists =>
    refine ⟨Or.inl, ?_⟩
    rintro (hfile | ⟨e, n, hfree⟩)
    · exact hfile
    · unfold exists? at hexists
      split at hexists
      case h_1 x hx =>
        obtain ⟨q, node, hq⟩ := exists_taken_of_find hx
        simp [hq] at hfree
      case h_2 => simp at hexists
  | @blocked n node hn hat hnot =>
    refine ⟨Or.inl, ?_⟩
    rintro (hfile | ⟨e, m, hfree⟩)
    · exact hfile
    · rw [pathFor, Path.ofString, ← hn, walk_join_eq_ok_iff hdir, lookUp_eq_free_iff] at hfree
      obtain ⟨-, -, -, hnone⟩ := hfree
      simp [hat] at hnone
  | @new n t' hn hfree hadd =>
    refine ⟨fun _ => Or.inr ⟨_, _, hfree⟩, fun _ => ?_⟩
    have hdir' := find_dir_of_keeps hdir (extends_of_add? hadd).keeps
    have hat : t'.at? (n :: d) = some (.file serverMode data) := by rw [at?_add? hadd, if_pos rfl]
    rw [pathFor, Path.ofString, ← hn] at hfree ⊢
    obtain ⟨hlong, hname, -⟩ := (walk_join_eq_free_iff hdir).mp hfree
    refine isFile_eq_true_iff.mpr ⟨n :: d, serverMode, data, find_eq_ok_iff.mpr ?_⟩
    rw [walk_true_join_of_file hdir' hat]
    exact (walk_join_eq_taken_iff hdir').mpr ⟨hlong, hname, hat⟩

/-- A server that a store claims to be there is found exactly if it fitted in when the directory had
been made. -/
theorem finds_store_iff (h : ((c.store v data).run t).result = .ok p) :
    c.Finds ((c.store v data).run t).tree v p ↔ c.Fits (c.ensureDir.run t).tree v := by
  obtain rfl := path_of_store h
  have hens := ensureDir_of_store h
  obtain ⟨hresult, htree⟩ : _ = ((c.store v data).run _).result ∧ _ := store_of_ensureDir hens
  rw [hresult] at h
  rw [htree]
  have hstored : ∀ {d}, '/' ∉ c.binaryName.toList →
      (c.ensureDir.run t).tree.find c.dir = .ok (d, .dir) →
      Stored c v data d (c.ensureDir.run t).tree (.ok (c.pathFor v))
        ((c.store v data).run (c.ensureDir.run t).tree).tree := by
    intro d hbin hd
    rw [← h]
    exact stored_store hd hbin v data
  constructor
  · intro hfinds
    obtain ⟨d, hd⟩ := find_of_ensureDir hens hfinds.dir_ne_nil
    have hs := hstored hfinds.slash_not_mem hd
    exact ⟨hfinds.dir_ne_nil, hfinds.slash_not_mem, (isFile_of_stored_iff hd hs).mp hfinds.file⟩
  · intro hfits
    obtain ⟨d, hd⟩ := find_of_ensureDir hens hfits.dir
    have hs := hstored hfits.binaryName hd
    exact finds_of_isFile (find_dir_of_stored hd hs) hfits.binaryName
      ((isFile_of_stored_iff hd hs).mpr hfits.path)

end Cache

namespace Resolver

variable {r : Resolver} {t u : FileTree} {v : Version} {p : Path} {pending : Option Version}

/-! ## From one resolution to the next -/

/-- A resolution that downloads a server has stored it, in the tree that the feed left. -/
theorem store_of_resolve (h : (r.resolve.run t).result = .ok ⟨p, .download v, pending⟩) :
    ∃ a data u es, (r.feed.content a).run (r.feed.latest.run (r.cache.list.run t).tree).tree =
        ⟨.ok data, u, es⟩ ∧
      ((r.cache.store v data).run u).result = .ok p ∧
      ((r.cache.store v data).run u).tree = (r.resolve.run t).tree := by
  cases hdebug : r.debugBinary with
  | some q => simp [run_resolve_of_debug hdebug] at h
  | none =>
    cases hlist : (r.cache.list.run t).result with
    | error e => simp [run_resolve_of_error hdebug hlist] at h
    | ok ss =>
      cases hs : Cache.newest? ss with
      | some s => simp [run_resolve_of_listed hdebug hlist hs] at h
      | none =>
        obtain rfl := (Version.newestBy?_eq_none_iff CachedServer.version ss).mp hs
        obtain ⟨-, hresult, htree⟩ := resolve_of_empty hdebug hlist
        obtain ⟨ns, res, t', hrules⟩ :=
          exists_refreshing r r.showsProgress .zero (r.cache.list.run t).tree
        obtain ⟨-, hres, hleft⟩ := hrules.run
        rw [hresult, hres] at h
        rw [htree, hleft]
        cases hrules with
        | noRelease | invalidTag | upToDate | noAsset | noContent | notStored =>
          simp [resolutionOf] at h
        | @downloaded rel u es v' a data w es' p' t' es'' hlatest hparse hnew hfirst hcontent
            hstore =>
          obtain ⟨rfl, rfl, -⟩ : r.cache.pathFor v' = p ∧ v' = v ∧ none = pending := by
            simpa [resolutionOf] using h
          obtain rfl := Cache.path_of_store (congrArg Outcome.result hstore)
          exact ⟨a, data, w, es', by rw [hlatest]; exact hcontent, by rw [hstore], by rw [hstore]⟩

/-- A server in the cache keeps a resolution from asking for another, or an older one. -/
theorem resolve_of_finds (hdebug : r.debugBinary = none) (h : r.cache.Finds t v p) :
    ∃ s ss, (r.cache.list.run t).result = .ok ss ∧ ⟨v, p⟩ ∈ ss ∧ s ∈ ss ∧
      ¬s.version.OlderThan v ∧
      (r.resolve.run t).result = .ok ⟨s.path, .cache s.version, some s.version⟩ := by
  obtain ⟨ss, hlist, hmem⟩ := h.listed
  obtain ⟨s, hsmem, hs, hmax⟩ := exists_newest? (List.ne_nil_of_mem hmem)
  exact ⟨s, ss, hlist, hmem, hsmem, hmax _ hmem,
    by rw [run_resolve_of_listed hdebug hlist hs]⟩

/-- A server that a store gives back is found by the next listing exactly if it fitted in when the
directory had been made ; so is one that a resolution has downloaded, in the tree that the feed
left. What is found, the next resolution takes from the cache, or something newer. -/
theorem finds_stored_iff (r : Resolver) :
    (∀ v data t p, ((r.cache.store v data).run t).result = .ok p →
      (r.cache.Finds ((r.cache.store v data).run t).tree v p ↔
        r.cache.Fits (r.cache.ensureDir.run t).tree v)) ∧
    (∀ t p v pending, (r.resolve.run t).result = .ok ⟨p, .download v, pending⟩ →
      ∃ a data u es, (r.feed.content a).run (r.feed.latest.run (r.cache.list.run t).tree).tree =
          ⟨.ok data, u, es⟩ ∧
        ((r.cache.store v data).run u).result = .ok p ∧
        (r.resolve.run t).tree = ((r.cache.store v data).run u).tree ∧
        (r.cache.Finds (r.resolve.run t).tree v p ↔
          r.cache.Fits (r.cache.ensureDir.run u).tree v)) ∧
    (∀ t v p, r.debugBinary = none → r.cache.Finds t v p →
      ∃ s ss, (r.cache.list.run t).result = .ok ss ∧ ⟨v, p⟩ ∈ ss ∧ s ∈ ss ∧
        ¬s.version.OlderThan v ∧
        (r.resolve.run t).result = .ok ⟨s.path, .cache s.version, some s.version⟩) := by
  refine ⟨fun v data t p h => Cache.finds_store_iff h, fun t p v pending h => ?_,
    fun t v p hdebug h => resolve_of_finds hdebug h⟩
  obtain ⟨a, data, u, es, hcontent, hresult, htree⟩ := store_of_resolve h
  refine ⟨a, data, u, es, hcontent, hresult, htree.symm, ?_⟩
  rw [← htree]
  exact Cache.finds_store_iff hresult

/-- The name of a server in the sample. -/
def sampleName : Name :=
  ⟨Utf8.encode "server.v2.0.0", by decide⟩

/-- The first store of all is found. -/
theorem finds_of_empty_sample :
    (((sample Cache.sample).cache.store ⟨2, 0, 0⟩ [7]).run FileTree.empty).result =
        .ok (.ofString "bin/server.v2.0.0") ∧
      (sample Cache.sample).cache.Finds
        (((sample Cache.sample).cache.store ⟨2, 0, 0⟩ [7]).run FileTree.empty).tree ⟨2, 0, 0⟩
        (.ofString "bin/server.v2.0.0") := by
  have hstore : (((sample Cache.sample).cache.store ⟨2, 0, 0⟩ [7]).run FileTree.empty).result =
      .ok (.ofString "bin/server.v2.0.0") := by
    decide +kernel
  have hfree : ((sample Cache.sample).cache.ensureDir.run FileTree.empty).tree.walk false
      ((sample Cache.sample).cache.pathFor ⟨2, 0, 0⟩) =
        .ok (.free Cache.samplePlace sampleName) := by
    decide +kernel
  have hfits : (sample Cache.sample).cache.Fits
      ((sample Cache.sample).cache.ensureDir.run FileTree.empty).tree ⟨2, 0, 0⟩ :=
    ⟨by decide, by decide, Or.inr ⟨_, _, hfree⟩⟩
  obtain ⟨hiff, -, -⟩ := finds_stored_iff (sample Cache.sample)
  exact ⟨hstore, (hiff _ _ _ _ hstore).mpr hfits⟩

/-- The cache of `server` in a directory without a name. -/
def nameless : Cache :=
  ⟨.ofString "", "server"⟩

/-- The cache of a program whose name leads into a directory of its own. -/
def nested : Cache :=
  ⟨.ofString "bin", "tools/server"⟩

/-- A tree with the directory that `nested` needs. -/
def withTools : FileTree :=
  FileTree.empty.editEach [.dir (.ofString "bin/tools")]

/-- A tree with a directory where a server should be. -/
def withDir : FileTree :=
  FileTree.empty.editEach [.dir (.ofString "bin/server.v2.0.0")]

/-- A tree with a link that leads nowhere where a server should be. -/
def withLink : FileTree :=
  FileTree.empty.editEach [.link (.ofString "bin/server.v2.0.0") (.ofString "nowhere")]

/-- In each of four ways a store gives back a path that the listing does not show : the directory
has no name, the name of the program has a slash in it, or a directory or a link that leads nowhere
lies at the path. The next resolution downloads the server again then. -/
theorem store_not_listed :
    (((nameless.store ⟨2, 0, 0⟩ [7]).run FileTree.empty).result = .ok (.ofString "server.v2.0.0") ∧
      (nameless.list.run ((nameless.store ⟨2, 0, 0⟩ [7]).run FileTree.empty).tree).result =
        .error (.readFailed (.ofString "") .notFound)) ∧
    (((nested.store ⟨2, 0, 0⟩ [7]).run withTools).result =
        .ok (.ofString "bin/tools/server.v2.0.0") ∧
      (nested.list.run ((nested.store ⟨2, 0, 0⟩ [7]).run withTools).tree).result = .ok []) ∧
    (((Cache.sample.store ⟨2, 0, 0⟩ [7]).run withDir).result =
        .ok (.ofString "bin/server.v2.0.0") ∧
      (Cache.sample.list.run ((Cache.sample.store ⟨2, 0, 0⟩ [7]).run withDir).tree).result =
        .ok []) ∧
    (((Cache.sample.store ⟨2, 0, 0⟩ [7]).run withLink).result =
        .ok (.ofString "bin/server.v2.0.0") ∧
      (Cache.sample.list.run ((Cache.sample.store ⟨2, 0, 0⟩ [7]).run withLink).tree).result =
        .ok []) ∧
    ((sample Cache.sample).resolve.run withLink).result =
        .ok ⟨.ofString "bin/server.v2.0.0", .download ⟨2, 0, 0⟩, none⟩ ∧
      ((sample Cache.sample).resolve.run ((sample Cache.sample).resolve.run withLink).tree).result =
        .ok ⟨.ofString "bin/server.v2.0.0", .download ⟨2, 0, 0⟩, none⟩ := by
  decide +kernel

end Resolver

end ServerLauncher
