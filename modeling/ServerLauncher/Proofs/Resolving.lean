import ServerLauncher.Proofs.Refresh

/-!
# Resolving from the cache

With a server in the cache, a resolution picks the newest one and does not ask the feed
(`Resolver.run_resolve_of_listed`). The refresh is left to be done : `Resolver.resolveThen` does it
at once, or not at all. Either way the feed makes no difference for the server that is launched.
-/

namespace ServerLauncher

open FileTree

namespace Resolver

variable {r : Resolver} {t : FileTree} {ss : List CachedServer}

/-- Resolve, and then wait for the refresh that is to be done, or cancel it. -/
def resolveThen (r : Resolver) (waits : Bool) :
    Act Event (Except (Halt ResolveError) Resolution) := do
  match ← r.resolve with
  | .error h => return .error h
  | .ok resolution => do
    match resolution.pendingRefresh, waits with
    | some current, true => r.refreshInBackground current
    | _, _ => pure ()
    return .ok resolution

/-- The same resolver with another feed. -/
def withFeed (r : Resolver) (feed : Feed) : Resolver :=
  { r with feed := feed }

/-! ## The parts of a resolution -/

/-- Of servers that are listed, one of the newest is picked. -/
theorem exists_newest? (h : ss ≠ []) : ∃ s ∈ ss, Cache.newest? ss = some s ∧
    ∀ s' ∈ ss, ¬s.version.OlderThan s'.version := by
  obtain ⟨s, hs⟩ := Option.ne_none_iff_exists'.mp
    (mt (Version.newestBy?_eq_none_iff CachedServer.version ss).mp h)
  obtain ⟨hmem, hmax⟩ := Version.newestBy?_spec hs
  exact ⟨s, hmem, hs, hmax⟩

/-- The log record of a server that is launched from the cache. -/
def cachedRecord (s : CachedServer) : Event :=
  .log ⟨.info, .resolution, s!"Using cached server {s.version.tag} at {s.path.quoted}"⟩

/-- With a server in the cache, nothing is asked and nothing is done but to list. -/
theorem run_resolve_of_listed {s : CachedServer} (hdebug : r.debugBinary = none)
    (hlist : (r.cache.list.run t).result = .ok ss) (hs : Cache.newest? ss = some s) :
    r.resolve.run t = ⟨.ok ⟨s.path, .cache s.version, some s.version⟩,
      (r.cache.list.run t).tree, (r.cache.latest.run t).events ++ [cachedRecord s]⟩ := by
  obtain ⟨hresult, htree⟩ := latest_of_list r.cache t
  have hsome : (r.cache.latest.run t).result = .ok (some s) := by
    rw [hresult, hlist, ← hs]
    rfl
  simp [resolve, hdebug, Act.run_bind, hsome, htree, Act.log, Act.emit, Act.run_pure, cachedRecord]

theorem run_resolve_of_error {e : CacheError} (hdebug : r.debugBinary = none)
    (hlist : (r.cache.list.run t).result = .error e) :
    r.resolve.run t = ⟨.error (.error (.cache e)), (r.cache.list.run t).tree,
      (r.cache.latest.run t).events⟩ := by
  obtain ⟨hresult, htree⟩ := latest_of_list r.cache t
  have herror : (r.cache.latest.run t).result = .error e := by
    rw [hresult, hlist]
    rfl
  simp [resolve, hdebug, Act.run_bind, herror, htree, Act.run_pure]

theorem run_resolve_of_debug {p : Path} (hdebug : r.debugBinary = some p) (t : FileTree) :
    r.resolve.run t = ⟨.ok ⟨p, .debugBuild, none⟩, t,
      [.log ⟨.info, .resolution, s!"Debug mode: using local build {p.quoted}"⟩]⟩ := by
  simp [resolve, hdebug, Act.run_bind, Act.log, Act.emit, Act.run_pure]

/-- The listing leaves a tree alone in which its directory is there. -/
theorem tree_list_of_isDir {c : Cache} (h : t.isDir c.dir = true) : (c.list.run t).tree = t := by
  obtain ⟨d, hd⟩ := exists_find_of_isDir h
  exact (Cache.list_of_find hd).2

/-! ## The refresh afterwards -/

/-- The refresh in the background only writes to the log what has come of it. -/
theorem run_refreshInBackground (r : Resolver) (current : Version) (t : FileTree) :
    notices ((r.refreshInBackground current).run t).events =
        notices ((r.refresh current).run t).events ∧
      ((r.refreshInBackground current).run t).tree = ((r.refresh current).run t).tree := by
  simp only [refreshInBackground, Act.run_bind, notices_append]
  rcases ((r.refresh current).run t).result with (e | -) | s | latest <;>
    simp [Act.log, Act.emit]

theorem resolveThen_of_pending {resolution : Resolution} {current : Version} {u : FileTree}
    {es : List Event} (h : r.resolve.run t = ⟨.ok resolution, u, es⟩)
    (hpending : resolution.pendingRefresh = some current) :
    (r.resolveThen false).run t = ⟨.ok resolution, u, es⟩ ∧
      ((r.resolveThen true).run t).result = .ok resolution ∧
      ((r.resolveThen true).run t).tree = ((r.refresh current).run u).tree ∧
      notices ((r.resolveThen true).run t).events =
        notices es ++ notices ((r.refresh current).run u).events := by
  obtain ⟨hnotices, htree⟩ := run_refreshInBackground r current u
  refine ⟨?_, ?_, ?_, ?_⟩
  · simp [resolveThen, Act.run_bind, Act.run_pure, h]
  · simp [resolveThen, Act.run_bind, Act.run_pure, h, hpending]
  · simp [resolveThen, Act.run_bind, Act.run_pure, h, hpending, htree]
  · simp [resolveThen, Act.run_bind, Act.run_pure, h, hpending, hnotices]

/-- Where no refresh is left to be done, there is nothing to wait for. -/
theorem resolveThen_of_not_pending {o : Outcome Event (Except (Halt ResolveError) Resolution)}
    (waits : Bool) (h : r.resolve.run t = o)
    (hpending : ∀ resolution, o.result = .ok resolution → resolution.pendingRefresh = none) :
    (r.resolveThen waits).run t = o := by
  obtain ⟨err | resolution, u, es⟩ := o
  · simp [resolveThen, Act.run_bind, Act.run_pure, h]
  · simp [resolveThen, Act.run_bind, Act.run_pure, h, hpending resolution rfl]

theorem pendingRefresh_of_resolutionOf {res : Except (Halt ResolveError) Refreshed}
    {resolution : Resolution} (h : resolutionOf res = .ok resolution) :
    resolution.pendingRefresh = none := by
  rcases res with err | s | latest
  · cases h
  · obtain rfl := Except.ok.inj h
    rfl
  · cases h

/-! ## The whole -/

/-- Whatever the feeds are, a resolution that finds servers in the cache gives the same one of the
newest, and nobody notices it ; it makes the directories that the listing misses and changes nothing
else. Cancelled, the refresh asks no feed and changes nothing ; awaited, it is an explicit refresh
against the version given, from the tree that the listing left, and its failures stay with it. -/
theorem resolve_from_cache (r : Resolver) (t : FileTree) :
    (∀ ss, r.debugBinary = none → (r.cache.list.run t).result = .ok ss → ss ≠ [] →
      ∃ s ∈ ss, (∀ s' ∈ ss, ¬s.version.OlderThan s'.version) ∧ ∃ u es,
        t.AddsDirs r.cache.dir.IsAbove u ∧ (t.isDir r.cache.dir = true → u = t) ∧
        notices es = [] ∧ ∀ feed : Feed,
          let r' := r.withFeed feed
          let resolution : Resolution := ⟨s.path, .cache s.version, some s.version⟩
          r'.resolve.run t = ⟨.ok resolution, u, es⟩ ∧
          (r'.resolveThen false).run t = ⟨.ok resolution, u, es⟩ ∧
          ((r'.resolveThen true).run t).result = .ok resolution ∧
          ((r'.resolveThen true).run t).tree = ((r'.refresh s.version).run u).tree ∧
          notices ((r'.resolveThen true).run t).events =
            notices ((r'.refresh s.version).run u).events) ∧
    (∀ e, r.debugBinary = none → (r.cache.list.run t).result = .error e →
      (r.resolve.run t).result = .error (.error (.cache e)) ∧
        notices (r.resolve.run t).events = []) ∧
    (∀ p, r.debugBinary = some p → ∃ es, notices es = [] ∧ ∀ (feed : Feed) (t : FileTree),
      (r.withFeed feed).resolve.run t = ⟨.ok ⟨p, .debugBuild, none⟩, t, es⟩) := by
  refine ⟨fun ss hdebug hlist hss => ?_, fun e hdebug hlist => ?_, fun p hdebug => ?_⟩
  · obtain ⟨s, hmem, hs, hmax⟩ := exists_newest? hss
    refine ⟨s, hmem, hmax, (r.cache.list.run t).tree,
      (r.cache.latest.run t).events ++ [cachedRecord s], Cache.addsDirs_list r.cache t,
      tree_list_of_isDir, ?_, fun feed => ?_⟩
    · rw [notices_append, r.cache.silent_latest t]
      rfl
    · intro r' resolution
      have hrun : r'.resolve.run t = ⟨.ok resolution, _, _⟩ :=
        run_resolve_of_listed (r := r.withFeed feed) hdebug hlist hs
      obtain ⟨hcancelled, hresult, htree, hnotices⟩ := resolveThen_of_pending hrun rfl
      refine ⟨hrun, hcancelled, hresult, htree, ?_⟩
      rw [hnotices, notices_append, r'.cache.silent_latest t]
      rfl
  · rw [run_resolve_of_error hdebug hlist]
    exact ⟨rfl, r.cache.silent_latest t⟩
  · refine ⟨_, ?_, fun feed t => run_resolve_of_debug (r := r.withFeed feed) hdebug t⟩
    rfl

/-- A feed that breaks down whatever it is asked. -/
def brokenFeed : Feed where
  latest := pure (.error .breakdown)
  content := fun _ => pure (.error .breakdown)

/-- With a server in the directory, a resolution succeeds though the feed breaks down, and so does
waiting for the refresh. -/
theorem resolve_of_brokenFeed :
    (sample Cache.sample).debugBinary = none ∧
      ((sample Cache.sample).cache.list.run (Cache.sampleTree [7])).result =
        .ok [⟨⟨1, 0, 0⟩, .ofString "bin/server.v1.0.0"⟩] ∧
      ((((sample Cache.sample).withFeed brokenFeed).resolveThen true).run
        (Cache.sampleTree [7])).result =
          .ok ⟨.ofString "bin/server.v1.0.0", .cache ⟨1, 0, 0⟩, some ⟨1, 0, 0⟩⟩ := by
  have hlist : ((sample Cache.sample).cache.list.run (Cache.sampleTree [7])).result =
      .ok [⟨⟨1, 0, 0⟩, .ofString "bin/server.v1.0.0"⟩] := by
    decide +kernel
  obtain ⟨hlisted, -, -⟩ := resolve_from_cache (sample Cache.sample) (Cache.sampleTree [7])
  obtain ⟨s, hs, -, u, es, -, -, -, hall⟩ := hlisted _ rfl hlist (by simp)
  obtain rfl := List.mem_singleton.mp hs
  obtain ⟨-, -, hawaited, -⟩ := hall brokenFeed
  exact ⟨rfl, hlist, hawaited⟩

/-- The cache of `server` in `a`, by way of a directory `b` in `a`. -/
def roundabout : Cache :=
  ⟨.ofString "a/b/..", "server"⟩

/-- The place of `b` in `a`. -/
def wayPlace : Place :=
  [⟨Utf8.encode "b", by decide⟩, ⟨Utf8.encode "a", by decide⟩]

/-- A tree with a server in `a`, but no directory `b` there. -/
def withoutWay : FileTree :=
  FileTree.empty.editEach [.file (.ofString "a/server.v1.0.0") [7] serverMode]

/-- A resolution that finds a server in the cache can still change the tree : the listing makes
what is missing on the way to the directory. -/
theorem resolve_makes_directories :
    (sample roundabout).debugBinary = none ∧
      ((sample roundabout).cache.list.run withoutWay).result =
        .ok [⟨⟨1, 0, 0⟩, .ofString "a/b/../server.v1.0.0"⟩] ∧
      ((sample roundabout).resolve.run withoutWay).result =
        .ok ⟨.ofString "a/b/../server.v1.0.0", .cache ⟨1, 0, 0⟩, some ⟨1, 0, 0⟩⟩ ∧
      withoutWay.at? wayPlace = none ∧
      ((sample roundabout).resolve.run withoutWay).tree.at? wayPlace = some .dir :=
  ⟨rfl, by decide +kernel, by decide +kernel, by decide +kernel, by decide +kernel⟩

end Resolver

end ServerLauncher
