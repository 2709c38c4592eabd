import ServerLauncher.Proofs.Growing
import ServerLauncher.Proofs.Table

/-!
# Getting to the latest release

If the feed keeps publishing one version, launches one after the other get to it and stay there
(`Resolver.launches_converge`). With an empty cache the first launch downloads it. With an older
server in the cache the first launch takes that one, and its refresh downloads the release. Every
later launch takes the release from the cache, and no more is downloaded : what a store has put into
the directory is what the next listing shows (`Cache.newest?_of_store`).
-/

namespace ServerLauncher

open FileTree

/-! ## Downloads -/

/-- The files that the feed is asked for. -/
def assetCalls (es : List Event) : List Asset :=
  es.filterMap fun
    | .askAsset a => some a
    | _ => none

theorem assetCalls_notices (es : List Event) : assetCalls (notices es) = assetCalls es := by
  induction es with
  | nil => rfl
  | cons e es ih => cases e <;> simpa [assetCalls, notices] using ih

/-- The feed keeps answering with a release of version `v` that has a file for this machine. -/
structure Resolver.Publishes (r : Resolver) (f : Feed) (v : Version) : Prop where
  quiet : f.Quiet
  offers : ∀ t, ∃ data, (r.withFeed f).Offers t v data

/-- The cache can take a server of version `v` : its directory can be made, and in it the server is
there, or a file can be made at its path and the path of a temporary file is not too long. -/
structure Cache.Takes (c : Cache) (t : FileTree) (v : Version) : Prop where
  dir : (c.ensureDir.run t).result = .ok ()
  server : (c.ensureDir.run t).tree.isFile (c.pathFor v) = true ∨
    c.TemporaryFits (c.ensureDir.run t).tree ∧
      ∃ u, (c.ensureDir.run t).tree.createNew (c.pathFor v) serverMode = .ok u

variable {c : Cache} {r : Resolver} {f : Feed} {v current : Version} {data : Bytes}
  {t u : FileTree} {ss : List CachedServer} {s : CachedServer} {shows : Bool}

/-! ## What a store leaves to the next listing -/

namespace Cache

theorem Takes.of_list (h : c.Takes t v) : c.Takes (c.list.run t).tree v := by
  obtain ⟨hens, htree⟩ := ensureDir_again h.dir
  rw [tree_list]
  exact ⟨hens, by rw [htree]; exact h.server⟩

theorem Takes.store (h : c.Takes t v) (hplain : c.Plain) (data : Bytes) :
    ((c.store v data).run t).result = .ok (c.pathFor v) := by
  rcases h.server with hfile | hserver
  · exact (store_of_exists? data h.dir (exists?_of_isFile hfile)).1
  · obtain ⟨d, hd⟩ := find_of_ensureDir h.dir hplain.dir
    have hroom := (hasRoom_iff hplain.binaryName hd).mpr hserver
    have hsettled := settled_store v data h.dir
    generalize (c.store v data).run t = o at hsettled ⊢
    obtain ⟨result, t', es⟩ := o
    cases hsettled with
    | kept | new => rfl
    | failed hnone => exact absurd hroom hnone

/-- A server that is newer than all others is the newest. -/
theorem newest?_append (h : ∀ s' ∈ ss, s'.version.OlderThan s.version) :
    newest? (ss ++ [s]) = some s := by
  have hne : ss ++ [s] ≠ [] := by simp
  obtain ⟨s', hmem, hs', hmax⟩ := Resolver.exists_newest? hne
  rw [hs']
  rcases List.mem_append.mp hmem with hold | hnew
  · exact absurd (h s' hold) (hmax s (by simp))
  · rw [List.mem_singleton.mp hnew]

/-- A server that is stored, and newer than all others, is the newest for the next listing. -/
theorem newest?_of_store (hplain : c.Plain) (hfiles : c.HoldsFiles t) (htakes : c.Takes t v)
    (hlist : (c.list.run t).result = .ok ss) (hnewer : ∀ s ∈ ss, s.version.OlderThan v)
    (data : Bytes) : ∃ ss', (c.list.run ((c.store v data).run t).tree).result = .ok ss' ∧
      newest? ss' = some ⟨v, c.pathFor v⟩ := by
  have hanswer := (answers_store hplain hfiles v data).2
  rw [htakes.store hplain data] at hanswer
  generalize hrows : c.table ((c.store v data).run t).tree = rows at hanswer
  cases hanswer
  have hss := listed_of_list hplain.components hlist
  have hnone : ¬∃ row ∈ c.table t, row.name = (c.row v data).name := by
    rintro ⟨row, hmem, hname⟩
    have hv := versionOf?_of_row hmem
    rw [hname, show (c.row v data).name = Utf8.encode (c.fileName v) from rfl,
      versionOf?_fileName] at hv
    have hold := hnewer (row.server c) (hss ▸ List.mem_map_of_mem hmem)
    exact Version.not_olderThan_self v ((Option.some.inj hv).symm ▸ hold)
  rw [Table.put, if_neg hnone] at hrows
  have hrow : c.row v data ∈ c.table ((c.store v data).run t).tree := by
    rw [hrows]
    simp
  obtain ⟨d, hd, -⟩ := exists?_of_row hrow rfl
  refine ⟨_, (list_of_find hd).1, ?_⟩
  rw [serversIn_eq, ← table_of_find hd, hrows, List.map_append, ← hss]
  exact newest?_append hnewer

end Cache

/-! ## Refreshes -/

namespace Resolver

/-- A refresh against a version that is not older than the release finds nothing to do. -/
theorem refresh_of_current (hpublishes : r.Publishes f v) (hcurrent : ¬current.OlderThan v)
    (shows : Bool) (t : FileTree) :
    let o := ((r.withFeed f).refreshWith shows current).run t
    o.result = .ok (.upToDate v) ∧ o.tree = t ∧ assetCalls o.events = [] := by
  intro o
  obtain ⟨data, rel, a, hrel, hparse, -⟩ := hpublishes.offers t
  have hlatest : (r.withFeed f).feed.latest.run t = _ := hpublishes.quiet.run_latest hrel
  have hrules : Refreshing (r.withFeed f) shows current t _ _ t :=
    .upToDate hlatest hparse hcurrent
  obtain ⟨hnotices, hresult, htree⟩ := hrules.run
  refine ⟨hresult, htree, ?_⟩
  rw [← assetCalls_notices, hnotices]
  rfl

/-- A refresh against an older version downloads the release, with one call. -/
theorem refresh_of_older (hpublishes : r.Publishes f v) (holder : current.OlderThan v)
    (hplain : r.cache.Plain) (htakes : r.cache.Takes t v) (shows : Bool) :
    let o := ((r.withFeed f).refreshWith shows current).run t
    o.result = .ok (.downloaded ⟨v, r.cache.pathFor v⟩) ∧
      (∃ data, o.tree = ((r.cache.store v data).run t).tree) ∧
      (assetCalls o.events).length = 1 := by
  intro o
  obtain ⟨data, rel, a, hrel, hparse, hfirst, hdata⟩ := hpublishes.offers t
  have hlatest : (r.withFeed f).feed.latest.run t = _ := hpublishes.quiet.run_latest hrel
  have hcontent : ((r.withFeed f).feed.content a).run t = _ := hpublishes.quiet.run_content hdata
  have hstore : ((r.withFeed f).cache.store v data).run t = ⟨.ok (r.cache.pathFor v),
      ((r.cache.store v data).run t).tree, ((r.cache.store v data).run t).events⟩ := by
    have hok := htakes.store hplain data
    generalize hrun : (r.cache.store v data).run t = o at hok ⊢
    rw [← hok]
    exact hrun
  have hrules : Refreshing (r.withFeed f) shows current t _ _ _ :=
    .downloaded hlatest hparse holder hfirst hcontent hstore
  obtain ⟨hnotices, hresult, htree⟩ := hrules.run
  refine ⟨hresult, ⟨data, htree⟩, ?_⟩
  rw [← assetCalls_notices, hnotices]
  cases shows <;> rfl

/-! ## Launches -/

/-- A launch : a resolution with this feed, and the refresh after it, which is waited for. -/
def launch (r : Resolver) (f : Feed) :
    Act Event (Except (Halt ResolveError) Resolution) :=
  (r.withFeed f).resolveThen true

/-- Launches one after the other, each with a feed of its own. -/
def launches (r : Resolver) :
    List Feed → FileTree → List (Outcome Event (Except (Halt ResolveError) Resolution))
  | [], _ => []
  | f :: fs, t => (r.launch f).run t :: r.launches fs ((r.launch f).run t).tree

/-- The resolution that takes a server from the cache. -/
def taking (s : CachedServer) : Resolution :=
  ⟨s.path, .cache s.version, some s.version⟩

/-- With servers in the cache, a launch takes the newest and then refreshes against it. -/
theorem launch_of_listed (hdebug : r.debugBinary = none)
    (hlist : (r.cache.list.run t).result = .ok ss) (hs : Cache.newest? ss = some s) (f : Feed) :
    let o := (r.launch f).run t
    let o' := ((r.withFeed f).refreshWith false s.version).run (r.cache.list.run t).tree
    o.result = .ok (taking s) ∧ o.tree = o'.tree ∧ assetCalls o.events = assetCalls o'.events := by
  intro o o'
  obtain ⟨-, hresult, htree, hnotices⟩ := resolveThen_of_pending
    (run_resolve_of_listed (r := r.withFeed f) hdebug hlist hs) rfl
  refine ⟨hresult, htree, ?_⟩
  rw [← assetCalls_notices, ← assetCalls_notices o'.events]
  have hsilent : notices (((r.withFeed f).cache.latest.run t).events ++ [cachedRecord s]) = [] := by
    rw [notices_append, Cache.silent_latest]
    rfl
  rw [hsilent] at hnotices
  exact congrArg assetCalls hnotices

/-- With an empty cache, a launch downloads the release. -/
theorem launch_of_empty (hdebug : r.debugBinary = none)
    (hlist : (r.cache.list.run t).result = .ok []) (f : Feed) :
    let o := (r.launch f).run t
    let o' := ((r.withFeed f).refreshWith r.showsProgress .zero).run (r.cache.list.run t).tree
    o.result = resolutionOf o'.result ∧ o.tree = o'.tree ∧
      assetCalls o.events = assetCalls o'.events := by
  intro o o'
  obtain ⟨hnotices, hresult, htree⟩ := resolve_of_empty (r := r.withFeed f) hdebug hlist
  have hrun : o = (r.withFeed f).resolve.run t := by
    refine resolveThen_of_not_pending true rfl fun resolution hok => ?_
    exact pendingRefresh_of_resolutionOf (hresult.symm.trans hok)
  rw [hrun]
  refine ⟨hresult, htree, ?_⟩
  rw [← assetCalls_notices, ← assetCalls_notices o'.events]
  exact congrArg assetCalls hnotices

/-- Once the newest server is not older than the release, every launch takes it, and nothing is
downloaded. -/
theorem launches_of_current (hdebug : r.debugBinary = none) (hs : Cache.newest? ss = some s)
    (hcurrent : ¬s.version.OlderThan v) {fs : List Feed}
    (hlist : (r.cache.list.run t).result = .ok ss) (hfeeds : ∀ f ∈ fs, r.Publishes f v) :
    ∀ o ∈ r.launches fs t, o.result = .ok (taking s) ∧ assetCalls o.events = [] := by
  induction fs generalizing t with
  | nil => exact fun o ho => nomatch ho
  | cons f fs ih =>
    obtain ⟨hresult, htree, hcalls⟩ := launch_of_listed hdebug hlist hs f
    obtain ⟨-, hsame, hnone⟩ := refresh_of_current (hfeeds f List.mem_cons_self) hcurrent false
      (r.cache.list.run t).tree
    intro o ho
    rcases List.mem_cons.mp ho with rfl | ho
    · exact ⟨hresult, hcalls.trans hnone⟩
    · rw [htree, hsame] at ho
      exact ih (Cache.list_again hlist).1 (fun g hg => hfeeds g (List.mem_cons_of_mem f hg)) o ho

/-- If the release is not even newer than no server at all, every launch fails, and nothing is
downloaded. -/
theorem launches_of_nothing (hdebug : r.debugBinary = none) (hzero : ¬Version.zero.OlderThan v)
    {fs : List Feed} (hlist : (r.cache.list.run t).result = .ok [])
    (hfeeds : ∀ f ∈ fs, r.Publishes f v) : ∀ o ∈ r.launches fs t,
      o.result = .error (.error (.noNewerRelease v)) ∧ assetCalls o.events = [] := by
  induction fs generalizing t with
  | nil => exact fun o ho => nomatch ho
  | cons f fs ih =>
    obtain ⟨hresult, htree, hcalls⟩ := launch_of_empty hdebug hlist f
    obtain ⟨hup, hsame, hnone⟩ := refresh_of_current (hfeeds f List.mem_cons_self) hzero
      r.showsProgress (r.cache.list.run t).tree
    intro o ho
    rcases List.mem_cons.mp ho with rfl | ho
    · exact ⟨by rw [hresult, hup]; rfl, hcalls.trans hnone⟩
    · rw [htree, hsame] at ho
      exact ih (Cache.list_again hlist).1 (fun g hg => hfeeds g (List.mem_cons_of_mem f hg)) o ho

/-- The files that are asked for in launches. -/
def downloads (os : List (Outcome Event (Except (Halt ResolveError) Resolution))) : List Asset :=
  os.flatMap fun o => assetCalls o.events

theorem downloads_eq_nil {os : List (Outcome Event (Except (Halt ResolveError) Resolution))}
    (h : ∀ o ∈ os, assetCalls o.events = []) : downloads os = [] :=
  List.flatMap_eq_nil_iff.mpr h

theorem length_downloads_cons {o : Outcome Event (Except (Halt ResolveError) Resolution)}
    {os : List (Outcome Event (Except (Halt ResolveError) Resolution))}
    (h : ∀ o ∈ os, assetCalls o.events = []) :
    (downloads (o :: os)).length = (assetCalls o.events).length := by
  have hcons : downloads (o :: os) = assetCalls o.events ++ downloads os := rfl
  rw [hcons, downloads_eq_nil h, List.append_nil]

/-- After a download of the release, every launch takes it from the cache, and nothing more is
downloaded. -/
theorem launches_of_download (hdebug : r.debugBinary = none) (hplain : r.cache.Plain)
    (hfiles : r.cache.HoldsFiles t) (htakes : r.cache.Takes t v)
    (hlist : (r.cache.list.run t).result = .ok ss) (hnewer : ∀ s ∈ ss, s.version.OlderThan v)
    {fs : List Feed} (hfeeds : ∀ f ∈ fs, r.Publishes f v) (data : Bytes) :
    ∀ o ∈ r.launches fs ((r.cache.store v data).run t).tree,
      o.result = .ok (taking ⟨v, r.cache.pathFor v⟩) ∧ assetCalls o.events = [] := by
  obtain ⟨ss', hlist', hs'⟩ := Cache.newest?_of_store hplain hfiles htakes hlist hnewer data
  exact launches_of_current hdebug hs' (Version.not_olderThan_self v) hlist' hfeeds

/-- If every feed publishes version `v`, launches get to it and stay there. With an empty cache the
first launch downloads it, unless it is not newer than no server at all, and then every launch
fails. With servers in the cache the first launch takes one of the newest, and its refresh downloads
the release if that is newer. Every later launch takes the newer of the two from the cache. In all,
one file is downloaded or none. -/
theorem launches_converge (hdebug : r.debugBinary = none) (hplain : r.cache.Plain)
    (hfiles : r.cache.HoldsFiles t) (htakes : r.cache.Takes t v) (f : Feed) (fs : List Feed)
    (hfeeds : ∀ g ∈ f :: fs, r.Publishes g v) :
    ∃ ss first later, (r.cache.list.run t).result = .ok ss ∧
      r.launches (f :: fs) t = first :: later ∧
      (ss = [] → Version.zero.OlderThan v →
        first.result = .ok ⟨r.cache.pathFor v, .download v, none⟩ ∧
        (∀ o ∈ later, o.result = .ok ⟨r.cache.pathFor v, .cache v, some v⟩) ∧
        (downloads (first :: later)).length = 1) ∧
      (ss = [] → ¬Version.zero.OlderThan v →
        (∀ o ∈ first :: later, o.result = .error (.error (.noNewerRelease v))) ∧
        (downloads (first :: later)).length = 0) ∧
      (ss ≠ [] → ∃ s ∈ ss, (∀ s' ∈ ss, ¬s.version.OlderThan s'.version) ∧
        first.result = .ok ⟨s.path, .cache s.version, some s.version⟩ ∧
        (s.version.OlderThan v →
          (∀ o ∈ later, o.result = .ok ⟨r.cache.pathFor v, .cache v, some v⟩) ∧
          (downloads (first :: later)).length = 1) ∧
        (¬s.version.OlderThan v →
          (∀ o ∈ later, o.result = .ok ⟨s.path, .cache s.version, some s.version⟩) ∧
          (downloads (first :: later)).length = 0)) := by
  obtain ⟨d, hd⟩ := Cache.find_of_ensureDir htakes.dir hplain.dir
  rw [← Cache.tree_list] at hd
  have hlist : (r.cache.list.run t).result = .ok (r.cache.serversIn (r.cache.list.run t).tree d) :=
    Cache.result_list_eq_ok_iff.mpr ⟨htakes.dir, d, hd, rfl⟩
  generalize r.cache.serversIn (r.cache.list.run t).tree d = ss at hlist
  obtain ⟨hagain, -⟩ := Cache.list_again hlist
  have hfiles' := (Cache.table_list hplain.components t).2 hfiles
  have htakes' := htakes.of_list
  have hfirst := hfeeds f List.mem_cons_self
  have hrest : ∀ g ∈ fs, r.Publishes g v := fun g hg => hfeeds g (List.mem_cons_of_mem f hg)
  refine ⟨ss, _, _, hlist, rfl, ?_, ?_, ?_⟩
  · rintro rfl hnew
    obtain ⟨hresult, htree, hcalls⟩ := launch_of_empty hdebug hlist f
    obtain ⟨hdownloaded, ⟨data, hstored⟩, hone⟩ :=
      refresh_of_older hfirst hnew hplain htakes' r.showsProgress
    have hlater := launches_of_download hdebug hplain hfiles' htakes' hagain (by simp) hrest data
    rw [← hstored, ← htree] at hlater
    refine ⟨by rw [hresult, hdownloaded]; rfl, fun o ho => (hlater o ho).1, ?_⟩
    rw [length_downloads_cons fun o ho => (hlater o ho).2, hcalls, hone]
  · rintro rfl hzero
    have hall := launches_of_nothing hdebug hzero hlist hfeeds
    refine ⟨fun o ho => (hall o ho).1, ?_⟩
    rw [List.length_eq_zero_iff]
    exact downloads_eq_nil fun o ho => (hall o ho).2
  · intro hss
    obtain ⟨s, hmem, hs, hmax⟩ := exists_newest? hss
    obtain ⟨hresult, htree, hcalls⟩ := launch_of_listed hdebug hlist hs f
    refine ⟨s, hmem, hmax, hresult, fun hnew => ?_, fun hcurrent => ?_⟩
    · obtain ⟨-, ⟨data, hstored⟩, hone⟩ := refresh_of_older hfirst hnew hplain htakes' false
      have hnewer : ∀ s' ∈ ss, s'.version.OlderThan v := by
        intro s' hs'
        by_contra hnot
        exact Version.not_olderThan_trans (hmax s' hs') hnot hnew
      have hlater := launches_of_download hdebug hplain hfiles' htakes' hagain hnewer hrest data
      rw [← hstored, ← htree] at hlater
      refine ⟨fun o ho => (hlater o ho).1, ?_⟩
      rw [length_downloads_cons fun o ho => (hlater o ho).2, hcalls, hone]
    · have hall := launches_of_current hdebug hs hcurrent hlist hfeeds
      refine ⟨fun o ho => (hall o (List.mem_cons_of_mem _ ho)).1, ?_⟩
      rw [List.length_eq_zero_iff]
      exact downloads_eq_nil fun o ho => (hall o ho).2

/-- The feed of the sample publishes its release again and again. -/
theorem publishes_sample :
    (sample Cache.sample).Publishes (sample Cache.sample).feed ⟨2, 0, 0⟩ := by
  let a : Asset := ⟨"server.x86_64-unknown-linux-gnu", "https://host/s"⟩
  have hfirst : Release.IsFirst ⟨"v2.0.0", [a]⟩ (sample Cache.sample).assetName a :=
    ⟨[], [], rfl, by decide, by simp⟩
  exact ⟨⟨fun _ => rfl, fun _ _ => rfl⟩, fun _ => ⟨[2, 3], _, a, rfl, by decide, hfirst, rfl⟩⟩

/-- With nothing there to begin with, the first of two launches downloads the release, and the
second takes it from the cache. -/
theorem launches_sample :
    (sample Cache.sample).debugBinary = none ∧ Cache.sample.Plain ∧
      Cache.sample.HoldsFiles FileTree.empty ∧ Cache.sample.Takes FileTree.empty ⟨2, 0, 0⟩ ∧
      ∃ first later,
        (sample Cache.sample).launches [(sample Cache.sample).feed, (sample Cache.sample).feed]
          FileTree.empty = first :: later ∧
        first.result = .ok ⟨.ofString "bin/server.v2.0.0", .download ⟨2, 0, 0⟩, none⟩ ∧
        (∀ o ∈ later,
          o.result = .ok ⟨.ofString "bin/server.v2.0.0", .cache ⟨2, 0, 0⟩, some ⟨2, 0, 0⟩⟩) ∧
        (downloads (first :: later)).length = 1 := by
  have hplain : Cache.sample.Plain := ⟨by decide, by decide, by decide⟩
  have hfiles : Cache.sample.HoldsFiles FileTree.empty := by
    intro d hd
    have hnone : FileTree.empty.find Cache.sample.dir = .error .notFound := by decide +kernel
    simp [hnone] at hd
  have hdir : (Cache.sample.ensureDir.run FileTree.empty).result = .ok () := by decide +kernel
  obtain ⟨d, hd⟩ := Cache.find_of_ensureDir hdir hplain.dir
  have hshort : (Cache.sample.ensureDir.run FileTree.empty).tree.entries.length < 1000000 := by
    decide +kernel
  have htakes : Cache.sample.Takes FileTree.empty ⟨2, 0, 0⟩ := by
    refine ⟨hdir, Or.inr ⟨.of_short hd (by decide) hshort, ?_⟩⟩
    cases hnew : (Cache.sample.ensureDir.run FileTree.empty).tree.createNew
      (Cache.sample.pathFor ⟨2, 0, 0⟩) serverMode with
    | ok u => exact ⟨u, rfl⟩
    | error e =>
      have hok : ((Cache.sample.ensureDir.run FileTree.empty).tree.createNew
        (Cache.sample.pathFor ⟨2, 0, 0⟩) serverMode).toBool = true := by decide +kernel
      simp [hnew, Except.toBool] at hok
  have hempty : (Cache.sample.list.run FileTree.empty).result = .ok [] := by decide +kernel
  obtain ⟨ss, first, later, hlist, hlaunches, hdownload, -⟩ :=
    launches_converge (r := sample Cache.sample) rfl hplain hfiles htakes
      (sample Cache.sample).feed [(sample Cache.sample).feed]
      (by simpa using publishes_sample)
  obtain rfl := Except.ok.inj (hempty.symm.trans hlist)
  have hnew : Version.zero.OlderThan ⟨2, 0, 0⟩ := (Version.isNewerThan_iff _ _).mp (by decide)
  exact ⟨rfl, hplain, hfiles, htakes, first, later, hlaunches, hdownload rfl hnew⟩

end Resolver

end ServerLauncher
