import ServerLauncher.Proofs.Notices
import ServerLauncher.Proofs.Storing

/-!
# What a refresh does

A refresh has seven ends, told apart by the rules of `Refreshing` : which calls of the feed and
messages to the user there were, what came of it, and which tree is left. The tree is that of the
feed, which may change it while it answers, and at the very end that of one store.

`Resolver.refreshWith` follows the rules (`refreshing_iff`), and so does a resolution that finds the
cache empty, which only reads the result in its own way (`resolutionOf`).
-/

namespace ServerLauncher

/-! ## The file to download -/

namespace Release

/-- `a` is the first file of the release that is called `name`. -/
def IsFirst (rel : Release) (name : String) (a : Asset) : Prop :=
  ∃ before after, rel.assets = before ++ a :: after ∧ a.name = name ∧
    ∀ b ∈ before, b.name ≠ name

variable {rel : Release} {binary : String} {target : Target}

theorem selectAsset_of_isFirst {a : Asset} (h : rel.IsFirst (binary ++ "." ++ target.triple) a) :
    rel.selectAsset binary target = .ok a := by
  obtain ⟨before, after, hassets, hname, hbefore⟩ := h
  have hfind : rel.findAsset? (target.assetName binary) = some a := by
    rw [findAsset?, List.find?_eq_some_iff_append, beq_iff_eq]
    refine ⟨hname, before, after, hassets, fun b hb => ?_⟩
    rw [Bool.not_eq_true', beq_eq_false_iff_ne]
    exact hbefore b hb
  rw [selectAsset, hfind]

theorem selectAsset_of_none (h : ∀ a ∈ rel.assets, a.name ≠ binary ++ "." ++ target.triple) :
    rel.selectAsset binary target =
      .error ⟨target.triple, binary ++ "." ++ target.triple⟩ := by
  have hfind : rel.findAsset? (target.assetName binary) = none := by
    rw [findAsset?, List.find?_eq_none]
    intro a ha
    rw [beq_iff_eq]
    exact h a ha
  rw [selectAsset, hfind]
  rfl

theorem exists_isFirst_or_none (rel : Release) (name : String) :
    (∃ a, rel.IsFirst name a) ∨ ∀ a ∈ rel.assets, a.name ≠ name := by
  cases h : rel.assets.find? fun a => a.name == name with
  | none =>
    refine Or.inr fun a ha => ?_
    simpa using List.find?_eq_none.mp h a ha
  | some a =>
    obtain ⟨hname, before, after, hassets, hbefore⟩ := List.find?_eq_some_iff_append.mp h
    refine Or.inl ⟨a, before, after, hassets, by simpa using hname, fun b hb => ?_⟩
    simpa using hbefore b hb

end Release

/-! ## The rules -/

namespace Resolver

/-- The file that holds the program for this machine. -/
def assetName (r : Resolver) : String :=
  r.cache.binaryName ++ "." ++ r.target.triple

/-- What is noticed of the download of a file : a message, if the user is told, and the call. -/
def downloadNotices (r : Resolver) (shows : Bool) (v : Version) (a : Asset) : List Event :=
  (if shows then [.progress s!"Downloading {r.cache.binaryName} {v.tag}"] else []) ++ [.askAsset a]

end Resolver

/-- How a refresh against the version `current` goes that begins on the tree `t` : what is noticed
of it, the result, and the tree that is left. -/
inductive Refreshing (r : Resolver) (shows : Bool) (current : Version) (t : FileTree) :
    List Event → Except (Halt ResolveError) Refreshed → FileTree → Prop
  | noRelease {h u es} (hlatest : r.feed.latest.run t = ⟨.error h, u, es⟩) :
      Refreshing r shows current t [.askRelease] (.error (h.map .feed)) u
  | invalidTag {rel u es} (hlatest : r.feed.latest.run t = ⟨.ok rel, u, es⟩)
      (hparse : Version.parse? rel.tag = none) :
      Refreshing r shows current t [.askRelease] (.error (.error (.invalidTag rel.tag))) u
  | upToDate {rel u es v} (hlatest : r.feed.latest.run t = ⟨.ok rel, u, es⟩)
      (hparse : Version.parse? rel.tag = some v) (hold : ¬current.OlderThan v) :
      Refreshing r shows current t [.askRelease] (.ok (.upToDate v)) u
  | noAsset {rel u es v} (hlatest : r.feed.latest.run t = ⟨.ok rel, u, es⟩)
      (hparse : Version.parse? rel.tag = some v) (hnew : current.OlderThan v)
      (hnone : ∀ a ∈ rel.assets, a.name ≠ r.assetName) :
      Refreshing r shows current t [.askRelease]
        (.error (.error (.missingAsset ⟨r.target.triple, r.assetName⟩))) u
  | noContent {rel u es v a h w es'} (hlatest : r.feed.latest.run t = ⟨.ok rel, u, es⟩)
      (hparse : Version.parse? rel.tag = some v) (hnew : current.OlderThan v)
      (hfirst : rel.IsFirst r.assetName a)
      (hcontent : (r.feed.content a).run u = ⟨.error h, w, es'⟩) :
      Refreshing r shows current t (.askRelease :: r.downloadNotices shows v a)
        (.error (h.map .feed)) w
  | notStored {rel u es v a data w es' e t' es''}
      (hlatest : r.feed.latest.run t = ⟨.ok rel, u, es⟩)
      (hparse : Version.parse? rel.tag = some v) (hnew : current.OlderThan v)
      (hfirst : rel.IsFirst r.assetName a)
      (hcontent : (r.feed.content a).run u = ⟨.ok data, w, es'⟩)
      (hstore : (r.cache.store v data).run w = ⟨.error e, t', es''⟩) :
      Refreshing r shows current t (.askRelease :: r.downloadNotices shows v a)
        (.error (.error (.cache e))) t'
  | downloaded {rel u es v a data w es' p t' es''}
      (hlatest : r.feed.latest.run t = ⟨.ok rel, u, es⟩)
      (hparse : Version.parse? rel.tag = some v) (hnew : current.OlderThan v)
      (hfirst : rel.IsFirst r.assetName a)
      (hcontent : (r.feed.content a).run u = ⟨.ok data, w, es'⟩)
      (hstore : (r.cache.store v data).run w = ⟨.ok p, t', es''⟩) :
      Refreshing r shows current t (.askRelease :: r.downloadNotices shows v a)
        (.ok (.downloaded ⟨v, r.cache.pathFor v⟩)) t'

variable {r : Resolver} {shows : Bool} {current : Version} {t t' : FileTree} {ns : List Event}
  {res : Except (Halt ResolveError) Refreshed}

/-- Whatever the feed answers, one of the rules applies. -/
theorem exists_refreshing (r : Resolver) (shows : Bool) (current : Version) (t : FileTree) :
    ∃ ns res t', Refreshing r shows current t ns res t' := by
  rcases hlatest : r.feed.latest.run t with ⟨h | rel, u, es⟩
  · exact ⟨_, _, _, .noRelease hlatest⟩
  cases hparse : Version.parse? rel.tag with
  | none => exact ⟨_, _, _, .invalidTag hlatest hparse⟩
  | some v =>
    by_cases hnew : current.OlderThan v
    · rcases rel.exists_isFirst_or_none r.assetName with ⟨a, hfirst⟩ | hnone
      · rcases hcontent : (r.feed.content a).run u with ⟨h | data, w, es'⟩
        · exact ⟨_, _, _, .noContent hlatest hparse hnew hfirst hcontent⟩
        · rcases hstore : (r.cache.store v data).run w with ⟨e | p, t', es''⟩
          · exact ⟨_, _, _, .notStored hlatest hparse hnew hfirst hcontent hstore⟩
          · exact ⟨_, _, _, .downloaded hlatest hparse hnew hfirst hcontent hstore⟩
      · exact ⟨_, _, _, .noAsset hlatest hparse hnew hnone⟩
    · exact ⟨_, _, _, .upToDate hlatest hparse hnew⟩

/-! ## The run -/

theorem Feed.run_askLatest (f : Feed) (t : FileTree) : f.askLatest.run t =
    ⟨(f.latest.run t).result, (f.latest.run t).tree,
      .askRelease :: (f.latest.run t).events.map .feed⟩ :=
  rfl

theorem Feed.run_askContent (f : Feed) (a : Asset) (t : FileTree) : (f.askContent a).run t =
    ⟨((f.content a).run t).result, ((f.content a).run t).tree,
      .askAsset a :: ((f.content a).run t).events.map .feed⟩ :=
  rfl

theorem notices_of_store {c : Cache} {v : Version} {data : Bytes}
    {result : Except CacheError Path} {es : List Event}
    (h : (c.store v data).run t = ⟨result, t', es⟩) : notices es = [] := by
  have hsilent := c.silent_store v data t
  rwa [h] at hsilent

namespace Resolver

variable {rel : Release} {a : Asset} {v : Version} {u w : FileTree} {data : Bytes}
  {es es' : List FeedEvent} {es'' : List Event}

/-- A newer release is downloaded. -/
theorem refreshWith_of_newer (hlatest : r.feed.latest.run t = ⟨.ok rel, u, es⟩)
    (hparse : Version.parse? rel.tag = some v) (hnew : current.OlderThan v) :
    notices ((r.refreshWith shows current).run t).events =
        .askRelease :: notices ((r.download shows rel v).run u).events ∧
      ((r.refreshWith shows current).run t).result = ((r.download shows rel v).run u).result ∧
      ((r.refreshWith shows current).run t).tree = ((r.download shows rel v).run u).tree := by
  simp [refreshWith, Act.run_bind, Feed.run_askLatest, hlatest, Release.version?, hparse,
    Version.isNewerThan_iff, hnew]

/-- What a download makes of a store. -/
def downloadOf (v : Version) : Except CacheError Path → Except (Halt ResolveError) Refreshed
  | .error e => .error (.error (.cache e))
  | .ok path => .ok (.downloaded ⟨v, path⟩)

theorem run_download (hfirst : rel.IsFirst r.assetName a)
    (hcontent : (r.feed.content a).run u = ⟨.ok data, w, es'⟩)
    {stored : Except CacheError Path} (hstore : (r.cache.store v data).run w = ⟨stored, t', es''⟩) :
    notices ((r.download shows rel v).run u).events = r.downloadNotices shows v a ∧
      ((r.download shows rel v).run u).result = downloadOf v stored ∧
      ((r.download shows rel v).run u).tree = t' := by
  have hsilent := notices_of_store hstore
  cases stored <;> cases shows <;>
    simp [download, Release.selectAsset_of_isFirst hfirst, Act.run_bind, Act.run_pure, Act.log,
      Act.emit, Feed.run_askContent, hcontent, hstore, hsilent, downloadNotices, downloadOf]

theorem run_download_of_error {h : Halt FeedError} (hfirst : rel.IsFirst r.assetName a)
    (hcontent : (r.feed.content a).run u = ⟨.error h, w, es'⟩) :
    notices ((r.download shows rel v).run u).events = r.downloadNotices shows v a ∧
      ((r.download shows rel v).run u).result = .error (h.map .feed) ∧
      ((r.download shows rel v).run u).tree = w := by
  cases shows <;>
    simp [download, Release.selectAsset_of_isFirst hfirst, Act.run_bind, Act.run_pure, Act.log,
      Act.emit, Feed.run_askContent, hcontent, downloadNotices]

theorem run_download_of_none (hnone : ∀ a ∈ rel.assets, a.name ≠ r.assetName) :
    (r.download shows rel v).run u =
      ⟨.error (.error (.missingAsset ⟨r.target.triple, r.assetName⟩)), u, []⟩ := by
  simp [download, Release.selectAsset_of_none hnone, Act.run_pure, assetName]

end Resolver

/-- A run is what a rule says, if the rule applies. -/
theorem Refreshing.run (h : Refreshing r shows current t ns res t') :
    notices ((r.refreshWith shows current).run t).events = ns ∧
      ((r.refreshWith shows current).run t).result = res ∧
      ((r.refreshWith shows current).run t).tree = t' := by
  cases h with
  | noRelease hlatest =>
    simp [Resolver.refreshWith, Act.run_bind, Act.run_pure, Feed.run_askLatest, hlatest]
  | invalidTag hlatest hparse =>
    simp [Resolver.refreshWith, Act.run_bind, Act.run_pure, Feed.run_askLatest, hlatest,
      Release.version?, hparse]
  | upToDate hlatest hparse hold =>
    simp [Resolver.refreshWith, Act.run_bind, Act.run_pure, Feed.run_askLatest, hlatest,
      Release.version?, hparse, Version.isNewerThan_iff, hold, Act.log, Act.emit]
  | noAsset hlatest hparse hnew hnone =>
    obtain ⟨hevents, hresult, htree⟩ := Resolver.refreshWith_of_newer hlatest hparse hnew
    rw [Resolver.run_download_of_none hnone] at hevents hresult htree
    exact ⟨hevents, hresult, htree⟩
  | noContent hlatest hparse hnew hfirst hcontent =>
    obtain ⟨hevents, hresult, htree⟩ := Resolver.refreshWith_of_newer hlatest hparse hnew
    obtain ⟨hevents', hresult', htree'⟩ := Resolver.run_download_of_error hfirst hcontent
    exact ⟨by rw [hevents, hevents'], hresult.trans hresult', htree.trans htree'⟩
  | notStored hlatest hparse hnew hfirst hcontent hstore =>
    obtain ⟨hevents, hresult, htree⟩ := Resolver.refreshWith_of_newer hlatest hparse hnew
    obtain ⟨hevents', hresult', htree'⟩ := Resolver.run_download hfirst hcontent hstore
    exact ⟨by rw [hevents, hevents'], hresult.trans hresult', htree.trans htree'⟩
  | downloaded hlatest hparse hnew hfirst hcontent hstore =>
    obtain ⟨hevents, hresult, htree⟩ := Resolver.refreshWith_of_newer hlatest hparse hnew
    obtain ⟨hevents', hresult', htree'⟩ := Resolver.run_download hfirst hcontent hstore
    rw [Cache.path_of_store (congrArg Outcome.result hstore)] at hresult'
    exact ⟨by rw [hevents, hevents'], hresult.trans hresult', htree.trans htree'⟩

/-- The rules tell exactly what a run does. -/
theorem refreshing_iff : Refreshing r shows current t ns res t' ↔
    notices ((r.refreshWith shows current).run t).events = ns ∧
      ((r.refreshWith shows current).run t).result = res ∧
      ((r.refreshWith shows current).run t).tree = t' := by
  refine ⟨Refreshing.run, ?_⟩
  rintro ⟨rfl, rfl, rfl⟩
  obtain ⟨ns, res, t', h⟩ := exists_refreshing r shows current t
  obtain ⟨rfl, rfl, rfl⟩ := h.run
  exact h

/-! ## Resolving with an empty cache -/

/-- Whether the user is told makes a difference for the messages only. -/
theorem Refreshing.untold (h : Refreshing r shows current t ns res t') :
    Refreshing r false current t (feedCalls ns) res t' := by
  have hcalls : ∀ v a, feedCalls (.askRelease :: r.downloadNotices shows v a) =
      .askRelease :: r.downloadNotices false v a := by
    intro v a
    cases shows <;> rfl
  cases h with
  | noRelease hlatest => exact .noRelease hlatest
  | invalidTag hlatest hparse => exact .invalidTag hlatest hparse
  | upToDate hlatest hparse hold => exact .upToDate hlatest hparse hold
  | noAsset hlatest hparse hnew hnone => exact .noAsset hlatest hparse hnew hnone
  | noContent hlatest hparse hnew hfirst hcontent =>
    rw [hcalls]
    exact .noContent hlatest hparse hnew hfirst hcontent
  | notStored hlatest hparse hnew hfirst hcontent hstore =>
    rw [hcalls]
    exact .notStored hlatest hparse hnew hfirst hcontent hstore
  | downloaded hlatest hparse hnew hfirst hcontent hstore =>
    rw [hcalls]
    exact .downloaded hlatest hparse hnew hfirst hcontent hstore

/-- What a resolution makes of a refresh where there was no server before. -/
def resolutionOf : Except (Halt ResolveError) Refreshed → Except (Halt ResolveError) Resolution
  | .error h => .error h
  | .ok (.upToDate latest) => .error (.error (.noNewerRelease latest))
  | .ok (.downloaded s) => .ok ⟨s.path, .download s.version, none⟩

namespace Resolver

theorem latest_of_list (c : Cache) (t : FileTree) :
    (c.latest.run t).result = (c.list.run t).result.map Cache.newest? ∧
      (c.latest.run t).tree = (c.list.run t).tree := by
  simp only [Cache.latest, Act.andThen, Act.run_bind]
  cases (c.list.run t).result <;> exact ⟨rfl, rfl⟩

/-- With an empty cache, a resolution does what a refresh does that tells the user. -/
theorem resolve_of_empty (hdebug : r.debugBinary = none)
    (hempty : (r.cache.list.run t).result = .ok []) :
    let o := (r.refreshWith r.showsProgress .zero).run (r.cache.list.run t).tree
    notices (r.resolve.run t).events = notices o.events ∧
      (r.resolve.run t).result = resolutionOf o.result ∧ (r.resolve.run t).tree = o.tree := by
  obtain ⟨hresult, htree⟩ := latest_of_list r.cache t
  have hnone : (r.cache.latest.run t).result = .ok none := by rw [hresult, hempty]; rfl
  have hsilent := r.cache.silent_latest t
  simp only [resolve, hdebug, Act.run_bind, hnone, resolveByDownload, htree, hsilent, Act.log,
    Act.emit, notices_append, notices_log, notices_nil, List.nil_append]
  rcases ((r.refreshWith r.showsProgress .zero).run (r.cache.list.run t).tree).result with
    h | s | latest
  all_goals simp [Act.run_pure, resolutionOf]

/-- A refresh goes by the rules, for every tree, feed, machine and version ; and a resolution with
an empty cache and no development build is a refresh against `Version.zero` from the tree that the
listing left, but for the messages to the user. -/
theorem refresh_and_resolve (r : Resolver) (t : FileTree) :
    (∀ current ns res t', Refreshing r false current t ns res t' ↔
      notices ((r.refresh current).run t).events = ns ∧
        ((r.refresh current).run t).result = res ∧ ((r.refresh current).run t).tree = t') ∧
    (r.debugBinary = none → (r.cache.list.run t).result = .ok [] →
      let u := (r.cache.list.run t).tree
      let o := (r.refresh .zero).run u
      let o' := r.resolve.run t
      feedCalls o'.events = feedCalls o.events ∧ o'.tree = o.tree ∧
        o'.result = resolutionOf o.result ∧
        Refreshing r r.showsProgress .zero u (notices o'.events) o.result o'.tree) := by
  refine ⟨fun current ns res t' => refreshing_iff, fun hdebug hempty => ?_⟩
  intro u o o'
  obtain ⟨hevents, hresult, htree⟩ := resolve_of_empty hdebug hempty
  have htold : Refreshing r r.showsProgress .zero u _ _ _ := refreshing_iff.mpr ⟨rfl, rfl, rfl⟩
  obtain ⟨huntold, hsame, htree'⟩ := htold.untold.run
  have hcalls : feedCalls o'.events = feedCalls o.events := by
    rw [← feedCalls_notices o'.events, hevents, ← feedCalls_notices o.events]
    show _ = feedCalls (notices ((r.refreshWith false .zero).run u).events)
    rw [huntold, feedCalls_feedCalls]
  have hresult' : o.result = ((r.refreshWith r.showsProgress .zero).run u).result := hsame
  refine ⟨hcalls, htree.trans htree'.symm, by rw [hresult', hresult], ?_⟩
  rw [hresult', hevents, htree]
  exact htold

/-- A resolver for a cache, whose feed has one release. -/
def sample (c : Cache) : Resolver where
  feed :=
    { latest := pure (.ok ⟨"v2.0.0", [⟨"server.x86_64-unknown-linux-gnu", "https://host/s"⟩]⟩)
      content := fun _ => pure (.ok [2, 3]) }
  cache := c
  target := ⟨.x86_64, .linuxGnu⟩
  debugBinary := none
  showsProgress := true

/-- The first resolution of all downloads the release. -/
theorem resolve_of_empty_sample :
    (sample Cache.sample).debugBinary = none ∧
      ((sample Cache.sample).cache.list.run FileTree.empty).result = .ok [] ∧
      ((sample Cache.sample).resolve.run FileTree.empty).result =
        .ok ⟨.ofString "bin/server.v2.0.0", .download ⟨2, 0, 0⟩, none⟩ := by
  have hempty : ((sample Cache.sample).cache.list.run FileTree.empty).result = .ok [] := by
    decide +kernel
  obtain ⟨-, hresolve⟩ := refresh_and_resolve (sample Cache.sample) FileTree.empty
  obtain ⟨-, -, hresult, -⟩ := hresolve rfl hempty
  exact ⟨rfl, hempty, hresult.trans (by decide +kernel)⟩

end Resolver

end ServerLauncher
