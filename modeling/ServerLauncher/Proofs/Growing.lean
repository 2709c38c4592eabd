import ServerLauncher.Proofs.Resolving
import ServerLauncher.Proofs.Settling

/-!
# A tree that only grows

A `Session` is a resolver at work : it resolves, refreshes and looks up the newest server, and its
feed is replaced by others, in any order. If nobody else changes the tree, a step leaves it alone,
makes the directory of the cache, or makes the directory and puts one server there
(`Session.grown_step`). So whatever is in the tree stays there as it is, over any run of steps, and
the newest server never becomes an older one (`Session.run_grows`).
-/

namespace ServerLauncher

open FileTree

/-! ## Feeds -/

/-- The feed leaves the tree alone, whatever it answers. -/
structure Feed.Quiet (f : Feed) : Prop where
  latest : ∀ t, (f.latest.run t).tree = t
  content : ∀ a t, ((f.content a).run t).tree = t

namespace Feed.Quiet

variable {f : Feed} {t : FileTree}

theorem run_latest (h : f.Quiet) {result : Except (Halt FeedError) Release}
    (hresult : (f.latest.run t).result = result) :
    f.latest.run t = ⟨result, t, (f.latest.run t).events⟩ := by
  have htree := h.latest t
  generalize f.latest.run t = o at hresult htree ⊢
  rw [← hresult, ← htree]

theorem run_content (h : f.Quiet) {a : Asset} {result : Except (Halt FeedError) Bytes}
    (hresult : ((f.content a).run t).result = result) :
    (f.content a).run t = ⟨result, t, ((f.content a).run t).events⟩ := by
  have htree := h.content a t
  generalize (f.content a).run t = o at hresult htree ⊢
  rw [← hresult, ← htree]

end Feed.Quiet

/-- Asked on the tree `t`, the feed has a release of version `v`, and `data` for the first file that
holds the program for this machine. -/
def Resolver.Offers (r : Resolver) (t : FileTree) (v : Version) (data : Bytes) : Prop :=
  ∃ rel a, (r.feed.latest.run t).result = .ok rel ∧ Version.parse? rel.tag = some v ∧
    rel.IsFirst r.assetName a ∧ ((r.feed.content a).run t).result = .ok data

/-! ## Growth -/

/-- The trees that a cache can make of a tree : the same, the one with its directory, and one with a
server added to that, of a version and with a content that fulfil `P`. -/
inductive Cache.Grown (c : Cache) (P : Version → Bytes → Prop) (t : FileTree) : FileTree → Prop
  | same : Grown c P t t
  | dir : Grown c P t (c.ensureDir.run t).tree
  | server {v data t'} (h : P v data)
      (hadds : (c.ensureDir.run t).tree.AddsFile (c.pathFor v) serverMode data t') :
      Grown c P t t'

variable {c : Cache} {P : Version → Bytes → Prop} {r : Resolver} {t t' u : FileTree} {v : Version}
  {data : Bytes} {ss : List CachedServer}

namespace Cache

theorem grown_store (h : ((c.store v data).run t).result = .ok (c.pathFor v) → P v data) :
    c.Grown P t ((c.store v data).run t).tree := by
  rcases c.adds_store v data t with htree | ⟨hresult, hadds⟩
  · rw [htree]
    exact .dir
  · exact .server (h hresult) hadds

theorem Grown.imp {Q : Version → Bytes → Prop} (h : c.Grown P t t')
    (hPQ : ∀ v data, P v data → Q v data) : c.Grown Q t t' := by
  cases h with
  | same => exact .same
  | dir => exact .dir
  | server hP hadds => exact .server (hPQ _ _ hP) hadds

/-- What grows from the tree with the directory also does from the one before. -/
theorem Grown.of_ensureDir (hens : (c.ensureDir.run t).result = .ok ())
    (h : c.Grown P (c.ensureDir.run t).tree t') : c.Grown P t t' := by
  obtain ⟨-, htree⟩ := ensureDir_again hens
  cases h with
  | same => exact .dir
  | dir =>
    rw [htree]
    exact .dir
  | server hP hadds =>
    rw [htree] at hadds
    exact .server hP hadds

theorem Grown.extends (h : c.Grown P t t') : t' = t ∨ (c.ensureDir.run t).tree.Extends t' := by
  cases h with
  | same => exact Or.inl rfl
  | dir => exact Or.inr (Extends.refl _)
  | server _ hadds => exact Or.inr hadds.extends

/-- Either directories are all that is new, or there are some directories and a server. -/
theorem Grown.adds (h : c.Grown P t t') : t.AddsDirs c.dir.IsAbove t' ∨
    ∃ v data u, P v data ∧ t.AddsDirs c.dir.IsAbove u ∧
      u.AddsFile (c.pathFor v) serverMode data t' := by
  cases h with
  | same => exact Or.inl (AddsDirs.refl _ t)
  | dir => exact Or.inl (c.addsDirs_ensureDir t)
  | server hP hadds => exact Or.inr ⟨_, _, _, hP, c.addsDirs_ensureDir t, hadds⟩

/-! ## The newest server -/

/-- The servers in the directory are still there once more has been added. -/
theorem servers_of_extends (h : c.servers t = .ok ss) (hext : t.Extends t') :
    ∃ ss', c.servers t' = .ok ss' ∧ ∀ s ∈ ss, s ∈ ss' := by
  obtain ⟨d, hd, rfl⟩ := servers_eq_ok_iff.mp h
  refine ⟨c.serversIn t' d, servers_eq_ok_iff.mpr ⟨d, find_dir_of_keeps hd hext.keeps, rfl⟩, ?_⟩
  intro s hs
  obtain ⟨n, hn, hv, hpath, hfile⟩ := mem_serversIn_iff.mp hs
  obtain ⟨node, hnode⟩ := (mem_names n d).mp hn
  exact mem_serversIn_iff.mpr ⟨n, (mem_names n d).mpr ⟨node, hext.at? _ _ hnode⟩, hv, hpath,
    isFile_of_extends hfile hext⟩

/-- What is listed are the servers of the directory, once it has been made. -/
theorem servers_of_list (h : (c.list.run t).result = .ok ss) :
    c.servers (c.ensureDir.run t).tree = .ok ss := by
  obtain ⟨-, hd⟩ := result_list_eq_ok_iff.mp h
  rw [← tree_list]
  exact servers_eq_ok_iff.mpr hd

/-- A listed server is still listed once more has been added. -/
theorem mem_list_of_extends {ss' : List CachedServer} {s : CachedServer}
    (hlist : (c.list.run t).result = .ok ss) (hlist' : (c.list.run t').result = .ok ss')
    (hext : (c.ensureDir.run t).tree.Extends t') (hs : s ∈ ss) : s ∈ ss' := by
  have hgrown := hext.trans (c.addsDirs_ensureDir t').extends
  obtain ⟨ss'', hss'', hmem⟩ := servers_of_extends (servers_of_list hlist) hgrown
  obtain rfl := Except.ok.inj (hss''.symm.trans (servers_of_list hlist'))
  exact hmem s hs

/-- The newest server of a tree is not newer than that of a tree with more in it. -/
theorem latest_of_extends {o o' : Option CachedServer} (hlatest : (c.latest.run t).result = .ok o)
    (hlatest' : (c.latest.run t').result = .ok o')
    (hext : (c.ensureDir.run t).tree.Extends t') :
    ∀ s ∈ o, ∃ s' ∈ o', ¬s'.version.OlderThan s.version := by
  intro s hs
  have hlisted : ∀ {t o}, (c.latest.run t).result = .ok o →
      ∃ ss, (c.list.run t).result = .ok ss ∧ newest? ss = o := by
    intro t o h
    rw [(Resolver.latest_of_list c t).1] at h
    cases hl : (c.list.run t).result with
    | error e => simp [hl, Except.map] at h
    | ok ss => exact ⟨ss, rfl, by simpa [hl, Except.map] using h⟩
  obtain ⟨ss, hlist, rfl⟩ := hlisted hlatest
  obtain ⟨ss', hlist', rfl⟩ := hlisted hlatest'
  obtain ⟨hmem, -⟩ := Version.newestBy?_spec hs
  have hmem' := mem_list_of_extends hlist hlist' hext hmem
  obtain ⟨s', -, hs', hmax⟩ := Resolver.exists_newest? (List.ne_nil_of_mem hmem')
  exact ⟨s', hs', hmax s hmem'⟩

end Cache

/-! ## Sessions -/

/-- A resolver at work on a tree that its feed leaves alone. -/
structure Session where
  resolver : Resolver
  quiet : resolver.feed.Quiet
  tree : FileTree

namespace Session

/-- One thing that is done in a session. A refresh that is left to be done is waited for, or
cancelled ; as long as it waits for the feed it has done nothing to the tree. -/
inductive Step where
  | resolve (waits : Bool)
  | refresh (current : Version)
  | latest
  | replaceFeed (feed : Feed) (quiet : feed.Quiet)

/-- The session after a step. -/
def step (s : Session) : Step → Session
  | .resolve waits => { s with tree := ((s.resolver.resolveThen waits).run s.tree).tree }
  | .refresh current => { s with tree := ((s.resolver.refresh current).run s.tree).tree }
  | .latest => { s with tree := (s.resolver.cache.latest.run s.tree).tree }
  | .replaceFeed feed quiet => { s with resolver := s.resolver.withFeed feed, quiet := quiet }

/-- The session after a run of steps. -/
def run (s : Session) (steps : List Step) : Session :=
  steps.foldl step s

/-- A refresh that is made : against which version, whether the user is told, and on which tree it
begins. -/
structure Attempt where
  current : Version
  shows : Bool
  tree : FileTree

/-- What comes of a refresh that is made. -/
def Attempt.outcome (a : Attempt) (r : Resolver) :
    Outcome Event (Except (Halt ResolveError) Refreshed) :=
  (r.refreshWith a.shows a.current).run a.tree

/-- The refresh that a step makes, in front or in the background. -/
def attempt? (s : Session) : Step → Option Attempt
  | .resolve waits =>
    let o := s.resolver.cache.latest.run s.tree
    match s.resolver.debugBinary, o.result with
    | none, .ok none => some ⟨.zero, s.resolver.showsProgress, o.tree⟩
    | none, .ok (some found) => if waits then some ⟨found.version, false, o.tree⟩ else none
    | _, _ => none
  | .refresh current => some ⟨current, false, s.tree⟩
  | .latest | .replaceFeed _ _ => none

end Session

/-! ## One step -/

variable {shows : Bool} {current : Version} {ns : List Event}
  {res : Except (Halt ResolveError) Refreshed}

/-- With a feed that leaves the tree alone, a refresh makes of it what the store of something newer
makes of it. -/
theorem Refreshing.grown (hquiet : r.feed.Quiet) (h : Refreshing r shows current t ns res t') :
    r.cache.Grown (fun v data => current.OlderThan v ∧ r.Offers t v data ∧
      res = .ok (.downloaded ⟨v, r.cache.pathFor v⟩)) t t' := by
  have hlatest' : ∀ {result u es}, r.feed.latest.run t = ⟨result, u, es⟩ → t = u := by
    intro result u es hlatest
    rw [← hquiet.latest t, hlatest]
  have hcontent' : ∀ {a result u es}, (r.feed.content a).run t = ⟨result, u, es⟩ → t = u := by
    intro a result u es hcontent
    rw [← hquiet.content a t, hcontent]
  cases h with
  | noRelease hlatest | invalidTag hlatest | upToDate hlatest | noAsset hlatest =>
    obtain rfl := hlatest' hlatest
    exact .same
  | noContent hlatest hparse hnew hfirst hcontent =>
    obtain rfl := hlatest' hlatest
    obtain rfl := hcontent' hcontent
    exact .same
  | @notStored rel _ _ v a data _ _ e _ _ hlatest hparse hnew hfirst hcontent hstore =>
    obtain rfl := hlatest' hlatest
    obtain rfl := hcontent' hcontent
    rw [show t' = ((r.cache.store v data).run t).tree by rw [hstore]]
    exact Cache.grown_store fun hok => by rw [hstore] at hok; cases hok
  | @downloaded rel _ _ v a data _ _ p _ _ hlatest hparse hnew hfirst hcontent hstore =>
    obtain rfl := hlatest' hlatest
    obtain rfl := hcontent' hcontent
    have hoffers : r.Offers t v data :=
      ⟨rel, a, by rw [hlatest], hparse, hfirst, by rw [hcontent]⟩
    rw [show t' = ((r.cache.store v data).run t).tree by rw [hstore]]
    exact Cache.grown_store fun _ => ⟨hnew, hoffers, rfl⟩

namespace Session

variable {s : Session} {step : Step} {a : Attempt}

/-- A step that makes a refresh does nothing else to the tree but to list the cache before, and any
other step does nothing but to list it. -/
theorem tree_step (s : Session) (step : Step) :
    match s.attempt? step with
    | some a => (s.step step).tree = (a.outcome s.resolver).tree ∧
        (a.tree = s.tree ∨ (s.resolver.cache.ensureDir.run s.tree).result = .ok () ∧
          a.tree = (s.resolver.cache.ensureDir.run s.tree).tree)
    | none => (s.step step).tree = s.tree ∨
        (s.step step).tree = (s.resolver.cache.ensureDir.run s.tree).tree := by
  obtain ⟨hresult, htree⟩ := Resolver.latest_of_list s.resolver.cache s.tree
  have hleft := Cache.tree_list s.resolver.cache s.tree
  cases step with
  | refresh current => exact ⟨rfl, Or.inl rfl⟩
  | latest => exact Or.inr (htree.trans hleft)
  | replaceFeed => exact Or.inl rfl
  | resolve waits =>
    simp only [attempt?, hresult, htree]
    cases hdebug : s.resolver.debugBinary with
    | some p =>
      refine Or.inl ?_
      rw [Session.step, Resolver.resolveThen_of_not_pending waits
        (Resolver.run_resolve_of_debug hdebug s.tree)]
      intro resolution hok
      obtain rfl := Except.ok.inj hok
      rfl
    | none =>
      cases hlist : (s.resolver.cache.list.run s.tree).result with
      | error e =>
        refine Or.inr ?_
        rw [Session.step, Resolver.resolveThen_of_not_pending waits
          (Resolver.run_resolve_of_error hdebug hlist)]
        · exact hleft
        · intro resolution hok
          cases hok
      | ok ss =>
        have hens := (Cache.result_list_eq_ok_iff.mp hlist).1
        simp only [Except.map]
        cases hs : Cache.newest? ss with
        | none =>
          obtain rfl := (Version.newestBy?_eq_none_iff CachedServer.version ss).mp hs
          obtain ⟨-, hres, htree'⟩ := Resolver.resolve_of_empty hdebug hlist
          refine ⟨?_, Or.inr ⟨hens, hleft⟩⟩
          rw [Session.step, Resolver.resolveThen_of_not_pending waits rfl, htree']
          · rfl
          · intro resolution hok
            exact Resolver.pendingRefresh_of_resolutionOf (hres.symm.trans hok)
        | some found =>
          obtain ⟨hcancelled, -, hawaited, -⟩ := Resolver.resolveThen_of_pending
            (Resolver.run_resolve_of_listed hdebug hlist hs) rfl
          cases waits with
          | true => exact ⟨hawaited, Or.inr ⟨hens, hleft⟩⟩
          | false =>
            refine Or.inr ?_
            rw [Session.step, hcancelled]
            exact hleft

/-- A step makes the directory of the cache at most, and one server if its refresh ends in the
download of it. -/
theorem grown_step (s : Session) (step : Step) :
    s.resolver.cache.Grown (fun v data => ∃ a, s.attempt? step = some a ∧ a.current.OlderThan v ∧
        (a.outcome s.resolver).result = .ok (.downloaded ⟨v, s.resolver.cache.pathFor v⟩) ∧
        s.resolver.Offers a.tree v data)
      s.tree (s.step step).tree := by
  have htree := s.tree_step step
  cases ha : s.attempt? step with
  | none =>
    rw [ha] at htree
    rcases htree with htree | htree
    · rw [htree]
      exact .same
    · rw [htree]
      exact .dir
  | some a =>
    rw [ha] at htree
    obtain ⟨htree, hbegins⟩ := htree
    have hrules : Refreshing s.resolver a.shows a.current a.tree _ (a.outcome s.resolver).result
        (s.step step).tree := refreshing_iff.mpr ⟨rfl, rfl, htree.symm⟩
    have hgrown := (hrules.grown s.quiet).imp (Q := fun v data => ∃ a', some a = some a' ∧
        a'.current.OlderThan v ∧
        (a'.outcome s.resolver).result = .ok (.downloaded ⟨v, s.resolver.cache.pathFor v⟩) ∧
        s.resolver.Offers a'.tree v data)
      fun v data ⟨hnew, hoffers, hresult⟩ => ⟨a, rfl, hnew, hresult, hoffers⟩
    rcases hbegins with hsame | ⟨hens, hdir⟩
    · rwa [hsame] at hgrown
    · rw [hdir] at hgrown
      exact hgrown.of_ensureDir hens

/-! ## Runs -/

theorem cache_step (s : Session) (step : Step) :
    (s.step step).resolver.cache = s.resolver.cache := by
  cases step <;> rfl

/-- After a run, the tree is the same or it has all that was there once the directory of the cache
had been made. -/
theorem extends_run (s : Session) (steps : List Step) :
    (s.run steps).resolver.cache = s.resolver.cache ∧
      ((s.run steps).tree = s.tree ∨
        (s.resolver.cache.ensureDir.run s.tree).tree.Extends (s.run steps).tree) := by
  induction steps generalizing s with
  | nil => exact ⟨rfl, Or.inl rfl⟩
  | cons step steps ih =>
    obtain ⟨hcache, hext⟩ := ih (s.step step)
    have hstep := (s.grown_step step).extends
    rw [cache_step] at hcache hext
    refine ⟨hcache, ?_⟩
    rcases hstep with hsame | hstep
    · rwa [hsame] at hext
    · refine Or.inr (hstep.trans ?_)
      rcases hext with hsame | hext
      · exact hsame ▸ Extends.refl _
      · exact (s.resolver.cache.addsDirs_ensureDir _).extends.trans hext

/-- Over any run of steps, what is in the tree stays there as it is. A step makes directories on the
way to the cache, and beyond that at most one file : the server that its refresh has downloaded, in
its place, executable and with the content that the feed gave. The newest server that a listing
finds is never older than the one that an earlier listing found. -/
theorem run_grows (s : Session) (before after : List Step) :
    let c := s.resolver.cache
    let u := s.run before
    let w := s.run (before ++ after)
    u.tree.Extends w.tree ∧
    (∀ step, u.tree.AddsDirs c.dir.IsAbove (u.step step).tree ∨
      ∃ a v data t, u.attempt? step = some a ∧
        (a.outcome u.resolver).result = .ok (.downloaded ⟨v, c.pathFor v⟩) ∧
        u.resolver.Offers a.tree v data ∧ u.tree.AddsDirs c.dir.IsAbove t ∧
        t.AddsFile (c.pathFor v) serverMode data (u.step step).tree) ∧
    (∀ o o', (c.latest.run u.tree).result = .ok o → (c.latest.run w.tree).result = .ok o' →
      ∀ x ∈ o, ∃ y ∈ o', ¬y.version.OlderThan x.version) := by
  intro c u w
  have hcache : u.resolver.cache = c := (s.extends_run before).1
  have hw : w = u.run after := List.foldl_append ..
  obtain ⟨-, hext⟩ := u.extends_run after
  rw [hcache, ← hw] at hext
  refine ⟨?_, fun step => ?_, fun o o' ho ho' x hx => ?_⟩
  · rcases hext with hsame | hext
    · rw [hsame]
      exact Extends.refl _
    · exact (c.addsDirs_ensureDir _).extends.trans hext
  · have hgrown := (u.grown_step step).adds
    rw [hcache] at hgrown
    refine hgrown.imp_right ?_
    rintro ⟨v, data, t, ⟨a, ha, -, hresult, hoffers⟩, hdirs, hfile⟩
    exact ⟨a, v, data, t, ha, hresult, hoffers, hdirs, hfile⟩
  · rcases hext with hsame | hext
    · rw [hsame, ho] at ho'
      obtain rfl := Except.ok.inj ho'
      exact ⟨x, hx, Version.not_olderThan_self _⟩
    · exact Cache.latest_of_extends ho ho' hext x hx

/-- A session that begins with nothing in the tree. -/
def sample : Session where
  resolver := Resolver.sample Cache.sample
  quiet := ⟨fun _ => rfl, fun _ _ => rfl⟩
  tree := FileTree.empty

/-- A step with a feed that breaks down. -/
def brokenSteps : List Step :=
  [.replaceFeed Resolver.brokenFeed ⟨fun _ => rfl, fun _ _ => rfl⟩, .resolve true]

/-- The server that the first step downloads is still the newest after a step with a feed that
breaks down. -/
theorem newest_of_sample_run :
    (sample.resolver.cache.latest.run (sample.run [.resolve true]).tree).result =
        .ok (some ⟨⟨2, 0, 0⟩, .ofString "bin/server.v2.0.0"⟩) ∧
      ∃ y, (sample.resolver.cache.latest.run
          (sample.run ([.resolve true] ++ brokenSteps)).tree).result = .ok (some y) ∧
        ¬y.version.OlderThan ⟨2, 0, 0⟩ := by
  have hfirst : (sample.resolver.cache.latest.run (sample.run [.resolve true]).tree).result =
      .ok (some ⟨⟨2, 0, 0⟩, .ofString "bin/server.v2.0.0"⟩) := by
    decide +kernel
  have hlast : (sample.resolver.cache.latest.run
      (sample.run ([.resolve true] ++ brokenSteps)).tree).result =
      .ok (some ⟨⟨2, 0, 0⟩, .ofString "bin/server.v2.0.0"⟩) := by
    decide +kernel
  obtain ⟨-, -, hnewest⟩ := run_grows sample [.resolve true] brokenSteps
  obtain ⟨y, hy, hnot⟩ := hnewest _ _ hfirst hlast _ rfl
  exact ⟨hfirst, y, by rw [hlast, hy], hnot⟩

end Session

end ServerLauncher
