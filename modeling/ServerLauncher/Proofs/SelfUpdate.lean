import ServerLauncher.Command
import ServerLauncher.Proofs.WebFeed

/-!
# Keeping itself up to date

A launcher that resolves or updates can download a server. `SelfUpdate` tells all that such an order
leaves of a tree : the log is made sure of, then the directory of the cache, and then there is at
most one file more. That file is a server that is published on the web, taken in full, under a
version that is newer than all that was there (`Launcher.selfUpdate_of_run`).
-/

namespace ServerLauncher

open FileTree

/-! ## The log -/

namespace FileTree

/-- The later tree is the same, or it has an empty file more, to which the path leads. -/
inductive Opens (p : Path) (mode : Nat) (t : FileTree) : FileTree → Prop
  | same : Opens p mode t t
  | new {e t'} (hw : t'.workDir = t.workDir) (hentries : t'.entries = t.entries ++ [e])
      (hnode : e.node = .file mode []) (hfind : t'.find p = .ok (e.place, .file mode [])) :
      Opens p mode t t'

variable {t t' : FileTree} {p : Path} {mode : Nat}

theorem opens_openForAppend (h : t.openForAppend p mode = .ok t') : t.Opens p mode t' := by
  unfold openForAppend at h
  split at h
  case h_1 | h_4 => cases h
  case h_2 d n hwalk =>
    cases hadd : t.add? d n (.file mode []) with
    | none => simp [hadd, orNotFound] at h
    | some t₁ =>
      rw [hadd, orNotFound] at h
      obtain rfl := Except.ok.inj h
      obtain ⟨-, hentries, hw⟩ := add?_eq_some_iff.mp hadd
      obtain ⟨ss, hss, hl⟩ := walk_eq_ok_iff.mp hwalk
      have hat : t₁.at? (n :: d) = some (.file mode []) := by rw [at?_add? hadd, if_pos rfl]
      refine .new hw hentries rfl (find_eq_ok_iff.mpr (walk_eq_ok_iff.mpr ⟨ss, hss, ?_⟩))
      exact hw ▸ hl.of_free (extends_of_add? hadd).keeps hat
  case h_3 =>
    split at h
    case isTrue => cases h
    case isFalse =>
      obtain rfl := Except.ok.inj h
      exact .same

theorem Opens.extends (h : t.Opens p mode t') : t.Extends t' := by
  cases h with
  | same => exact Extends.refl _
  | new hw hentries => exact extends_of_entries hw hentries

end FileTree

/-- The log has been made sure of : its directory, and in that the file. -/
def Environment.Logs (env : Environment) (t w : FileTree) : Prop :=
  ∃ u, t.AddsDirs env.dataDir.IsAbove u ∧ u.Opens env.logPath 0o644 w

theorem Environment.Logs.extends {env : Environment} {t w : FileTree} (h : env.Logs t w) :
    t.Extends w := by
  obtain ⟨u, hdirs, hopens⟩ := h
  exact hdirs.extends.trans hopens.extends

/-! ## Versions that are newer than the cache -/

/-- Whatever the cache holds is older than `v`, and so is `0.0.0`. -/
def Cache.IsBehind (c : Cache) (t : FileTree) (v : Version) : Prop :=
  Version.zero.OlderThan v ∧ ∀ ss, c.servers t = .ok ss → ∀ s ∈ ss, s.version.OlderThan v

namespace Cache

variable {c : Cache} {t u : FileTree} {v : Version} {ss : List CachedServer}

/-- A cache that is behind was so when there was less in it. -/
theorem IsBehind.of_extends (h : c.IsBehind u v) (hext : t.Extends u) : c.IsBehind t v := by
  obtain ⟨hzero, hall⟩ := h
  refine ⟨hzero, fun ss hss s hs => ?_⟩
  obtain ⟨ss', hss', hmem⟩ := servers_of_extends hss hext
  exact hall ss' hss' s (hmem s hs)

/-- The version of the newest server, or `0.0.0` if there is none. -/
def newestVersion (ss : List CachedServer) : Version :=
  ((newest? ss).map CachedServer.version).getD .zero

/-- What is newer than the newest server is newer than all, and than `0.0.0`. -/
theorem newestVersion_olderThan_iff : (newestVersion ss).OlderThan v ↔
    Version.zero.OlderThan v ∧ ∀ s ∈ ss, s.version.OlderThan v := by
  rcases eq_or_ne ss [] with rfl | hss
  · simp [newestVersion, newest?, Version.newestBy?]
  · obtain ⟨s, hmem, hs, hmax⟩ := Resolver.exists_newest? hss
    rw [newestVersion, hs, Option.map_some, Option.getD_some]
    refine ⟨fun hnew => ⟨Version.zero_olderThan hnew, fun s' hs' => ?_⟩, fun h => h.2 s hmem⟩
    by_contra hnot
    exact Version.not_olderThan_trans (hmax s' hs') hnot hnew

/-- What is newer than the newest server that is listed is newer than all that were there. -/
theorem isBehind_of_list (hlist : (c.list.run t).result = .ok ss)
    (hnew : (newestVersion ss).OlderThan v) : c.IsBehind t v := by
  obtain ⟨hzero, hall⟩ := newestVersion_olderThan_iff.mp hnew
  refine IsBehind.of_extends ⟨hzero, fun ss' hss' s hs => ?_⟩ (c.addsDirs_ensureDir t).extends
  obtain rfl := Except.ok.inj ((servers_of_list hlist).symm.trans hss')
  exact hall s hs

end Cache

/-! ## Tasks that may download -/

/-- The refresh of a resolution is against the newest server that is listed. -/
theorem Session.current_of_attempt? {s : Session} {waits : Bool} {a : Attempt}
    (h : s.attempt? (.resolve waits) = some a) :
    ∃ ss, (s.resolver.cache.list.run s.tree).result = .ok ss ∧
      a.current = Cache.newestVersion ss := by
  obtain ⟨hresult, -⟩ := Resolver.latest_of_list s.resolver.cache s.tree
  simp only [attempt?, hresult] at h
  cases hlist : (s.resolver.cache.list.run s.tree).result with
  | error e => simp [hlist, Except.map] at h
  | ok ss =>
    refine ⟨ss, rfl, ?_⟩
    cases hdebug : s.resolver.debugBinary with
    | some p => simp [hdebug] at h
    | none =>
      cases hs : Cache.newest? ss with
      | none =>
        simp only [hdebug, hlist, Except.map, hs, Option.some.injEq] at h
        simp [← h, Cache.newestVersion, hs]
      | some found =>
        simp only [hdebug, hlist, Except.map, hs, Option.ite_none_right_eq_some,
          Option.some.injEq] at h
        simp [← h.2, Cache.newestVersion, hs]

namespace Resolver

variable {r : Resolver} {t : FileTree}

/-- The feed has `data` for a version that the cache is behind. -/
def HasNewer (r : Resolver) (t : FileTree) (v : Version) (data : Bytes) : Prop :=
  r.cache.IsBehind t v ∧ ∃ u, r.Offers u v data

/-- A resolution makes of the tree what a store makes of it, if there is something newer. -/
theorem grown_resolveThen (hquiet : r.feed.Quiet) (waits : Bool) (t : FileTree) :
    r.cache.Grown (r.HasNewer t) t ((r.resolveThen waits).run t).tree := by
  refine (Session.grown_step ⟨r, hquiet, t⟩ (.resolve waits)).imp ?_
  rintro v data ⟨a, ha, hnew, -, hoffers⟩
  obtain ⟨ss, hlist, hcurrent⟩ := Session.current_of_attempt? ha
  exact ⟨Cache.isBehind_of_list hlist (hcurrent ▸ hnew), a.tree, hoffers⟩

end Resolver

namespace Launcher

variable {r : Resolver} {t : FileTree}

theorem tree_resolve (r : Resolver) (detach : Bool) (t : FileTree) :
    ((resolve r detach).run t).tree = ((r.resolveThen !detach).run t).tree := by
  simp only [resolve, resolveLogged, Resolver.resolveThen, Act.andThen, Act.run_bind]
  rcases (r.resolve.run t).result with (e | -) | ⟨p, origin, _ | current⟩
  · rfl
  · rfl
  · rfl
  · cases detach <;> rfl

theorem tree_update {ss : List CachedServer} (hlist : (r.cache.list.run t).result = .ok ss) :
    ((update r).run t).tree =
      ((r.refresh (Cache.newestVersion ss)).run (r.cache.list.run t).tree).tree := by
  obtain ⟨hresult, htree⟩ := Resolver.latest_of_list r.cache t
  simp only [update, Act.run_bind, hresult, hlist, htree, Except.map]
  rw [show ((Cache.newest? ss).map CachedServer.version).getD default =
    Cache.newestVersion ss from rfl]
  rcases ((r.refresh (Cache.newestVersion ss)).run (r.cache.list.run t).tree).result with
    h | s | latest <;> rfl

/-- An update makes of the tree what a store makes of it, if there is something newer. -/
theorem grown_update (hquiet : r.feed.Quiet) (t : FileTree) :
    r.cache.Grown (r.HasNewer t) t ((update r).run t).tree := by
  cases hlist : (r.cache.list.run t).result with
  | error e =>
    obtain ⟨hresult, htree⟩ := Resolver.latest_of_list r.cache t
    simp only [update, Act.run_bind, hresult, hlist, htree, Except.map, Act.run_pure,
      Cache.tree_list]
    exact .dir
  | ok ss =>
    have hens := (Cache.result_list_eq_ok_iff.mp hlist).1
    have hrules : Refreshing r false (Cache.newestVersion ss) (r.cache.list.run t).tree _ _
        ((update r).run t).tree := refreshing_iff.mpr ⟨rfl, rfl, (tree_update hlist).symm⟩
    have hgrown := hrules.grown hquiet
    rw [Cache.tree_list] at hgrown
    refine (hgrown.of_ensureDir hens).imp fun v data ⟨hnew, hoffers, _⟩ => ?_
    exact ⟨Cache.isBehind_of_list hlist hnew, _, hoffers⟩

end Launcher

/-! ## Whole runs -/

/-- The cache that the settings ask for. -/
def Settings.cacheOf (s : Surroundings) (c : Settings) : Cache :=
  ⟨s.env.cacheDir c, c.binaryName⟩

/-- What an order that may download makes of the tree `t`, whichever way it ends. -/
inductive SelfUpdate (s : Surroundings) (o : Order) (t : FileTree) : FileTree → Prop
  /-- The log is made sure of, and that is all. -/
  | logged {w} (hlogs : s.env.Logs t w) : SelfUpdate s o t w
  /-- The settings are read, and the directory of the cache is made as far as it can be. -/
  | listed {w c t'} (hlogs : s.env.Logs t w)
      (hsettings : ((Launcher.loadSettings s.env o).run w).result = .ok c)
      (hdirs : w.AddsDirs (c.cacheOf s).dir.IsAbove t') : SelfUpdate s o t t'
  /-- A server is put there that is newer than all that were, with what is published for it. -/
  | stored {w c u v data t'} (hlogs : s.env.Logs t w)
      (hsettings : ((Launcher.loadSettings s.env o).run w).result = .ok c)
      (hdirs : w.AddsDirs (c.cacheOf s).dir.IsAbove u)
      (hfile : u.AddsFile ((c.cacheOf s).pathFor v) serverMode data t')
      (hbehind : (c.cacheOf s).IsBehind t v)
      (hpublished :
        ReleaseApi.Publishes s.web c.feed (s.target.assetName c.binaryName) v data) :
      SelfUpdate s o t t'

namespace Launcher

variable {s : Surroundings} {r : Resolver} {t w : FileTree} {o : Order} {c : Settings}

theorem logs_openLog (s : Surroundings) (t : FileTree) : s.env.Logs t ((openLog s).run t).tree := by
  have hdirs := addsDirs_createDirs t s.env.dataDir
  simp only [openLog, Act.run_bind, Act.changeAnyway]
  split
  case h_1 => exact ⟨_, hdirs, .same⟩
  case h_2 =>
    simp only [Act.run_bind, Act.change]
    cases hopen : (t.createDirs s.env.dataDir).1.openForAppend s.env.logPath 0o644 with
    | error e => exact ⟨_, hdirs, .same⟩
    | ok w =>
      refine ⟨_, hdirs, ?_⟩
      simp only
      split <;> exact opens_openForAppend hopen

theorem tree_loadSettings (env : Environment) (o : Order) (t : FileTree) :
    ((loadSettings env o).run t).tree = t := by
  simp only [loadSettings, Act.run_bind, Act.look]
  split <;> rfl

theorem exists_of_resolver? (h : resolver? s c = some r) :
    ReleaseApi.feed? s.web c.feed = some r.feed ∧ r.cache = c.cacheOf s ∧
      r.assetName = s.target.assetName c.binaryName := by
  obtain ⟨feed, hfeed, rfl⟩ := Option.map_eq_some_iff.mp h
  exact ⟨hfeed, rfl, rfl⟩

theorem grown_perform {task : Task} (hquiet : r.feed.Quiet)
    (htask : task = .update ∨ ∃ detach, task = .resolve detach) (t : FileTree) :
    r.cache.Grown (r.HasNewer t) t ((perform s r task).run t).tree := by
  rcases htask with rfl | ⟨detach, rfl⟩
  · exact grown_update hquiet t
  · rw [perform, tree_resolve]
    exact Resolver.grown_resolveThen hquiet _ t

/-- Wherever it fails, an order that resolves or updates leaves no more than that. -/
theorem selfUpdate_carryOut {task : Task} (s : Surroundings) (o : Order) (t : FileTree)
    (htask : task = .update ∨ ∃ detach, task = .resolve detach) :
    SelfUpdate s o t ((carryOut s { o with task := task }).run t).tree := by
  have hlogs := logs_openLog s t
  have hsame : loadSettings s.env { o with task := task } = loadSettings s.env o := rfl
  simp only [carryOut, Act.andThen, Act.run_bind, hsame]
  cases ((openLog s).run t).result with
  | error h => exact .logged hlogs
  | ok =>
    simp only [Act.run_bind, tree_loadSettings]
    generalize ((openLog s).run t).tree = w at hlogs
    cases hsettings : ((loadSettings s.env o).run w).result with
    | error h => exact .logged hlogs
    | ok c =>
      simp only
      cases hresolver : resolver? s c with
      | none => exact .logged hlogs
      | some r =>
        obtain ⟨hfeed, hcache, hasset⟩ := exists_of_resolver? hresolver
        have hgrown := grown_perform (s := s) (ReleaseApi.quiet_feed hfeed) htask w
        rcases hgrown.adds with hdirs | ⟨v, data, u, ⟨hbehind, u', hoffers⟩, hdirs, hfile⟩
        · exact .listed hlogs hsettings (hcache ▸ hdirs)
        · have hpublished := ReleaseApi.publishes_of_offers hfeed hoffers
          rw [hcache] at hdirs hfile hbehind
          rw [hasset] at hpublished
          exact .stored hlogs hsettings hdirs hfile (hbehind.of_extends hlogs.extends) hpublished

theorem tree_run {arguments : List Bytes} (h : CommandLine.parse arguments = .order o)
    (t : FileTree) : ((run s arguments).run t).tree = ((carryOut s o).run t).tree := by
  simp only [run, h, Act.run_bind]
  rcases ((carryOut s o).run t).result with (f | -) | code <;> rfl

/-- A run that resolves or updates puts no file into the tree but the log and at most one server,
whatever the web answers, and in whatever way it ends. The server lies in the place of its version,
is executable, and is newer than every server that was in the cache before. It is published under
that version : the answers that gave the release document and the file were successes, and their
bodies came in full. So where a connection fails, an answer is no success or breaks off, or the
document or its tag cannot be read, no server is there that was not before.

A resolution with `detach` abandons its refresh. If that is done ahead of the end all the same, it
leaves what it leaves without `detach`. -/
theorem selfUpdate_of_run (s : Surroundings) (t t' : FileTree) {arguments : List Bytes} {o : Order}
    (hparse : CommandLine.parse arguments = .order o)
    (htask : o.task = .update ∨ ∃ detach, o.task = .resolve detach)
    (hends : t' = ((run s arguments).run t).tree ∨ o.task = .resolve true ∧
      t' = ((carryOut s { o with task := .resolve false }).run t).tree) :
    SelfUpdate s o t t' := by
  rcases hends with rfl | ⟨-, rfl⟩
  · rw [tree_run hparse]
    exact selfUpdate_carryOut s o t htask
  · exact selfUpdate_carryOut s o t (Or.inr ⟨false, rfl⟩)

/-- A release of version `1.2.3` with one file. -/
def sampleDocument : String :=
  "\x7b\"tag_name\":\"v1.2.3\",\"assets\":[\x7b" ++
    "\"name\":\"ruulang-server.x86_64-unknown-linux-gnu\",\"url\":\"https://host/s\"\x7d]\x7d"

/-- Answers for the release, whose file has two bytes. -/
def sampleRoutes : RouteTable := [
  ⟨"/repos/zwade/ruulang/releases/latest", 200, [], Utf8.encode sampleDocument, none⟩,
  ⟨"/s", 200, [], [2, 3], none⟩]

/-- A launcher that has its data in `d`, on a web that gives these answers everywhere. -/
def sampleSurroundings : Surroundings where
  env := ⟨some (Utf8.encode "d"), none, .ofString "h", none, none, .ofString "p"⟩
  vars := []
  input := []
  web := fun u => some (sampleRoutes.answer u.target).message
  machine := ⟨fun _ => none, []⟩
  target := ⟨.x86_64, .linuxGnu⟩
  processId := 1

/-- Without arguments and with nothing to begin with, a run resolves, and ends with the server of
the release in its place. -/
theorem selfUpdate_sample :
    CommandLine.parse [] = .order ⟨none, none, .resolve false⟩ ∧
      SelfUpdate sampleSurroundings ⟨none, none, .resolve false⟩ FileTree.empty
        ((run sampleSurroundings []).run FileTree.empty).tree ∧
      (((run sampleSurroundings []).run FileTree.empty).tree.find
        (.ofString "d/ruulang/bin/ruulang-server.v1.2.3")).map Prod.snd =
          .ok (.file serverMode [2, 3]) := by
  have hparse : CommandLine.parse [] = .order ⟨none, none, .resolve false⟩ := by decide +kernel
  refine ⟨hparse, ?_, by decide +kernel⟩
  exact selfUpdate_of_run sampleSurroundings FileTree.empty _ hparse (Or.inr ⟨false, rfl⟩)
    (Or.inl rfl)

end Launcher

end ServerLauncher
