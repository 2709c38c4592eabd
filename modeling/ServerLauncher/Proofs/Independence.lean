import ServerLauncher.Proofs.HandOver

/-!
# What a run does not depend on

A command other than the one that runs the server prints nothing unless it succeeds
(`Launcher.output_of_failed`). The list command never asks the feed, so it does the same on any web
(`Launcher.run_list_onWeb`). With a server in the cache, the resolve command prints the same path on
any web, whether it waits for the refresh or not (`Launcher.run_resolve_onWeb`). Which servers those
are is found when the log has been made sure of : a directory that is listed before that need not be
listed afterwards (`Launcher.listed_before_log`), though one that is there from the start is.
-/

namespace ServerLauncher

/-! ## Events without the feed -/

/-- The event has nothing to do with the feed. -/
def Event.IsOwn : Event → Prop
  | .askRelease | .askAsset _ | .feed _ => False
  | _ => True

namespace Event

variable {e : Event}

theorem IsLog.isOwn (h : e.IsLog) : e.IsOwn := by
  cases e with
  | log record => trivial
  | _ => exact h.elim

theorem IsErrorOutput.isOwn (h : e.IsErrorOutput) : e.IsOwn := by
  cases e with
  | errorOutput data => trivial
  | _ => exact h.elim

end Event

theorem feedCalls_eq_nil {es : List Event} (h : ∀ e ∈ es, e.IsOwn) : feedCalls es = [] := by
  rw [feedCalls, List.filter_eq_nil_iff]
  intro e he
  have hown := h e he
  cases e <;> first | exact hown.elim | simp

theorem requests_eq_nil {es : List Event} (h : ∀ e ∈ es, e.IsOwn) : requests es = [] := by
  rw [requests, List.filterMap_eq_nil_iff]
  intro e he
  have hown := h e he
  cases e <;> first | exact hown.elim | rfl

/-- The same surroundings on another web. -/
def Surroundings.onWeb (s : Surroundings) (web : Web) : Surroundings :=
  { s with web := web }

/-! ## The choice from the cache -/

/-- The path that is taken where these servers are in the cache. -/
def chosen? (debugBinary : Option Path) (ss : List CachedServer) : Option Path :=
  debugBinary.or ((Cache.newest? ss).map CachedServer.path)

theorem exists_chosen? (debugBinary : Option Path) {ss : List CachedServer} (h : ss ≠ []) :
    ∃ p, chosen? debugBinary ss = some p := by
  obtain ⟨server, -, hserver, -⟩ := Resolver.exists_newest? h
  cases debugBinary with
  | none => exact ⟨server.path, by simp [chosen?, hserver]⟩
  | some p => exact ⟨p, rfl⟩

/-- A resolution takes that path, whatever the feed is. -/
theorem Resolver.exists_resolution {r : Resolver} {t : FileTree} {ss : List CachedServer} {p : Path}
    (hlist : (r.cache.list.run t).result = .ok ss) (hp : chosen? r.debugBinary ss = some p) :
    ∃ resolution, (r.resolve.run t).result = .ok resolution ∧ resolution.path = p := by
  cases hdebug : r.debugBinary with
  | none =>
    rw [hdebug, chosen?, Option.none_or] at hp
    obtain ⟨server, hserver, rfl⟩ := Option.map_eq_some_iff.mp hp
    exact ⟨_, by rw [run_resolve_of_listed hdebug hlist hserver], rfl⟩
  | some q =>
    rw [hdebug] at hp
    obtain rfl : q = p := Option.some.inj hp
    exact ⟨_, by rw [run_resolve_of_debug hdebug], rfl⟩

namespace Launcher

open Act

variable {s : Surroundings} {o : Order} {t : FileTree} {c : Settings} {r : Resolver}
  {ss : List CachedServer} {arguments : List Bytes}

/-! ## Failures -/

/-- A task other than to run the server succeeds, or it prints nothing. -/
theorem perform_succeeds_or_prints_nothing (s : Surroundings) (r : Resolver) {task : Task}
    (htask : ∀ workspace, task ≠ .run workspace) (t : FileTree) :
    ((perform s r task).run t).result = .ok success ∨
      standardOutput ((perform s r task).run t).events = [] := by
  cases task with
  | resolve detach =>
    cases hresolved : (r.resolve.run t).result with
    | error halt => exact .inr (resolve_of_error (Outcome.eq_of_result hresolved) detach).2
    | ok resolution => exact .inl (resolve_of_ok (Outcome.eq_of_result hresolved) detach).1
  | list =>
    cases hlist : (r.cache.list.run t).result with
    | error e => exact .inr (list_of_error hlist).2
    | ok ss => exact .inl (list_of_listed hlist).1
  | update =>
    cases hlist : (r.cache.list.run t).result with
    | error e => exact .inr (update_of_error hlist).2
    | ok ss =>
      obtain ⟨hresult, -, houtput⟩ := update_of_listed hlist
      cases hrefresh :
          ((r.refresh (Cache.newestVersion ss)).run (r.cache.list.run t).tree).result with
      | error halt =>
        rw [hrefresh] at houtput
        exact .inr houtput
      | ok refreshed =>
        rw [hrefresh] at hresult
        exact .inl hresult
  | run workspace => exact absurd rfl (htask workspace)

/-- A run that does not succeed has printed nothing, unless it runs the server. -/
theorem output_of_failed
    (htask : ∀ o workspace, CommandLine.parse arguments = .order o → o.task ≠ .run workspace)
    (hfailed : ((run s arguments).run t).result ≠ success) :
    standardOutput ((run s arguments).run t).events = [] := by
  cases hparse : CommandLine.parse arguments with
  | mistake =>
    rw [run, hparse]
    rfl
  | help =>
    rw [run, hparse] at hfailed
    exact absurd rfl hfailed
  | version =>
    rw [run, hparse] at hfailed
    exact absurd rfl hfailed
  | order o =>
    by_cases hbegins : ∃ c, Begins s o t c
    · obtain ⟨c, hbegins⟩ := hbegins
      obtain ⟨r, hr⟩ := hbegins.exists_resolver
      obtain ⟨hresult, houtput⟩ := run_of_begins hparse hbegins hr
      rw [houtput]
      refine (perform_succeeds_or_prints_nothing s r (fun w => htask o w hparse) _).resolve_left ?_
      intro hsuccess
      rw [hresult, hsuccess] at hfailed
      exact hfailed rfl
    · exact (run_of_not_begins hparse (not_exists.mp hbegins)).2

/-! ## The list command -/

theorem shows_list (r : Resolver) : (list r).Shows Event.IsOwn := by
  refine (r.cache.shows_list.mono fun _ => Event.IsLog.isOwn).bind fun listed => ?_
  cases listed with
  | error e => exact shows_pure _
  | ok ss => exact (shows_emit trivial).bind fun _ => shows_pure _

theorem list_congr {r' : Resolver} (h : r.cache = r'.cache) : list r = list r' := by
  rw [list, list, h]

/-- Whether there is a resolver does not depend on the web, and neither do its cache and its
development build. -/
theorem exists_resolver?_onWeb (web : Web) (hr : resolver? s c = some r) :
    ∃ r', resolver? (s.onWeb web) c = some r' ∧ r'.cache = r.cache ∧
      r'.debugBinary = r.debugBinary := by
  have hsome : resolver? (s.onWeb web) c ≠ none := by
    rw [Ne, resolver?_eq_none_iff, ← resolver?_eq_none_iff (s := s), hr]
    exact Option.some_ne_none r
  obtain ⟨r', hr'⟩ := Option.ne_none_iff_exists'.mp hsome
  obtain ⟨hcache, hdebug⟩ := cache_of_resolver? hr
  obtain ⟨hcache', hdebug'⟩ := cache_of_resolver? hr'
  exact ⟨r', hr', hcache'.trans hcache.symm, hdebug'.trans hdebug.symm⟩

/-- On another web the list command is the same action. -/
theorem performWith_list_onWeb (web : Web) (htask : o.task = .list) :
    performWith (s.onWeb web) o = performWith s o := by
  funext c
  unfold performWith
  cases hr : resolver? s c with
  | none =>
    have hnone : resolver? (s.onWeb web) c = none :=
      resolver?_eq_none_iff.mpr (resolver?_eq_none_iff.mp hr)
    rw [hnone]
    rfl
  | some r =>
    obtain ⟨r', hr', hcache, -⟩ := exists_resolver?_onWeb web hr
    rw [hr', htask]
    exact list_congr hcache

theorem shows_carryOut_list (htask : o.task = .list) : (carryOut s o).Shows Event.IsOwn := by
  have hbreakDown : ∀ b, (breakDown s b : Act Event TaskResult).Shows Event.IsOwn :=
    fun b => (shows_breakDown b).mono fun _ => Event.IsErrorOutput.isOwn
  rw [carryOut_eq]
  refine ((shows_openLog s).mono fun _ => Event.IsErrorOutput.isOwn).andThen fun _ => ?_
  refine (shows_loadSettings s.env o).andThen fun c => ?_
  unfold performWith
  split
  · exact hbreakDown _
  · rw [htask]
    exact shows_list _

/-- On any web the list command does the same, and asks for nothing. -/
theorem run_list_onWeb (hparse : CommandLine.parse arguments = .order o) (htask : o.task = .list)
    (web : Web) (t : FileTree) :
    (run (s.onWeb web) arguments).run t = (run s arguments).run t ∧
      ∀ e ∈ ((run s arguments).run t).events, e.IsOwn := by
  have hsame : carryOut (s.onWeb web) o = carryOut s o := by
    rw [carryOut_eq, carryOut_eq, performWith_list_onWeb web htask]
    rfl
  rw [run_of_order hparse, run_of_order hparse, hsame]
  refine ⟨rfl, fun e he => ?_⟩
  rcases List.mem_append.mp he with he | he
  · exact shows_carryOut_list htask t e he
  · exact (isErrorOutput_of_mem_reportOf he).isOwn

/-! ## The resolve command -/

/-- How an order begins depends neither on the web nor on the task. -/
theorem Begins.onWeb (h : Begins s o t c) (web : Web) (task : Task) :
    Begins (s.onWeb web) { o with task := task } t c :=
  ⟨h.log, h.settings, h.userAgent⟩

/-- A cache that has a server from the start has one when it comes to the listing. -/
theorem exists_listed_afterLog {cache : Cache} (s : Surroundings) (h : cache.servers t = .ok ss)
    (hss : ss ≠ []) :
    ∃ ss', (cache.list.run (afterLog s t)).result = .ok ss' ∧ ss' ≠ [] := by
  obtain ⟨ss', hservers, hmem⟩ := Cache.servers_of_extends h (logs_openLog s t).extends
  obtain ⟨d, hd, rfl⟩ := Cache.servers_eq_ok_iff.mp hservers
  obtain ⟨server, hserver⟩ := List.exists_mem_of_ne_nil ss hss
  exact ⟨_, (Cache.list_of_find hd).1, List.ne_nil_of_mem (hmem server hserver)⟩

/-- With servers in the cache, the resolve command prints the same path on any web, whether it
waits or not. -/
theorem run_resolve_onWeb {p : Path} {detach : Bool} {web : Web} (h : Begins s o t c)
    (hlist : ((c.cacheOf s).list.run (afterLog s t)).result = .ok ss)
    (hp : chosen? (s.env.debugOverride c) ss = some p)
    (hparse : CommandLine.parse arguments = .order { o with task := .resolve detach }) :
    ((run (s.onWeb web) arguments).run t).result = success ∧
      standardOutput ((run (s.onWeb web) arguments).run t).events =
        Utf8.encode (p.display ++ "\n") := by
  have hbegins := h.onWeb web (.resolve detach)
  obtain ⟨r, hr⟩ := hbegins.exists_resolver
  obtain ⟨hcache, hdebug⟩ := cache_of_resolver? hr
  have hlist' : (r.cache.list.run (afterLog (s.onWeb web) t)).result = .ok ss := by
    rw [hcache]
    exact hlist
  have hp' : chosen? r.debugBinary ss = some p := by
    rw [hdebug]
    exact hp
  obtain ⟨resolution, hresolved, rfl⟩ := Resolver.exists_resolution hlist' hp'
  exact run_of_resolves hparse rfl ⟨hbegins, r, hr, hresolved⟩

/-! ## The whole -/

/-- Output and exit code depend on what they should. A run that does not run the server prints
nothing unless it succeeds. If an order begins, and the cache lists a server when the log has been
made sure of or has one from the start, the resolve command succeeds with the same output on any
web, detached or not. The list command does the same on any web, and asks for nothing. -/
theorem runs_independent (s : Surroundings) (t : FileTree) :
    (∀ arguments,
      (∀ o workspace, CommandLine.parse arguments = .order o → o.task ≠ .run workspace) →
      let out := (run s arguments).run t
      out.result ≠ success → standardOutput out.events = []) ∧
    (∀ o c ss, Begins s o t c →
      ((c.cacheOf s).list.run (afterLog s t)).result = .ok ss ∨ (c.cacheOf s).servers t = .ok ss →
      ss ≠ [] →
      ∃ p : Path, ∀ web detach arguments,
        CommandLine.parse arguments = .order { o with task := .resolve detach } →
        let out := (run (s.onWeb web) arguments).run t
        out.result = success ∧ standardOutput out.events = Utf8.encode (p.display ++ "\n")) ∧
    (∀ o arguments, CommandLine.parse arguments = .order o → o.task = .list → ∀ web,
      let out := (run (s.onWeb web) arguments).run t
      out = (run s arguments).run t ∧ feedCalls out.events = [] ∧ requests out.events = []) := by
  refine ⟨fun arguments htask => output_of_failed htask, ?_, ?_⟩
  · intro o c ss hbegins hservers hss
    have hlisted : ∃ ss', ((c.cacheOf s).list.run (afterLog s t)).result = .ok ss' ∧ ss' ≠ [] := by
      rcases hservers with hlist | hservers
      · exact ⟨ss, hlist, hss⟩
      · exact exists_listed_afterLog s hservers hss
    obtain ⟨ss', hlist, hss'⟩ := hlisted
    obtain ⟨p, hp⟩ := exists_chosen? (s.env.debugOverride c) hss'
    exact ⟨p, fun web detach arguments hparse => run_resolve_onWeb hbegins hlist hp hparse⟩
  · intro o arguments hparse htask web out
    obtain ⟨hsame, hown⟩ := run_list_onWeb (s := s) hparse htask web t
    rw [← hsame] at hown
    exact ⟨hsame, feedCalls_eq_nil hown, requests_eq_nil hown⟩

/-- The usual user agent can be sent. -/
theorem not_isBarred_standard :
    ∀ a ∈ Settings.standard.feed.userAgent.toList, ¬ReleaseApi.IsBarred a := by
  have hall : (Settings.standard.feed.userAgent.toList.all
      fun a => !decide (ReleaseApi.IsBarred a)) = true := by
    decide
  intro a ha hbarred
  simpa [hbarred] using List.all_eq_true.mp hall a ha

/-- With a server there, all four runs on two webs give the same, and so does the list on both. With
nothing there, the resolve command fails where nobody answers, and prints nothing. -/
theorem runs_independent_sample :
    let t := treeWithServer (.ofString "d/ruulang/bin")
    let plain := [Utf8.encode "resolve"]
    let detached := [Utf8.encode "resolve", Utf8.encode "--detach"]
    (∃ p : Path, ∀ web : Web, ∀ arguments ∈ [plain, detached],
      let out := (run (sampleSurroundings.onWeb web) arguments).run t
      out.result = success ∧ standardOutput out.events = Utf8.encode (p.display ++ "\n")) ∧
    (∀ web, let out := (run (sampleSurroundings.onWeb web) [Utf8.encode "list"]).run t
      out = (run sampleSurroundings [Utf8.encode "list"]).run t ∧ feedCalls out.events = [] ∧
        requests out.events = []) ∧
    standardOutput
      ((run (sampleSurroundings.onWeb fun _ => none) plain).run FileTree.empty).events = [] := by
  intro t plain detached
  have hplain : CommandLine.parse plain = .order ⟨none, none, .resolve false⟩ := by decide +kernel
  have hdetached : CommandLine.parse detached = .order ⟨none, none, .resolve true⟩ := by
    decide +kernel
  have hlisting : CommandLine.parse [Utf8.encode "list"] = .order ⟨none, none, .list⟩ := by
    decide +kernel
  have hbegins : Begins sampleSurroundings ⟨none, none, .list⟩ t .standard :=
    ⟨by decide +kernel, by decide +kernel, not_isBarred_standard⟩
  have hservers : (Settings.standard.cacheOf sampleSurroundings).servers t =
      .ok [⟨⟨1, 0, 0⟩, .ofString "d/ruulang/bin/ruulang-server.v1.0.0"⟩] := by
    decide +kernel
  have hfailed : ((run (sampleSurroundings.onWeb fun _ => none) plain).run
      FileTree.empty).result ≠ success := by
    decide +kernel
  obtain ⟨-, hresolve, hlist⟩ := runs_independent sampleSurroundings t
  obtain ⟨hnothing, -, -⟩ := runs_independent (sampleSurroundings.onWeb fun _ => none)
    FileTree.empty
  obtain ⟨p, hp⟩ := hresolve _ _ _ hbegins (.inr hservers) (by simp)
  refine ⟨⟨p, fun web arguments harguments => ?_⟩, hlist _ _ hlisting rfl, ?_⟩
  · simp only [List.mem_cons, List.not_mem_nil, or_false] at harguments
    rcases harguments with rfl | rfl
    · exact hp web false plain hplain
    · exact hp web true detached hdetached
  · refine hnothing plain (fun o workspace h => ?_) hfailed
    obtain rfl := CommandLine.order.inj (hplain.symm.trans h)
    exact Task.noConfusion

/-- The usual directory of downloads, by way of the name of the log file. -/
def throughLog : Path :=
  .ofString "d/ruulang/ruulang-launcher.log/../bin"

/-- A cache that lists a server to begin with need not list it in a run. To list it, a directory is
made where the log file is to be ; in a run the log file is there first. -/
theorem listed_before_log :
    let c := { Settings.standard with cacheDir := some throughLog }
    let t := treeWithServer (.ofString "d/ruulang/bin")
    let out := (run sampleSurroundings (resolveIn throughLog.bytes)).run t
    CommandLine.parse (resolveIn throughLog.bytes) =
        .order ⟨none, some throughLog, .resolve false⟩ ∧
      Begins sampleSurroundings ⟨none, some throughLog, .resolve false⟩ t c ∧
      ((c.cacheOf sampleSurroundings).list.run t).result =
        .ok [⟨⟨1, 0, 0⟩, throughLog.join (.ofString "ruulang-server.v1.0.0")⟩] ∧
      out.result = failure ∧ standardOutput out.events = [] :=
  ⟨by decide +kernel, ⟨by decide +kernel, by decide +kernel, not_isBarred_standard⟩,
    by decide +kernel, by decide +kernel, by decide +kernel⟩

end Launcher

end ServerLauncher
