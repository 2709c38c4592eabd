import ServerLauncher.Proofs.SelfUpdate

/-!
# What goes to standard output

Whatever the feed does, a refresh and a resolution write nothing to standard output
(`Resolver.shows_refreshWith`, `Resolver.shows_resolve`). So the output of a command is what the
command prints itself when it comes to its end : the path of the resolution, the lines of the list,
or the line that tells what the update has come to. A command that fails has printed nothing.
-/

namespace ServerLauncher

/-! ## Events aside -/

/-- The event writes nothing to standard output. -/
def Event.IsAside : Event → Prop
  | .output _ => False
  | _ => True

theorem Event.IsLog.isAside {e : Event} (h : e.IsLog) : e.IsAside := by
  cases e with
  | log record => trivial
  | _ => exact h.elim

@[simp] theorem standardOutput_append (es es' : List Event) :
    standardOutput (es ++ es') = standardOutput es ++ standardOutput es' :=
  List.flatMap_append ..

theorem standardOutput_eq_nil {es : List Event} (h : ∀ e ∈ es, e.IsAside) :
    standardOutput es = [] := by
  rw [standardOutput, List.flatMap_eq_nil_iff]
  intro e he
  have haside := h e he
  cases e with
  | output data => exact haside.elim
  | _ => rfl

@[simp] theorem standardOutput_nil : standardOutput [] = [] :=
  rfl

@[simp] theorem standardOutput_log (record : LogRecord) (es : List Event) :
    standardOutput (.log record :: es) = standardOutput es :=
  rfl

@[simp] theorem standardOutput_output (data : Bytes) (es : List Event) :
    standardOutput (.output data :: es) = data ++ standardOutput es :=
  rfl

namespace Act

variable {α : Type} {x : Act Event α}

theorem Shows.isAside (h : x.Shows Event.IsLog) : x.Shows Event.IsAside :=
  h.mono fun _ => Event.IsLog.isAside

theorem run_andThen_of_ok {φ β : Type} {x : Act Event (Except φ α)}
    {f : α → Act Event (Except φ β)} {a : α} {t u : FileTree} {es : List Event}
    (h : x.run t = ⟨.ok a, u, es⟩) : (x.andThen f).run t =
      ⟨((f a).run u).result, ((f a).run u).tree, es ++ ((f a).run u).events⟩ := by
  rw [andThen, run_bind, h]

/-- A command that prints a text as its last step. -/
theorem standardOutput_print (text : String) (a : α) (t : FileTree) :
    standardOutput ((do print text; return a : Act Event α).run t).events = Utf8.encode text := by
  simp [run_bind, run_pure, print, emit]

/-- What shows nothing but events aside leaves standard output as it is. -/
theorem Shows.standardOutput (h : x.Shows Event.IsAside) (t : FileTree) :
    standardOutput (x.run t).events = [] :=
  standardOutput_eq_nil (h t)

end Act

/-! ## Feeds and resolvers -/

open Act

theorem Feed.shows_askLatest (f : Feed) : f.askLatest.Shows Event.IsAside := by
  intro t e he
  rw [run_askLatest, List.mem_cons, List.mem_map] at he
  obtain rfl | ⟨shown, -, rfl⟩ := he <;> trivial

theorem Feed.shows_askContent (f : Feed) (a : Asset) : (f.askContent a).Shows Event.IsAside := by
  intro t e he
  rw [run_askContent, List.mem_cons, List.mem_map] at he
  obtain rfl | ⟨shown, -, rfl⟩ := he <;> trivial

namespace Resolver

variable (r : Resolver)

theorem shows_download (shows : Bool) (release : Release) (v : Version) :
    (r.download shows release v).Shows Event.IsAside := by
  unfold download
  split
  case h_1 => exact shows_pure _
  case h_2 asset _ =>
    -- what follows the message to the user, which there may be or not
    extract_lets rest
    have hrest : ∀ u, (rest u).Shows Event.IsAside := by
      intro u
      refine shows_log.isAside.bind fun _ => (r.feed.shows_askContent asset).bind fun content => ?_
      cases content with
      | error h => exact shows_pure _
      | ok data =>
        refine (r.cache.shows_store v data).isAside.bind fun stored => ?_
        cases stored <;> exact shows_pure _
    split
    · exact (shows_emit trivial).bind hrest
    · exact hrest ()

theorem shows_refreshWith (shows : Bool) (current : Version) :
    (r.refreshWith shows current).Shows Event.IsAside := by
  refine r.feed.shows_askLatest.bind fun answer => ?_
  cases answer with
  | error h => exact shows_pure _
  | ok release =>
    dsimp only
    split
    case h_1 => exact shows_pure _
    case h_2 latest _ =>
      split
      · exact r.shows_download _ _ _
      · exact shows_log.isAside.bind fun _ => shows_pure _

theorem shows_refreshInBackground (current : Version) :
    (r.refreshInBackground current).Shows Event.IsAside := by
  refine (r.shows_refreshWith false current).bind fun refreshed => ?_
  rcases refreshed with (e | -) | s | latest <;> exact shows_log.isAside

theorem shows_resolve : r.resolve.Shows Event.IsAside := by
  unfold resolve
  split
  case h_1 => exact shows_log.isAside.bind fun _ => shows_pure _
  case h_2 =>
    refine r.cache.shows_latest.isAside.bind fun found => ?_
    rcases found with e | _ | s
    · exact shows_pure _
    · refine shows_log.isAside.bind fun _ => (r.shows_refreshWith _ _).bind fun refreshed => ?_
      rcases refreshed with h | s | latest <;> exact shows_pure _
    · exact shows_log.isAside.bind fun _ => shows_pure _

end Resolver

/-! ## Commands -/

namespace Launcher

variable {r : Resolver} {t : FileTree} {ss : List CachedServer} {e : CacheError}

/-- The list command prints the servers that are listed, newest first. -/
theorem list_of_listed (hlist : (r.cache.list.run t).result = .ok ss) :
    ((list r).run t).result = .ok success ∧ standardOutput ((list r).run t).events =
      Utf8.encode (String.join ((newestFirst ss).map listLine)) := by
  have haside := r.cache.shows_list.isAside.standardOutput t
  simp [list, run_bind, hlist, haside, print, emit, run_pure]

theorem list_of_error (hlist : (r.cache.list.run t).result = .error e) :
    ((list r).run t).result = .error (.error (.cache e)) ∧
      standardOutput ((list r).run t).events = [] := by
  have haside := r.cache.shows_list.isAside.standardOutput t
  simp [list, run_bind, hlist, haside, run_pure]

/-- How an update ends that refreshes to this end. -/
def updateResult : Except (Halt ResolveError) Refreshed → TaskResult
  | .error h => .error (h.map .resolve)
  | .ok _ => .ok success

/-- The line that tells of a download. -/
def downloadedLine (v : Version) (path : String) : String :=
  s!"Downloaded {v.tag} to {path}\n"

/-- The line that tells of nothing to download. -/
def upToDateLine (v : Version) : String :=
  s!"Already up to date (latest release {v.tag})\n"

/-- What an update prints that refreshes to this end. -/
def updateText : Except (Halt ResolveError) Refreshed → String
  | .error _ => ""
  | .ok (.downloaded s) => downloadedLine s.version s.path.display
  | .ok (.upToDate v) => upToDateLine v

/-- The update is a refresh against the version `v`, from the tree that the listing leaves, and it
prints the end of that. -/
def UpdatesAgainst (r : Resolver) (t : FileTree) (v : Version) : Prop :=
  let o := (update r).run t
  let o' := (r.refresh v).run (r.cache.list.run t).tree
  o.result = updateResult o'.result ∧ o.tree = o'.tree ∧
    standardOutput o.events = Utf8.encode (updateText o'.result)

/-- An update is a refresh against the newest server that is listed. -/
theorem update_of_listed (hlist : (r.cache.list.run t).result = .ok ss) :
    UpdatesAgainst r t (Cache.newestVersion ss) := by
  rw [UpdatesAgainst]
  have hcurrent : ((Cache.newest? ss).map CachedServer.version).getD default =
    Cache.newestVersion ss := rfl
  obtain ⟨hresult, htree⟩ := Resolver.latest_of_list r.cache t
  have hlatest := r.cache.shows_latest.isAside.standardOutput t
  have hrefresh : standardOutput
      ((r.refresh (Cache.newestVersion ss)).run (r.cache.list.run t).tree).events = [] :=
    (r.shows_refreshWith false (Cache.newestVersion ss)).standardOutput _
  generalize hrun : (r.refresh (Cache.newestVersion ss)).run (r.cache.list.run t).tree = o'
    at hrefresh ⊢
  simp only [update, run_bind, hresult, hlist, htree, Except.map, hcurrent, hrun,
    standardOutput_append, hlatest, hrefresh, List.nil_append]
  rcases o'.result with h | s | latest
  · exact ⟨rfl, rfl, rfl⟩
  · exact ⟨rfl, rfl, standardOutput_print ..⟩
  · exact ⟨rfl, rfl, standardOutput_print ..⟩

theorem update_of_error (hlist : (r.cache.list.run t).result = .error e) :
    ((update r).run t).result = .error (.error (.cache e)) ∧
      standardOutput ((update r).run t).events = [] := by
  obtain ⟨hresult, -⟩ := Resolver.latest_of_list r.cache t
  have haside := r.cache.shows_latest.isAside.standardOutput t
  simp [update, run_bind, hresult, hlist, Except.map, haside, run_pure]

theorem run_resolveLogged_of_ok {resolution : Resolution} {u : FileTree} {evs : List Event}
    (h : r.resolve.run t = ⟨.ok resolution, u, evs⟩) :
    (resolveLogged r).run t = ⟨.ok resolution, u, evs⟩ := by
  simp [resolveLogged, run_bind, run_pure, h]

/-- The resolve command prints the path of the resolution, whether it waits or not. -/
theorem resolve_of_ok {resolution : Resolution} {u : FileTree} {evs : List Event}
    (h : r.resolve.run t = ⟨.ok resolution, u, evs⟩) (detach : Bool) :
    ((resolve r detach).run t).result = .ok success ∧
      standardOutput ((resolve r detach).run t).events =
        Utf8.encode (resolution.path.display ++ "\n") := by
  have haside := r.shows_resolve.standardOutput t
  rw [h] at haside
  rw [resolve, run_andThen_of_ok (run_resolveLogged_of_ok h)]
  obtain ⟨p, origin, _ | current⟩ := resolution
  · simp [run_bind, run_pure, haside, print, emit]
  · have hrefresh := (r.shows_refreshInBackground current).standardOutput u
    cases detach <;> simp [run_bind, run_pure, haside, hrefresh, print, emit]

/-- A resolve command that fails, or breaks down, has printed nothing. -/
theorem resolve_of_error {halt : Halt ResolveError} {u : FileTree} {evs : List Event}
    (h : r.resolve.run t = ⟨.error halt, u, evs⟩) (detach : Bool) :
    ((resolve r detach).run t).result = .error (halt.map .resolve) ∧
      standardOutput ((resolve r detach).run t).events = [] := by
  have haside := r.shows_resolve.standardOutput t
  rw [h] at haside
  cases halt with
  | error e =>
    simp [resolve, resolveLogged, andThen, run_bind, run_pure, h, haside, log, emit, Halt.map]
  | breakdown => simp [resolve, resolveLogged, andThen, run_bind, run_pure, h, haside, Halt.map]

end Launcher

end ServerLauncher
