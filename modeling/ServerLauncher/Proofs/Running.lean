import ServerLauncher.Proofs.Classifying
import ServerLauncher.Proofs.Output

/-!
# How a run goes

Before a run does its task it makes sure of the log, loads the settings and builds the resolver that
they ask for. `Launcher.Begins` says that nothing of this fails. A run that begins is its task, done
on the tree that the log has left (`Launcher.run_of_begins`). A run that does not begin fails, and
writes to nothing but standard error (`Launcher.run_of_not_begins`). So a resolve command succeeds
exactly if it comes to a resolution (`Launcher.Resolves`), and prints the path of that. The web has
no part in how a run begins.
-/

namespace ServerLauncher

/-! ## Events of a beginning -/

/-- The event writes to standard error. -/
def Event.IsErrorOutput : Event → Prop
  | .errorOutput _ => True
  | _ => False

theorem Event.IsErrorOutput.isAside {e : Event} (h : e.IsErrorOutput) : e.IsAside := by
  cases e with
  | errorOutput data => trivial
  | _ => exact h.elim

theorem Outcome.eq_of_result {ε α : Type} {out : Outcome ε α} {a : α} (h : out.result = a) :
    out = ⟨a, out.tree, out.events⟩ := by
  rw [← h]

namespace Launcher

open Act

variable {s : Surroundings} {o : Order} {t : FileTree} {c : Settings} {r : Resolver}
  {arguments : List Bytes}

theorem shows_breakDown {α : Type} (b : Breakdown) :
    (breakDown s b : Act Event (Except (Halt Failure) α)).Shows Event.IsErrorOutput :=
  (shows_emit trivial).bind fun _ => shows_pure _

theorem shows_openLog (s : Surroundings) : (openLog s).Shows Event.IsErrorOutput := by
  refine (shows_changeAnyway _).bind fun made => ?_
  cases made with
  | error e => exact shows_pure _
  | ok =>
    refine (shows_change _).bind fun opened => ?_
    cases opened with
    | error e => exact shows_breakDown _
    | ok =>
      dsimp only
      split
      · exact shows_breakDown _
      · exact shows_pure _

theorem shows_loadSettings (env : Environment) (o : Order) {P : Event → Prop} :
    (loadSettings env o).Shows P := by
  refine (shows_look _).bind fun loaded => ?_
  cases loaded <;> exact shows_pure _

/-! ## The beginning -/

/-- The tree that is there when the log has been made sure of. -/
def afterLog (s : Surroundings) (t : FileTree) : FileTree :=
  ((openLog s).run t).tree

/-- The log is made sure of, the settings are loaded, and their user agent can be sent. -/
structure Begins (s : Surroundings) (o : Order) (t : FileTree) (c : Settings) : Prop where
  log : ((openLog s).run t).result = .ok ()
  settings : ((loadSettings s.env o).run (afterLog s t)).result = .ok c
  userAgent : ∀ a ∈ c.feed.userAgent.toList, ¬ReleaseApi.IsBarred a

theorem run_openLog_of_ok (h : ((openLog s).run t).result = .ok ()) :
    (openLog s).run t = ⟨.ok (), afterLog s t, []⟩ := by
  have hevents : ((openLog s).run t).events = [] := by
    simp only [openLog, run_bind, changeAnyway] at h ⊢
    split at h
    case h_1 => cases h
    case h_2 =>
      simp only [run_bind, change] at h ⊢
      cases hopen : (t.createDirs s.env.dataDir).1.openForAppend s.env.logPath 0o644 with
      | error e => simp [hopen, breakDown, run_bind, run_pure] at h
      | ok w =>
        simp only [hopen] at h ⊢
        split at h
        case isTrue => simp [breakDown, run_bind, run_pure] at h
        case isFalse hfilter => simp [hfilter, run_pure]
  rw [afterLog, ← h, ← hevents]

theorem run_loadSettings_of_ok {env : Environment} {w : FileTree}
    (h : ((loadSettings env o).run w).result = .ok c) :
    (loadSettings env o).run w = ⟨.ok c, w, []⟩ := by
  rw [← h]
  simp only [loadSettings, run_bind, look]
  split <;> rfl

theorem resolver?_eq_none_iff :
    resolver? s c = none ↔ ∃ a ∈ c.feed.userAgent.toList, ReleaseApi.IsBarred a := by
  rw [resolver?, Option.map_eq_none_iff, ReleaseApi.feed?_eq_none_iff]

theorem Begins.exists_resolver (h : Begins s o t c) : ∃ r, resolver? s c = some r :=
  Option.ne_none_iff_exists'.mp
    (mt resolver?_eq_none_iff.mp fun ⟨a, ha, hbarred⟩ => h.userAgent a ha hbarred)

theorem cache_of_resolver? (h : resolver? s c = some r) :
    r.cache = c.cacheOf s ∧ r.debugBinary = s.env.debugOverride c := by
  obtain ⟨feed, -, rfl⟩ := Option.map_eq_some_iff.mp h
  exact ⟨rfl, rfl⟩

/-! ## The task -/

/-- Do the task of an order with these settings. -/
def performWith (s : Surroundings) (o : Order) (c : Settings) : Act Event TaskResult :=
  match resolver? s c with
  | none => breakDown s .userAgent
  | some r => perform s r o.task

theorem carryOut_eq (s : Surroundings) (o : Order) : carryOut s o =
    (openLog s).andThen fun _ => (loadSettings s.env o).andThen (performWith s o) :=
  rfl

/-- An order that begins is its task. -/
theorem carryOut_of_begins (h : Begins s o t c) (hr : resolver? s c = some r) :
    (carryOut s o).run t = (perform s r o.task).run (afterLog s t) := by
  rw [carryOut_eq, run_andThen_of_ok (run_openLog_of_ok h.log),
    run_andThen_of_ok (run_loadSettings_of_ok h.settings), performWith, hr]
  rfl

/-- An order that does not begin fails, and only writes to standard error. -/
theorem carryOut_of_not_begins (h : ∀ c, ¬Begins s o t c) :
    (∃ e, ((carryOut s o).run t).result = .error e) ∧
      ∀ e ∈ ((carryOut s o).run t).events, e.IsErrorOutput := by
  rw [carryOut_eq]
  cases hlog : ((openLog s).run t).result with
  | error e =>
    simp only [andThen, run_bind, hlog, run_pure, List.append_nil]
    exact ⟨⟨e, rfl⟩, shows_openLog s t⟩
  | ok =>
    rw [run_andThen_of_ok (run_openLog_of_ok hlog)]
    cases hload : ((loadSettings s.env o).run (afterLog s t)).result with
    | error e =>
      simp only [andThen, run_bind, hload, run_pure, List.append_nil]
      exact ⟨⟨e, rfl⟩, shows_loadSettings s.env o _⟩
    | ok c =>
      have hnone : resolver? s c = none := by
        by_contra hsome
        refine h c ⟨hlog, hload, fun a ha hbarred => hsome ?_⟩
        exact resolver?_eq_none_iff.mpr ⟨a, ha, hbarred⟩
      rw [run_andThen_of_ok (run_loadSettings_of_ok hload), performWith, hnone]
      exact ⟨⟨_, rfl⟩, shows_breakDown .userAgent _⟩

/-! ## The run -/

/-- The exit code of a run whose task ends so. -/
def codeOf : TaskResult → ExitCode
  | .ok code => code
  | .error .breakdown => breakdown
  | .error (.error _) => failure

/-- What is left to say of a run whose task ends so. -/
def reportOf : TaskResult → List Event
  | .error (.error f) => [.errorOutput (Utf8.encode f.report)]
  | _ => []

theorem codeOf_error_ne (h : Halt Failure) : codeOf (.error h) ≠ success := by
  cases h with
  | error f => exact (by decide : failure ≠ success)
  | breakdown => decide

theorem isErrorOutput_of_mem_reportOf {result : TaskResult} {e : Event} (h : e ∈ reportOf result) :
    e.IsErrorOutput := by
  unfold reportOf at h
  split at h
  · rw [List.mem_singleton.mp h]
    trivial
  · cases h

theorem standardOutput_reportOf (result : TaskResult) : standardOutput (reportOf result) = [] :=
  standardOutput_eq_nil fun _ he => (isErrorOutput_of_mem_reportOf he).isAside

theorem run_of_order (hparse : CommandLine.parse arguments = .order o) (t : FileTree) :
    (run s arguments).run t = ⟨codeOf ((carryOut s o).run t).result, ((carryOut s o).run t).tree,
      ((carryOut s o).run t).events ++ reportOf ((carryOut s o).run t).result⟩ := by
  simp only [run, hparse, run_bind]
  rcases ((carryOut s o).run t).result with (f | -) | code <;> rfl

/-- A run that begins prints what its task prints, and ends as its task ends. -/
theorem run_of_begins (hparse : CommandLine.parse arguments = .order o) (h : Begins s o t c)
    (hr : resolver? s c = some r) :
    ((run s arguments).run t).result =
        codeOf ((perform s r o.task).run (afterLog s t)).result ∧
      standardOutput ((run s arguments).run t).events =
        standardOutput ((perform s r o.task).run (afterLog s t)).events := by
  rw [run_of_order hparse, carryOut_of_begins h hr]
  refine ⟨rfl, ?_⟩
  rw [standardOutput_append, standardOutput_reportOf, List.append_nil]

/-- A run that does not begin fails and prints nothing. -/
theorem run_of_not_begins (hparse : CommandLine.parse arguments = .order o)
    (h : ∀ c, ¬Begins s o t c) :
    ((run s arguments).run t).result ≠ success ∧
      standardOutput ((run s arguments).run t).events = [] := by
  obtain ⟨⟨e, he⟩, hevents⟩ := carryOut_of_not_begins h
  rw [run_of_order hparse, he, standardOutput_append, standardOutput_reportOf, List.append_nil]
  exact ⟨codeOf_error_ne e, standardOutput_eq_nil fun e he => (hevents e he).isAside⟩

/-- An order begins with these settings, and comes to this resolution. -/
structure Resolves (s : Surroundings) (o : Order) (t : FileTree) (c : Settings)
    (resolution : Resolution) : Prop where
  begins : Begins s o t c
  resolved : ∃ r, resolver? s c = some r ∧ (r.resolve.run (afterLog s t)).result = .ok resolution

/-- A resolve command that comes to a resolution succeeds, and prints the path of it. -/
theorem run_of_resolves {detach : Bool} {resolution : Resolution}
    (hparse : CommandLine.parse arguments = .order o) (htask : o.task = .resolve detach)
    (h : Resolves s o t c resolution) :
    ((run s arguments).run t).result = success ∧
      standardOutput ((run s arguments).run t).events =
        Utf8.encode (resolution.path.display ++ "\n") := by
  obtain ⟨r, hr, hresolved⟩ := h.resolved
  obtain ⟨hresult, houtput⟩ := run_of_begins hparse h.begins hr
  obtain ⟨hok, hprinted⟩ := resolve_of_ok (Outcome.eq_of_result hresolved) detach
  rw [htask, perform, hok] at hresult
  rw [htask, perform, hprinted] at houtput
  exact ⟨hresult, houtput⟩

/-- A resolve command that succeeds comes to a resolution. -/
theorem exists_resolves {detach : Bool} (hparse : CommandLine.parse arguments = .order o)
    (htask : o.task = .resolve detach) (hsuccess : ((run s arguments).run t).result = success) :
    ∃ c resolution, Resolves s o t c resolution := by
  by_cases hbegins : ∃ c, Begins s o t c
  · obtain ⟨c, hbegins⟩ := hbegins
    obtain ⟨r, hr⟩ := hbegins.exists_resolver
    cases hresolved : (r.resolve.run (afterLog s t)).result with
    | ok resolution => exact ⟨c, resolution, hbegins, r, hr, hresolved⟩
    | error halt =>
      obtain ⟨hresult, -⟩ := run_of_begins hparse hbegins hr
      obtain ⟨herror, -⟩ := resolve_of_error (Outcome.eq_of_result hresolved) detach
      rw [htask, perform, herror] at hresult
      exact absurd (hresult.symm.trans hsuccess) (codeOf_error_ne _)
  · exact absurd hsuccess (run_of_not_begins hparse (not_exists.mp hbegins)).1

end Launcher

end ServerLauncher
