import ServerLauncher.Proofs.StoreStep
import ServerLauncher.Resolution

/-!
# What is noticed of an action

`Act.Shows` says which events an action can have, for every tree that it begins on. The cache only
writes log records (`Cache.shows_list`, `Cache.shows_store`).

Of the events of an action the feed and the user notice the calls of the feed and the messages to
the user (`notices`). What the cache does is `Act.Silent` : nobody notices it.
-/

namespace ServerLauncher

/-! ## Notices -/

/-- The calls of the feed among events. -/
def feedCalls (es : List Event) : List Event :=
  es.filter fun
    | .askRelease | .askAsset _ => true
    | _ => false

/-- The calls of the feed and the messages to the user among events. -/
def notices (es : List Event) : List Event :=
  es.filter fun
    | .askRelease | .askAsset _ | .progress _ => true
    | _ => false

@[simp] theorem notices_nil : notices [] = [] :=
  rfl

/-- What is noticed of events in a row is noticed of each stretch of them. -/
@[simp] theorem notices_append (es es' : List Event) :
    notices (es ++ es') = notices es ++ notices es' :=
  List.filter_append ..

@[simp] theorem notices_askRelease (es : List Event) :
    notices (.askRelease :: es) = .askRelease :: notices es :=
  rfl

@[simp] theorem notices_askAsset (a : Asset) (es : List Event) :
    notices (.askAsset a :: es) = .askAsset a :: notices es :=
  rfl

@[simp] theorem notices_progress (message : String) (es : List Event) :
    notices (.progress message :: es) = .progress message :: notices es :=
  rfl

/-- Nobody but the log's reader notices a record. -/
@[simp] theorem notices_log (record : LogRecord) (es : List Event) :
    notices (.log record :: es) = notices es :=
  rfl

/-- What a feed shows while it works is not noticed. -/
@[simp] theorem notices_map_feed (es : List FeedEvent) : notices (es.map .feed) = [] := by
  simp [notices]

/-- No call of the feed goes unnoticed. -/
theorem feedCalls_notices (es : List Event) : feedCalls (notices es) = feedCalls es := by
  rw [feedCalls, notices, List.filter_filter, feedCalls]
  congr 1
  funext e
  cases e <;> rfl

theorem feedCalls_feedCalls (es : List Event) : feedCalls (feedCalls es) = feedCalls es := by
  simp [feedCalls]

/-! ## What an action shows -/

/-- The event is a log record of the launcher. -/
def Event.IsLog : Event → Prop
  | .log _ => True
  | _ => False

namespace Act

variable {α β : Type} {P Q : Event → Prop}

/-- Whatever the tree, all that the action shows has the property. -/
def Shows (P : Event → Prop) (x : Act Event α) : Prop :=
  ∀ t, ∀ e ∈ (x.run t).events, P e

/-- What has a property shows nothing without a weaker one. -/
theorem Shows.mono {x : Act Event α} (h : x.Shows P) (hPQ : ∀ e, P e → Q e) : x.Shows Q :=
  fun t e he => hPQ e (h t e he)

/-- To give a value shows nothing. -/
theorem shows_pure (a : α) : Shows P (pure a) :=
  fun _ _ he => nomatch he

theorem shows_emit {e : Event} (h : P e) : (emit e).Shows P := by
  intro t e' he'
  rwa [List.mem_singleton.mp he']

/-- To write to the log shows a record and no more. -/
theorem shows_log {level : Level} {source : Source} {message : String} :
    (log level source message).Shows Event.IsLog :=
  shows_emit trivial

/-- To look at the tree shows nothing. -/
theorem shows_look (f : FileTree → α) : (look f).Shows P :=
  fun _ _ he => nomatch he

/-- A change of the tree shows nothing, whether it is made or refused. -/
theorem shows_change (f : FileTree → Except SystemError FileTree) : (change f).Shows P := by
  intro t e he
  unfold change at he
  simp only at he
  split at he <;> exact nomatch he

theorem shows_changeAnyway (f : FileTree → FileTree × Except SystemError Unit) :
    (changeAnyway f).Shows P :=
  fun _ _ he => nomatch he

/-- One action after another shows what the two of them show. -/
theorem Shows.bind {x : Act Event α} {f : α → Act Event β} (hx : x.Shows P)
    (hf : ∀ a, (f a).Shows P) : (x >>= f).Shows P := by
  intro t e he
  rw [run_bind, List.mem_append] at he
  exact he.elim (hx t e) (hf _ _ e)

theorem Shows.discard {x : Act Event α} (hx : x.Shows P) : Shows P (discard x) := by
  intro t e he
  rw [run_discard, List.mem_append] at he
  exact he.elim (hx t e) fun h => nomatch h

/-- The same, where an error of the first is the end. -/
theorem Shows.andThen {φ : Type} {x : Act Event (Except φ α)} {f : α → Act Event (Except φ β)}
    (hx : x.Shows P) (hf : ∀ a, (f a).Shows P) : (x.andThen f).Shows P := by
  refine hx.bind fun r => ?_
  cases r with
  | error e => exact shows_pure _
  | ok a => exact hf a

/-- Whatever the tree, nobody notices the action. -/
def Silent (x : Act Event α) : Prop :=
  ∀ t, notices (x.run t).events = []

/-- Nobody notices what only goes to the log. -/
theorem Shows.silent {x : Act Event α} (h : x.Shows Event.IsLog) : x.Silent := by
  intro t
  rw [notices, List.filter_eq_nil_iff]
  intro e he
  have hlog := h t e he
  cases e with
  | log record => simp
  | _ => exact hlog.elim

end Act

/-! ## The cache -/

namespace Cache

open Act

/-- To make the directory shows nothing at all, so no more than records. -/
theorem shows_ensureDir (c : Cache) : c.ensureDir.Shows Event.IsLog := by
  refine (shows_changeAnyway _).bind fun r => ?_
  cases r <;> exact shows_pure _

/-- A listing writes records, and no more. -/
theorem shows_list (c : Cache) : c.list.Shows Event.IsLog := by
  refine c.shows_ensureDir.andThen fun _ => (shows_look _).bind fun r => ?_
  cases r with
  | error e => exact shows_pure _
  | ok ss => exact shows_log.bind fun _ => shows_pure _

theorem shows_latest (c : Cache) : c.latest.Shows Event.IsLog :=
  c.shows_list.andThen fun _ => shows_pure _

/-- A step of a store writes records and no more, whatever suffix it picks and however few bytes go
into one write. -/
theorem shows_storeStep (c : Cache) (v : Version) (data : Bytes) (suffix : FileTree → String)
    (portion : Nat) (s : StoreStage) : (c.storeStep v data suffix portion s).Shows Event.IsLog := by
  cases s with
  | ensureDir =>
    refine c.shows_ensureDir.bind fun r => ?_
    cases r <;> exact shows_pure _
  | check =>
    refine (shows_look _).bind fun b => ?_
    split
    · exact shows_log.bind fun _ => shows_pure _
    · exact shows_pure _
  | createTemporary =>
    refine (shows_look _).bind fun _ => (shows_change _).bind fun r => ?_
    cases r <;> exact shows_pure _
  | write p left =>
    cases left with
    | nil => exact shows_pure _
    | cons b left =>
      refine (shows_change _).bind fun r => ?_
      cases r <;> exact shows_pure _
  | makeExecutable p =>
    refine (shows_change _).bind fun r => ?_
    cases r <;> exact shows_pure _
  | rename p =>
    refine (shows_change _).bind fun r => ?_
    split
    · exact shows_log.bind fun _ => shows_pure _
    · exact shows_log.bind fun _ => shows_pure _
    · exact shows_pure _
  | discard p r => exact (shows_change _).discard.bind fun _ => shows_pure _
  | done r => exact shows_pure _

/-- So does any number of steps. -/
theorem shows_runStore (c : Cache) (v : Version) (data : Bytes) :
    ∀ (n : Nat) (s : StoreStage), (c.runStore v data n s).Shows Event.IsLog
  | 0, _ => shows_pure _
  | n + 1, _ => (c.shows_storeStep v data _ _ _).bind fun s => c.shows_runStore v data n s

/-- A whole store writes records, and no more. -/
theorem shows_store (c : Cache) (v : Version) (data : Bytes) :
    (c.store v data).Shows Event.IsLog := by
  refine (c.shows_runStore v data _ _).bind fun s => ?_
  split <;> exact shows_pure _

/-- Nobody notices a look for the newest server. -/
theorem silent_latest (c : Cache) : c.latest.Silent :=
  c.shows_latest.silent

/-- Nobody notices a store. -/
theorem silent_store (c : Cache) (v : Version) (data : Bytes) : (c.store v data).Silent :=
  (c.shows_store v data).silent

end Cache

end ServerLauncher
