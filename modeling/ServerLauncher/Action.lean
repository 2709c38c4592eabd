import ServerLauncher.FileTree.Change
import ServerLauncher.Release

/-!
# Actions

What a part of the launcher does besides giving a result : it changes the file tree and shows
something to the outside. An `Act` is a function from the tree before to the result, the tree after
and the events in order. The launcher's own events are `Event`s, which are feed calls, log records,
progress messages and output ; what a feed shows while it works is a `FeedEvent`, so no feed can
pretend that it was asked.
-/

namespace ServerLauncher

/-! ## Events -/

/-- How much a log record matters, most first. -/
inductive Level where
  | error
  | warn
  | info
  | debug
  | trace
  deriving Repr, DecidableEq

/-- The part of the launcher that writes a log record. -/
inductive Source where
  | command
  | cache
  | resolution
  | feed
  | server
  deriving Repr, DecidableEq

/-- The part as a log record names it. -/
def Source.name : Source → String
  | .command => "ruulang_launcher"
  | .cache => "ruulang_launcher::server::cache"
  | .resolution => "ruulang_launcher::server::resolver"
  | .feed => "ruulang_launcher::server::feeds::github"
  | .server => "ruulang_launcher::launch"

/-- A record of the log. -/
structure LogRecord where
  level : Level
  source : Source
  message : String
  deriving Repr, DecidableEq

/-- A request to a web server. -/
structure Request where
  method : String
  target : String
  accept : String
  userAgent : Bytes
  deriving Repr, DecidableEq

/-- Something that a feed shows while it works. -/
inductive FeedEvent where
  | request (r : Request)
  | log (r : LogRecord)
  deriving Repr, DecidableEq

/-- Something that the launcher shows. -/
inductive Event where
  /-- The feed is asked for the latest release. -/
  | askRelease
  /-- The feed is asked for a file. -/
  | askAsset (asset : Asset)
  | feed (e : FeedEvent)
  | log (r : LogRecord)
  /-- A message to the user. -/
  | progress (message : String)
  /-- Bytes written to standard output. -/
  | output (data : Bytes)
  /-- Bytes written to standard error. -/
  | errorOutput (data : Bytes)
  deriving Repr, DecidableEq

/-! ## Views of events -/

/-- The log records among events. -/
def logRecords (es : List Event) : List LogRecord :=
  es.filterMap fun
    | .log r => some r
    | .feed (.log r) => some r
    | _ => none

/-- The web requests among events. -/
def requests (es : List Event) : List Request :=
  es.filterMap fun
    | .feed (.request r) => some r
    | _ => none

/-- What events write to standard output. -/
def standardOutput (es : List Event) : Bytes :=
  es.flatMap fun
    | .output data => data
    | _ => []

/-- What events write to standard error ; a message to the user is a line of it. -/
def standardError (es : List Event) : Bytes :=
  es.flatMap fun
    | .errorOutput data => data
    | .progress message => Utf8.encode (message ++ "\n")
    | _ => []

/-! ## Actions -/

/-- What an action leaves behind. -/
structure Outcome (ε α : Type) where
  result : α
  tree : FileTree
  events : List ε

/-- An action on a file tree with events of type `ε`. -/
structure Act (ε α : Type) where
  run : FileTree → Outcome ε α

namespace Act

variable {ε α β : Type}

instance : Monad (Act ε) where
  pure a := ⟨fun t => ⟨a, t, []⟩⟩
  bind x f := ⟨fun t =>
    let o := x.run t
    let o' := (f o.result).run o.tree
    ⟨o'.result, o'.tree, o.events ++ o'.events⟩⟩

theorem run_pure (a : α) (t : FileTree) : (pure a : Act ε α).run t = ⟨a, t, []⟩ :=
  rfl

theorem run_bind (x : Act ε α) (f : α → Act ε β) (t : FileTree) :
    (x >>= f).run t =
      ⟨((f (x.run t).result).run (x.run t).tree).result,
        ((f (x.run t).result).run (x.run t).tree).tree,
        (x.run t).events ++ ((f (x.run t).result).run (x.run t).tree).events⟩ :=
  rfl

/-- Do `f` with the value of an action that succeeds, and pass a failure on. -/
def andThen {φ : Type} (x : Act ε (Except φ α)) (f : α → Act ε (Except φ β)) :
    Act ε (Except φ β) :=
  x >>= fun
    | .error e => pure (.error e)
    | .ok a => f a

/-- Show an event. -/
def emit (e : ε) : Act ε Unit :=
  ⟨fun t => ⟨(), t, [e]⟩⟩

/-- The action with its events seen as others. -/
def mapEvents {δ : Type} (f : ε → δ) (x : Act ε α) : Act δ α :=
  ⟨fun t => ⟨(x.run t).result, (x.run t).tree, (x.run t).events.map f⟩⟩

/-- Look at the tree. -/
def look (f : FileTree → α) : Act ε α :=
  ⟨fun t => ⟨f t, t, []⟩⟩

/-- Change the tree, unless that fails. -/
def change (f : FileTree → Except SystemError FileTree) : Act ε (Except SystemError Unit) :=
  ⟨fun t =>
    match f t with
    | .ok t => ⟨.ok (), t, []⟩
    | .error e => ⟨.error e, t, []⟩⟩

/-- Change the tree, also where that fails half-way. -/
def changeAnyway (f : FileTree → FileTree × Except SystemError Unit) :
    Act ε (Except SystemError Unit) :=
  ⟨fun t => ⟨(f t).2, (f t).1, []⟩⟩

/-- Do steps one after the other until one gives a result, or `fuel` steps were made. -/
def iterate {σ : Type} (step : σ → Act ε (σ ⊕ α)) (stuck : σ → α) (fuel : Nat) (s : σ) :
    Act ε α :=
  ⟨fun t => go fuel s t []⟩
where
  /-- The steps that are left, with the events of those before in reverse. -/
  go : Nat → σ → FileTree → List ε → Outcome ε α
    | 0, s, t, events => ⟨stuck s, t, events.reverse⟩
    | fuel + 1, s, t, events =>
      let o := (step s).run t
      match o.result with
      | .inl s => go fuel s o.tree (o.events.reverse ++ events)
      | .inr a => ⟨a, o.tree, (o.events.reverse ++ events).reverse⟩

/-- Write a text to standard output. -/
def print (s : String) : Act Event Unit :=
  emit (.output (Utf8.encode s))

/-- Write a log record. -/
def log (level : Level) (source : Source) (message : String) : Act Event Unit :=
  emit (.log ⟨level, source, message⟩)

/-- Write a log record from inside a feed. -/
def feedLog (level : Level) (message : String) : Act FeedEvent Unit :=
  emit (.log ⟨level, .feed, message⟩)

end Act

end ServerLauncher
