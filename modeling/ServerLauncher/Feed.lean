import ServerLauncher.Action

/-!
# Feeds

A feed publishes releases. It can be asked for the latest one and for the content of a file
(`Feed`) ; while it answers it may send requests, write to the log and even meddle with the file
tree. An answer is a value, a `FeedError`, or none at all because the feed broke down (`Halt`).
-/

namespace ServerLauncher

/-- Why a feed gives no answer. -/
inductive FeedError where
  | unavailable (reason : String)
  | malformed (reason : String)
  | assetUnavailable (name reason : String)
  deriving Repr, DecidableEq

/-- The error in words. -/
def FeedError.message : FeedError → String
  | .unavailable reason => "Release feed unavailable: " ++ reason
  | .malformed reason => "Malformed release feed response: " ++ reason
  | .assetUnavailable name reason => "Asset " ++ name ++ " unavailable: " ++ reason

/-- The end of a job that gave no value : an error that it reports, or a breakdown. -/
inductive Halt (φ : Type) where
  | error (e : φ)
  | breakdown
  deriving Repr, DecidableEq

/-- The same end with another error. -/
def Halt.map {φ ψ : Type} (f : φ → ψ) : Halt φ → Halt ψ
  | .error e => .error (f e)
  | .breakdown => .breakdown

/-- A source of releases. -/
structure Feed where
  latest : Act FeedEvent (Except (Halt FeedError) Release)
  content : Asset → Act FeedEvent (Except (Halt FeedError) Bytes)

namespace Feed

/-- Ask a feed for the latest release. -/
def askLatest (f : Feed) : Act Event (Except (Halt FeedError) Release) := do
  Act.emit .askRelease
  f.latest.mapEvents .feed

/-- Ask a feed for the content of a file. -/
def askContent (f : Feed) (a : Asset) : Act Event (Except (Halt FeedError) Bytes) := do
  Act.emit (.askAsset a)
  (f.content a).mapEvents .feed

end Feed

end ServerLauncher
