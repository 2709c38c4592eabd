import ServerLauncher.Cache.Store
import ServerLauncher.Feed

/-!
# Which server to launch

`Resolver.resolve` says which executable to launch now. In debug mode it is the development build.
With a server in the cache it is the newest one, at once ; the feed is asked afterwards, by
`Resolver.refreshInBackground`, for the next time. With an empty cache the feed is asked first and
its latest release stored.

`Resolver.refresh` stores the feed's latest release if it is strictly newer than a given version.
-/

namespace ServerLauncher

/-! ## Results -/

/-- Why there is no server to launch, or no newer one. -/
inductive ResolveError where
  | feed (e : FeedError)
  | cache (e : CacheError)
  | missingAsset (e : MissingAsset)
  | invalidTag (tag : String)
  | noNewerRelease (latest : Version)
  deriving Repr, DecidableEq

/-- The error in words. -/
def ResolveError.message : ResolveError → String
  | .feed e => e.message
  | .cache e => e.message
  | .missingAsset e => e.message
  | .invalidTag tag => "Release tag " ++ quote tag ++ " is not a vMAJOR.MINOR.PATCH version"
  | .noNewerRelease v => "Latest release " ++ v.tag ++ " is not newer than any installed server"

/-- Where a server comes from. -/
inductive Origin where
  | debugBuild
  | cache (v : Version)
  | download (v : Version)
  deriving Repr, DecidableEq

/-- A server to launch. A server from the cache leaves a refresh against its version to be done. -/
structure Resolution where
  path : Path
  origin : Origin
  pendingRefresh : Option Version
  deriving Repr, DecidableEq

/-- What a refresh has found. -/
inductive Refreshed where
  | downloaded (s : CachedServer)
  | upToDate (latest : Version)
  deriving Repr, DecidableEq

/-- How servers are found : a feed, a cache, the machine, the development build of debug mode, and
whether the user is told of downloads. -/
structure Resolver where
  feed : Feed
  cache : Cache
  target : Target
  debugBinary : Option Path
  showsProgress : Bool

namespace Resolver

/-! ## Refreshing -/

/-- Download the asset of `release` for this machine and store it as version `v`. -/
def download (r : Resolver) (showsProgress : Bool) (release : Release) (v : Version) :
    Act Event (Except (Halt ResolveError) Refreshed) := do
  match release.selectAsset r.cache.binaryName r.target with
  | .error e => return .error (.error (.missingAsset e))
  | .ok asset => do
    if showsProgress then
      Act.emit (.progress s!"Downloading {r.cache.binaryName} {v.tag}")
    Act.log .info .resolution s!"Downloading {asset.name} for release {v.tag}"
    match ← r.feed.askContent asset with
    | .error h => return .error (h.map .feed)
    | .ok data => do
      match ← r.cache.store v data with
      | .error e => return .error (.error (.cache e))
      | .ok path => return .ok (.downloaded ⟨v, path⟩)

/-- Ask the feed and download its latest release if it is newer than `current`. -/
def refreshWith (r : Resolver) (showsProgress : Bool) (current : Version) :
    Act Event (Except (Halt ResolveError) Refreshed) := do
  match ← r.feed.askLatest with
  | .error h => return .error (h.map .feed)
  | .ok release =>
    match release.version? with
    | none => return .error (.error (.invalidTag release.tag))
    | some latest =>
      if latest.isNewerThan current then r.download showsProgress release latest
      else do
        Act.log .debug .resolution
          s!"Latest release {latest.tag} is not newer than {current.tag}"
        return .ok (.upToDate latest)

/-- Download the latest release if it is newer than `current`, without telling the user. -/
def refresh (r : Resolver) (current : Version) : Act Event (Except (Halt ResolveError) Refreshed) :=
  r.refreshWith false current

/-- Refresh for the next launch. Whatever comes of it is only written to the log. -/
def refreshInBackground (r : Resolver) (current : Version) : Act Event Unit := do
  match ← r.refresh current with
  | .ok (.downloaded s) =>
    Act.log .info .resolution
      s!"Downloaded server {s.version.tag} to {s.path.quoted}; it will be used on next start"
  | .ok (.upToDate latest) =>
    Act.log .debug .resolution
      s!"Cached server {current.tag} is up to date (latest {latest.tag})"
  | .error (.error e) =>
    Act.log .warn .resolution s!"Background server refresh failed: {e.message}"
  | .error .breakdown =>
    Act.log .warn .resolution "Background server refresh task did not complete: task panicked"

/-! ## Resolving -/

/-- Download a server where there is none. -/
def resolveByDownload (r : Resolver) : Act Event (Except (Halt ResolveError) Resolution) := do
  Act.log .info .resolution
    s!"No cached server in {r.cache.dir.quoted}, downloading latest release"
  match ← r.refreshWith r.showsProgress .zero with
  | .error h => return .error h
  | .ok (.upToDate latest) => return .error (.error (.noNewerRelease latest))
  | .ok (.downloaded s) => return .ok ⟨s.path, .download s.version, none⟩

/-- The server to launch now. -/
def resolve (r : Resolver) : Act Event (Except (Halt ResolveError) Resolution) :=
  match r.debugBinary with
  | some path => do
    Act.log .info .resolution s!"Debug mode: using local build {path.quoted}"
    return .ok ⟨path, .debugBuild, none⟩
  | none => do
    match ← r.cache.latest with
    | .error e => return .error (.error (.cache e))
    | .ok (some s) => do
      Act.log .info .resolution s!"Using cached server {s.version.tag} at {s.path.quoted}"
      return .ok ⟨s.path, .cache s.version, some s.version⟩
    | .ok none => r.resolveByDownload

end Resolver

end ServerLauncher
