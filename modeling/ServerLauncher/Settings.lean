import ServerLauncher.Path

/-!
# Settings

What a user can choose : the program to look for, where downloads are kept, the development build
for debug mode, and where releases are published. `Settings.standard` holds for whatever is not
chosen.
-/

namespace ServerLauncher

/-- Where releases are published, and the name under which the feed is asked. -/
structure FeedSettings where
  apiUrl : String
  repoOwner : String
  repoName : String
  userAgent : String
  deriving Repr, DecidableEq

/-- The choices of a user. -/
structure Settings where
  binaryName : String
  /-- The directory of downloads, if it is not the usual one. -/
  cacheDir : Option Path
  debugBinary : Path
  feed : FeedSettings
  deriving Repr, DecidableEq

/-- The usual feed. -/
def FeedSettings.standard : FeedSettings where
  apiUrl := "https://api.github.com"
  repoOwner := "zwade"
  repoName := "ruulang"
  userAgent := "ruulang-launcher"

/-- The usual choices. -/
def Settings.standard : Settings where
  binaryName := "ruulang-server"
  cacheDir := none
  debugBinary := Path.ofString "../compiler/target/debug/ruulang-server"
  feed := FeedSettings.standard

end ServerLauncher
