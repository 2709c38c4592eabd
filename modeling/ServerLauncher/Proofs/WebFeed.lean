import ServerLauncher.Proofs.Classifying
import ServerLauncher.Proofs.Growing

/-!
# What a feed on the web takes

A feed on the web leaves the tree alone (`ReleaseApi.quiet_feed`), for a request does nothing but
send and read. It takes nothing for a release document or a file but what their addresses deliver,
so that whatever it offers is published there (`ReleaseApi.publishes_of_offers`).
-/

namespace ServerLauncher

/-! ## Requests and the tree -/

namespace Web

/-- Wherever redirects lead, the tree stays as it is. -/
theorem tree_follow (web : Web) (header : Header) (start : Url) (n : Nat) (u : Url)
    (t : FileTree) : ((web.follow header start n u).run t).tree = t := by
  fun_induction Web.follow web header start n u with
  | case1 => rfl
  | case2 => rfl
  | case3 n u hurl bs hsent ih =>
    simp only [Act.run_bind, Act.emit]
    cases hread : Response.read? bs with
    | none => rfl
    | some r =>
      specialize ih r
      cases hnext : nextUrl? u r with
      | none => simp only [hnext, Act.run_pure]
      | some v =>
        simp only [hnext] at ih ⊢
        cases n with
        | zero => rfl
        | succ n => exact ih

/-- A request leaves the tree alone, whether it gets an answer or not. -/
theorem tree_fetch (web : Web) (header : Header) (address : String) (t : FileTree) :
    ((web.fetch header address).run t).tree = t := by
  rcases web.fetch_cases header address with ⟨e, heq⟩ | ⟨u, v, -, -, -, heq⟩
  · rw [heq]
    rfl
  · rw [heq]
    exact tree_follow web header u.withoutUser maxRedirects v t

end Web

/-! ## Feeds on the web -/

namespace ReleaseApi

variable {web : Web} {settings : FeedSettings} {feed : Feed} {t : FileTree} {data : Bytes}

theorem tree_fetchLatest (web : Web) (userAgent : Bytes) (url : String) (t : FileTree) :
    ((fetchLatest web userAgent url).run t).tree = t := by
  have htree := web.tree_fetch ⟨documentType, userAgent⟩ url t
  simp only [fetchLatest, Act.run_bind, Act.feedLog, Act.emit]
  cases ((web.fetch ⟨documentType, userAgent⟩ url).run t).result with
  | error e => simp [Act.run_pure, htree]
  | ok f =>
    simp only
    split
    case isFalse => simp [Act.run_bind, Act.run_pure, htree]
    case isTrue =>
      cases f.body with
      | error e => simp [Act.run_pure, htree]
      | ok data =>
        simp only [readDocument]
        cases Release.ofDocument (Utf8.decodeLossy data) with
        | error e => simp [Act.run_bind, Act.run_pure, Act.feedLog, Act.emit, htree]
        | ok rel => simp [Act.run_pure, htree]

theorem tree_fetchContent (web : Web) (userAgent : Bytes) (a : Asset) (t : FileTree) :
    ((fetchContent web userAgent a).run t).tree = t := by
  have htree := web.tree_fetch ⟨contentType, userAgent⟩ a.url t
  simp only [fetchContent, Act.run_bind, Act.feedLog, Act.emit]
  cases ((web.fetch ⟨contentType, userAgent⟩ a.url).run t).result with
  | error e => simp [Act.run_pure, htree]
  | ok f =>
    simp only
    split
    case isFalse => simp [Act.run_bind, Act.run_pure, htree]
    case isTrue => cases f.body <;> simp [Act.run_bind, Act.run_pure, htree]

/-- Whatever a feed on the web is asked for, the tree stays as it is. -/
theorem quiet_feed (h : feed? web settings = some feed) : feed.Quiet := by
  obtain ⟨-, rfl⟩ := feed?_eq_some_iff.mp h
  exact ⟨tree_fetchLatest web _ _, tree_fetchContent web _⟩

/-- The release document that the web delivers has `v` for its tag, and for the first of its files
called `name` the web delivers `data`. -/
def Publishes (web : Web) (settings : FeedSettings) (name : String) (v : Version) (data : Bytes) :
    Prop :=
  ∃ document rel a, web.Delivers (latestUrl settings) document ∧
    Release.ofDocument (Utf8.decodeLossy document) = .ok rel ∧
    Version.parse? rel.tag = some v ∧ rel.IsFirst name a ∧ web.Delivers a.url data

/-- What a feed on the web offers is published there. -/
theorem publishes_of_offers {r : Resolver} {v : Version}
    (hfeed : feed? web settings = some r.feed) (hoffers : r.Offers t v data) :
    Publishes web settings r.assetName v data := by
  obtain ⟨-, hfeed⟩ := feed?_eq_some_iff.mp hfeed
  obtain ⟨rel, a, hlatest, hparse, hfirst, hcontent⟩ := hoffers
  rw [← hfeed] at hlatest hcontent
  obtain ⟨document, hdelivers, hdocument⟩ := fetchLatest_eq_ok_iff.mp hlatest
  exact ⟨document, rel, a, hdelivers, hdocument, hparse, hfirst, fetchContent_eq_ok_iff.mp hcontent⟩

end ReleaseApi

end ServerLauncher
