import ServerLauncher.Proofs.Canonical
import ServerLauncher.Proofs.Output

/-!
# What an update tells

The line that an update prints can be read back : no tag has a space in it, so the version is where
the line has it (`Launcher.downloadedLine_inj`, `Launcher.upToDateLine_inj`). What it tells is then
held against the servers that were listed (`Launcher.update_tells`). A download is of a version
newer than all of them. If there is nothing to download, one of them is not older than the release,
but for one case : no server at all is taken for a server of version `0.0.0`, and so a release of
that version is told to be there already where nothing is.
-/

namespace ServerLauncher

/-! ## Lines -/

theorem Version.space_not_mem_tag (v : Version) : ' ' ∉ v.tag.toList :=
  not_mem_tag (by decide) (by decide) v

namespace Launcher

variable {v w : Version} {p q : String} {r : Resolver} {t : FileTree} {ss : List CachedServer}
  {res : Except (Halt ResolveError) Refreshed}

theorem downloadedLine_eq (v : Version) (p : String) :
    downloadedLine v p = "Downloaded " ++ v.tag ++ " to " ++ p ++ "\n" :=
  rfl

theorem upToDateLine_eq (v : Version) :
    upToDateLine v = "Already up to date (latest release " ++ v.tag ++ ")\n" :=
  rfl

/-- The line of a download says which version it is of, and where it was put. -/
theorem downloadedLine_inj : downloadedLine v p = downloadedLine w q ↔ v = w ∧ p = q := by
  refine ⟨fun h => ?_, fun ⟨hv, hp⟩ => hv ▸ hp ▸ rfl⟩
  have hspace : " to ".toList = ' ' :: "to ".toList := rfl
  rw [downloadedLine_eq, downloadedLine_eq] at h
  simp only [String.append_assoc, String.append_right_inj] at h
  rw [← String.toList_inj] at h
  simp only [String.toList_append, hspace, List.cons_append] at h
  obtain ⟨htag, hpath⟩ := append_cons_inj_of_not_mem v.space_not_mem_tag w.space_not_mem_tag h
  rw [List.append_cancel_left_eq, List.append_cancel_right_eq, String.toList_inj] at hpath
  exact ⟨Version.tag_injective (String.toList_inj.mp htag), hpath⟩

theorem upToDateLine_inj : upToDateLine v = upToDateLine w ↔ v = w := by
  rw [upToDateLine_eq, upToDateLine_eq, String.append_left_inj, String.append_right_inj,
    Version.tag_injective.eq_iff]

theorem head?_downloadedLine (v : Version) (p : String) :
    (downloadedLine v p).toList.head? = some 'D' := by
  rw [downloadedLine_eq]
  simp only [String.append_assoc, String.toList_append]
  rfl

theorem head?_upToDateLine (v : Version) : (upToDateLine v).toList.head? = some 'A' := by
  rw [upToDateLine_eq]
  simp only [String.append_assoc, String.toList_append]
  rfl

/-- Only a download is told like one. -/
theorem updateText_eq_downloadedLine_iff : updateText res = downloadedLine v p ↔
    ∃ s, res = .ok (.downloaded s) ∧ s.version = v ∧ s.path.display = p := by
  have hfirst := head?_downloadedLine v p
  rcases res with h | s | latest
  · refine ⟨fun htext => ?_, by simp⟩
    rw [← htext] at hfirst
    cases hfirst
  · simp [updateText, downloadedLine_inj]
  · refine ⟨fun htext => ?_, by simp⟩
    rw [← htext, updateText, head?_upToDateLine] at hfirst
    cases hfirst

theorem updateText_eq_upToDateLine_iff :
    updateText res = upToDateLine v ↔ res = .ok (.upToDate v) := by
  have hfirst := head?_upToDateLine v
  rcases res with h | s | latest
  · refine ⟨fun htext => ?_, by simp⟩
    rw [← htext] at hfirst
    cases hfirst
  · refine ⟨fun htext => ?_, by simp⟩
    rw [← htext, updateText, head?_downloadedLine] at hfirst
    cases hfirst
  · simp [updateText, upToDateLine_inj]

end Launcher

/-! ## The end of a refresh -/

/-- A server that is not older than `v`, or no server at all and nothing to compare with it. -/
theorem Cache.not_newestVersion_olderThan_iff {ss : List CachedServer} {v : Version} :
    ¬(newestVersion ss).OlderThan v ↔
      (∃ s ∈ ss, ¬s.version.OlderThan v) ∨ ss = [] ∧ v = .zero := by
  rcases eq_or_ne ss [] with rfl | hss
  · simp [newestVersion_olderThan_iff, Version.zero_olderThan_iff]
  · obtain ⟨s, hs⟩ := List.exists_mem_of_ne_nil ss hss
    have hiff : (newestVersion ss).OlderThan v ↔ ∀ s ∈ ss, s.version.OlderThan v :=
      newestVersion_olderThan_iff.trans
        (and_iff_right_of_imp fun hall => Version.zero_olderThan (hall s hs))
    simp [hiff, hss]

theorem Resolver.refreshing_refresh (r : Resolver) (current : Version) (t : FileTree) :
    Refreshing r false current t (notices ((r.refresh current).run t).events)
      ((r.refresh current).run t).result ((r.refresh current).run t).tree :=
  refreshing_iff.mpr ⟨rfl, rfl, rfl⟩

namespace Refreshing

variable {r : Resolver} {shows : Bool} {current v : Version} {t t' : FileTree} {ns : List Event}

/-- What a refresh has downloaded is newer than what it was told, and lies in its place. -/
theorem downloaded_inv {s : CachedServer}
    (h : Refreshing r shows current t ns (.ok (.downloaded s)) t') :
    current.OlderThan s.version ∧ s.path = r.cache.pathFor s.version := by
  cases h with
  | downloaded _ _ hnew => exact ⟨hnew, rfl⟩

/-- A refresh that finds nothing to do was told a version that is not older than the release. -/
theorem upToDate_inv (h : Refreshing r shows current t ns (.ok (.upToDate v)) t') :
    ¬current.OlderThan v ∧ (r.feed.Quiet → t' = t) := by
  cases h with
  | upToDate hlatest _ hold =>
    refine ⟨hold, fun hquiet => ?_⟩
    have hsame := hquiet.latest t
    rwa [hlatest] at hsame

end Refreshing

/-! ## The truth of it -/

namespace Launcher

variable {r : Resolver} {t : FileTree} {ss : List CachedServer} {v : Version} {p : String}

/-- A listing, and the end of the refresh, stand behind every line that an update prints. -/
theorem exists_of_updateText {text : String} (hne : text ≠ "")
    (h : standardOutput ((update r).run t).events = Utf8.encode text) :
    ∃ ss, (r.cache.list.run t).result = .ok ss ∧
      updateText ((r.refresh (Cache.newestVersion ss)).run (r.cache.list.run t).tree).result =
        text := by
  cases hlist : (r.cache.list.run t).result with
  | error e =>
    rw [(update_of_error hlist).2] at h
    exact absurd (Utf8.encode_eq_nil_iff.mp h.symm) hne
  | ok ss =>
    obtain ⟨-, -, houtput⟩ := update_of_listed hlist
    exact ⟨ss, rfl, Utf8.encode_inj.mp (houtput.symm.trans h)⟩

/-- A download is told of a version that is newer than every server that was there, and of the place
that this version has. That there is nothing to download is told if a server that is there has the
version of the release or a newer one, and it is still there afterwards if the feed leaves the tree
alone ; and it is told if no server is there and the release has version `0.0.0`. -/
theorem update_tells (r : Resolver) (t : FileTree) (v : Version) :
    let o := (update r).run t
    (∀ path, standardOutput o.events = Utf8.encode (downloadedLine v path) →
      path = (r.cache.pathFor v).display ∧ r.cache.IsBehind t v ∧
        ∃ ss, (r.cache.list.run t).result = .ok ss ∧ ∀ s ∈ ss, s.version.OlderThan v) ∧
    (standardOutput o.events = Utf8.encode (upToDateLine v) →
      ∃ ss, (r.cache.list.run t).result = .ok ss ∧
        ((∃ s ∈ ss, ¬s.version.OlderThan v) ∨ ss = [] ∧ v = .zero) ∧
        (r.feed.Quiet → (r.cache.list.run o.tree).result = .ok ss)) ∧
    ((r.cache.list.run t).result = .ok [] → ∀ rel u es,
      r.feed.latest.run (r.cache.list.run t).tree = ⟨.ok rel, u, es⟩ →
      Version.parse? rel.tag = some .zero →
        o.result = .ok success ∧ standardOutput o.events = Utf8.encode (upToDateLine .zero)) := by
  intro o
  refine ⟨fun path h => ?_, fun h => ?_, fun hlist rel u es hlatest hparse => ?_⟩
  · have hne : downloadedLine v path ≠ "" := by
      intro hempty
      simpa [hempty] using head?_downloadedLine v path
    obtain ⟨ss, hlist, htext⟩ := exists_of_updateText hne h
    obtain ⟨s, hdownloaded, rfl, rfl⟩ := updateText_eq_downloadedLine_iff.mp htext
    have hrules := r.refreshing_refresh (Cache.newestVersion ss) (r.cache.list.run t).tree
    rw [hdownloaded] at hrules
    obtain ⟨hnew, hpath⟩ := hrules.downloaded_inv
    exact ⟨by rw [hpath], Cache.isBehind_of_list hlist hnew, ss, hlist,
      (Cache.newestVersion_olderThan_iff.mp hnew).2⟩
  · have hne : upToDateLine v ≠ "" := by
      intro hempty
      simpa [hempty] using head?_upToDateLine v
    obtain ⟨ss, hlist, htext⟩ := exists_of_updateText hne h
    have hcurrent := updateText_eq_upToDateLine_iff.mp htext
    have hrules := r.refreshing_refresh (Cache.newestVersion ss) (r.cache.list.run t).tree
    rw [hcurrent] at hrules
    obtain ⟨hold, hsame⟩ := hrules.upToDate_inv
    refine ⟨ss, hlist, Cache.not_newestVersion_olderThan_iff.mp hold, fun hquiet => ?_⟩
    rw [tree_update hlist, hsame hquiet]
    exact (Cache.list_again hlist).1
  · obtain ⟨hresult, -, houtput⟩ := update_of_listed hlist
    have hrules : Refreshing r false (Cache.newestVersion []) _ _ _ u :=
      .upToDate hlatest hparse (Version.not_olderThan_self _)
    have hcurrent : ((r.refresh (Cache.newestVersion [])).run (r.cache.list.run t).tree).result =
        .ok (.upToDate .zero) :=
      (refreshing_iff.mp hrules).2.1
    rw [hcurrent] at hresult houtput
    exact ⟨hresult, houtput⟩

/-- A feed whose release has this tag and no files. -/
def bareFeed (tag : String) : Feed where
  latest := pure (.ok ⟨tag, []⟩)
  content := fun _ => pure (.error .breakdown)

/-- With version `1.0.0` there, version `2.0.0` is downloaded, and of a release `1.0.0` it is told
that it is there, which it is. -/
theorem update_tells_sample :
    standardOutput ((update (.sample .sample)).run (Cache.sampleTree [7])).events =
        Utf8.encode (downloadedLine ⟨2, 0, 0⟩ "bin/server.v2.0.0") ∧
      Cache.sample.IsBehind (Cache.sampleTree [7]) ⟨2, 0, 0⟩ ∧
      standardOutput ((update ((Resolver.sample .sample).withFeed (bareFeed "v1.0.0"))).run
        (Cache.sampleTree [7])).events = Utf8.encode (upToDateLine ⟨1, 0, 0⟩) ∧
      ∃ ss, (Cache.sample.list.run (Cache.sampleTree [7])).result = .ok ss ∧
        ∃ s ∈ ss, ¬s.version.OlderThan ⟨1, 0, 0⟩ := by
  have hdownloaded : standardOutput
      ((update (.sample .sample)).run (Cache.sampleTree [7])).events =
        Utf8.encode (downloadedLine ⟨2, 0, 0⟩ "bin/server.v2.0.0") := by
    decide +kernel
  have hcurrent : standardOutput
      ((update ((Resolver.sample .sample).withFeed (bareFeed "v1.0.0"))).run
        (Cache.sampleTree [7])).events = Utf8.encode (upToDateLine ⟨1, 0, 0⟩) := by
    decide +kernel
  obtain ⟨htold, -, -⟩ := update_tells (.sample .sample) (Cache.sampleTree [7]) ⟨2, 0, 0⟩
  obtain ⟨-, htold', -⟩ := update_tells ((Resolver.sample .sample).withFeed (bareFeed "v1.0.0"))
    (Cache.sampleTree [7]) ⟨1, 0, 0⟩
  obtain ⟨-, hbehind, -⟩ := htold _ hdownloaded
  obtain ⟨ss, hlist, hcase, -⟩ := htold' hcurrent
  have hcache : ((Resolver.sample .sample).withFeed (bareFeed "v1.0.0")).cache = .sample := rfl
  rw [hcache] at hlist
  refine ⟨hdownloaded, hbehind, hcurrent, ss, hlist, ?_⟩
  exact hcase.resolve_right fun ⟨_, hzero⟩ => absurd hzero (by decide)

/-- Answers for a release of version `0.0.0`. -/
def zeroRoutes : RouteTable := [
  ⟨"/repos/zwade/ruulang/releases/latest", 200, [],
    Utf8.encode "\x7b\"tag_name\":\"v0.0.0\",\"assets\":[]\x7d", none⟩]

/-- A launcher on a web with that release. -/
def zeroSurroundings : Surroundings :=
  { sampleSurroundings with web := fun u => some (zeroRoutes.answer u.target).message }

/-- The cache of that launcher. -/
def zeroCache : Cache :=
  ⟨.ofString "d/ruulang/bin", "ruulang-server"⟩

/-- Of a release of version `0.0.0` an update tells that it is there though no server is, neither
before nor afterwards. A resolution with the same release fails and prints nothing. -/
theorem update_of_nothing :
    (zeroCache.list.run FileTree.empty).result = .ok [] ∧
      ((run zeroSurroundings [Utf8.encode "update"]).run FileTree.empty).result = success ∧
      standardOutput ((run zeroSurroundings [Utf8.encode "update"]).run FileTree.empty).events =
        Utf8.encode (upToDateLine .zero) ∧
      (zeroCache.list.run ((run zeroSurroundings [Utf8.encode "update"]).run
        FileTree.empty).tree).result = .ok [] ∧
      ((run zeroSurroundings [Utf8.encode "resolve"]).run FileTree.empty).result = failure ∧
      standardOutput ((run zeroSurroundings [Utf8.encode "resolve"]).run FileTree.empty).events =
        [] := by
  decide +kernel

end Launcher

end ServerLauncher
