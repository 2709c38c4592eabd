import ServerLauncher.Proofs.Output

/-!
# What is newest

The list command sorts the servers that are listed, while a resolution and an update pick one of
them. Both come to the same (`Launcher.newest?_of_newestFirst`) : the first line of the list has the
version that a resolution takes from the cache and that an update compares with the release, and if
no two servers have one version, it has the path of the resolution as well.
-/

namespace ServerLauncher

namespace Launcher

variable {r : Resolver} {t : FileTree} {ss es : List CachedServer} {e : CachedServer}

/-! ## The list -/

theorem perm_newestFirst (ss : List CachedServer) : (newestFirst ss).Perm ss :=
  List.mergeSort_perm ..

/-- No server in the list is older than one behind it. -/
theorem pairwise_newestFirst (ss : List CachedServer) :
    (newestFirst ss).Pairwise fun a b => ¬a.version.OlderThan b.version := by
  have htrans : ∀ a b c : CachedServer, b.version.le a.version = true →
      c.version.le b.version = true → c.version.le a.version = true := by
    intro a b c
    simp only [Version.le_iff]
    exact Version.not_olderThan_trans
  have htotal : ∀ a b : CachedServer,
      (b.version.le a.version || a.version.le b.version) = true := by
    intro a b
    simp only [Bool.or_eq_true, Version.le_iff, ← not_and_or]
    exact fun ⟨h, h'⟩ => Version.not_olderThan_self _ (h.trans h')
  refine (List.pairwise_mergeSort htrans htotal ss).imp fun h => ?_
  exact (Version.le_iff _ _).mp h

/-- The server that is picked has the version of the first one in the list. -/
theorem newest?_of_newestFirst (h : newestFirst ss = e :: es) :
    ∃ s ∈ ss, Cache.newest? ss = some s ∧ s.version = e.version ∧
      ((ss.map CachedServer.version).Nodup → s = e) := by
  have hfirst : e ∈ ss := by
    rw [← (perm_newestFirst ss).mem_iff, h]
    exact List.mem_cons_self
  obtain ⟨s, hmem, hs, hmax⟩ := Resolver.exists_newest? (List.ne_nil_of_mem hfirst)
  have hle : ¬e.version.OlderThan s.version := by
    have hsorted := pairwise_newestFirst ss
    rw [← (perm_newestFirst ss).mem_iff, h, List.mem_cons] at hmem
    rw [h, List.pairwise_cons] at hsorted
    rcases hmem with rfl | hmem
    · exact Version.not_olderThan_self _
    · exact hsorted.1 s hmem
  have hversion := Version.eq_of_not_olderThan (hmax e hfirst) hle
  exact ⟨s, hmem, hs, hversion, fun hnodup => List.inj_on_of_nodup_map hnodup hmem hfirst hversion⟩

theorem newestFirst_eq_nil_iff : newestFirst ss = [] ↔ ss = [] := by
  rw [← List.length_eq_zero_iff, (perm_newestFirst ss).length_eq, List.length_eq_zero_iff]

/-- Every line has something in it. -/
theorem join_listLine_eq_empty_iff : String.join (es.map listLine) = "" ↔ es = [] := by
  cases es with
  | nil => simp
  | cons e es => simp [String.append_eq_empty_iff, listLine]

/-! ## The resolution -/

/-- Run the server of a resolution, and do the refresh that it leaves meanwhile. -/
def serve (s : Surroundings) (r : Resolver) (workspace : Option Path) (resolution : Resolution) :
    Act Event TaskResult := do
  match ← Server.spawn s.machine resolution.path (s.env.serverDir workspace) s.vars s.input with
  | .error e => return .error (.error (.spawn e))
  | .ok server => do
    match resolution.pendingRefresh with
    | some current => r.refreshInBackground current
    | none => pure ()
    match ← server.wait with
    | (some status, _) => return .ok (exitCodeOf status)
    | (none, server) => do
      Act.log .info .command "Interrupted, shutting down server"
      server.stop
      return .ok success

theorem runServer_eq (s : Surroundings) (r : Resolver) (workspace : Option Path) :
    runServer s r workspace = (resolveLogged r).andThen (serve s r workspace) :=
  rfl

/-- Resolving gives the server of version `v` at `p` from the cache : its path is printed, and it is
the server that is run. -/
def Selects (s : Surroundings) (r : Resolver) (t : FileTree) (v : Version) (p : Path) : Prop :=
  let u := (r.cache.list.run t).tree
  let resolution : Resolution := ⟨p, .cache v, some v⟩
  ∃ evs, r.resolve.run t = ⟨.ok resolution, u, evs⟩ ∧
    (∀ detach, ((resolve r detach).run t).result = .ok success ∧
      standardOutput ((resolve r detach).run t).events = Utf8.encode (p.display ++ "\n")) ∧
    ∀ workspace,
      let o := (serve s r workspace resolution).run u
      (runServer s r workspace).run t = ⟨o.result, o.tree, evs ++ o.events⟩

theorem selects_of_newest? {found : CachedServer} (s : Surroundings)
    (hdebug : r.debugBinary = none) (hlist : (r.cache.list.run t).result = .ok ss)
    (hfound : Cache.newest? ss = some found) : Selects s r t found.version found.path := by
  have hrun := Resolver.run_resolve_of_listed hdebug hlist hfound
  have hprints := resolve_of_ok hrun
  refine ⟨_, hrun, hprints, fun workspace => ?_⟩
  rw [runServer_eq]
  exact Act.run_andThen_of_ok (run_resolveLogged_of_ok hrun)

/-! ## The whole -/

/-- The commands agree on what is newest. The list command prints all servers that are listed, none
behind an older one, and nothing if there is none. The version of the first one is the one that a
resolution takes from the cache, to print it or to run it, and the one that an update compares the
release with ; and where no two servers have one version, it is the very server that is taken. If
the listing fails, all of them fail with its error and print nothing. -/
theorem commands_agree (s : Surroundings) (r : Resolver) (t : FileTree) :
    (∀ ss, (r.cache.list.run t).result = .ok ss →
      let es := newestFirst ss
      let o := (list r).run t
      es.Perm ss ∧ es.Pairwise (fun a b => ¬a.version.OlderThan b.version) ∧
      o.result = .ok success ∧
      standardOutput o.events = Utf8.encode (String.join (es.map listLine)) ∧
      (standardOutput o.events = [] ↔ ss = []) ∧
      ∀ e rest, es = e :: rest → UpdatesAgainst r t e.version ∧
        (r.debugBinary = none → ∃ p, ⟨e.version, p⟩ ∈ ss ∧ Selects s r t e.version p ∧
          ((ss.map CachedServer.version).Nodup → e.path = p))) ∧
    (∀ e, (r.cache.list.run t).result = .error e →
      ((list r).run t).result = .error (.error (.cache e)) ∧
      standardOutput ((list r).run t).events = [] ∧
      ((update r).run t).result = .error (.error (.cache e)) ∧
      standardOutput ((update r).run t).events = [] ∧
      (r.debugBinary = none → ∀ detach,
        ((resolve r detach).run t).result = .error (.error (.resolve (.cache e))) ∧
        standardOutput ((resolve r detach).run t).events = [])) := by
  refine ⟨fun ss hlist => ?_, fun e hlist => ?_⟩
  · intro es o
    obtain ⟨hresult, houtput⟩ := list_of_listed hlist
    refine ⟨perm_newestFirst ss, pairwise_newestFirst ss, hresult, houtput, ?_, ?_⟩
    · rw [houtput, Utf8.encode_eq_nil_iff, join_listLine_eq_empty_iff, newestFirst_eq_nil_iff]
    · intro e rest hes
      obtain ⟨found, hmem, hfound, hversion, hsame⟩ := newest?_of_newestFirst hes
      have hcurrent : Cache.newestVersion ss = e.version := by
        rw [Cache.newestVersion, hfound, Option.map_some, Option.getD_some, hversion]
      refine ⟨hcurrent ▸ update_of_listed hlist, fun hdebug => ⟨found.path, ?_, ?_, ?_⟩⟩
      · rw [← hversion]
        exact hmem
      · rw [← hversion]
        exact selects_of_newest? s hdebug hlist hfound
      · exact fun hnodup => congrArg CachedServer.path (hsame hnodup).symm
  · obtain ⟨hlisted, houtput⟩ := list_of_error hlist
    obtain ⟨hupdated, houtput'⟩ := update_of_error hlist
    refine ⟨hlisted, houtput, hupdated, houtput', fun hdebug => ?_⟩
    exact resolve_of_error (Resolver.run_resolve_of_error hdebug hlist)

/-- A tree with two servers in `bin`, the older one first. -/
def twoServers : FileTree :=
  FileTree.empty.editEach [
    .file (.ofString "bin/server.v1.0.0") [7] serverMode,
    .file (.ofString "bin/server.v1.2.0") [8] serverMode]

/-- A tree with a file in place of `bin`. -/
def withoutBin : FileTree :=
  FileTree.empty.editEach [.file (.ofString "bin") [7] serverMode]

/-- Of two servers the newer one is read last, printed first and taken. Where there can be no
directory, nothing is printed. -/
theorem commands_agree_sample :
    (Cache.sample.list.run twoServers).result = .ok [
        ⟨⟨1, 0, 0⟩, .ofString "bin/server.v1.0.0"⟩, ⟨⟨1, 2, 0⟩, .ofString "bin/server.v1.2.0"⟩] ∧
      standardOutput ((list (.sample .sample)).run twoServers).events =
        Utf8.encode "v1.2.0\tbin/server.v1.2.0\nv1.0.0\tbin/server.v1.0.0\n" ∧
      UpdatesAgainst (.sample .sample) twoServers ⟨1, 2, 0⟩ ∧
      Selects sampleSurroundings (.sample .sample) twoServers ⟨1, 2, 0⟩
        (.ofString "bin/server.v1.2.0") ∧
      standardOutput ((list (.sample .sample)).run withoutBin).events = [] := by
  have hcache : (Resolver.sample .sample).cache = .sample := rfl
  have hlist : (Cache.sample.list.run twoServers).result = .ok [
      ⟨⟨1, 0, 0⟩, .ofString "bin/server.v1.0.0"⟩, ⟨⟨1, 2, 0⟩, .ofString "bin/server.v1.2.0"⟩] := by
    decide +kernel
  have herror : (Cache.sample.list.run withoutBin).result =
      .error (.writeFailed (.ofString "bin") .alreadyExists) := by
    decide +kernel
  have hle : (⟨1, 2, 0⟩ : Version).le ⟨1, 0, 0⟩ = false := by decide
  have hsorted : newestFirst [
      ⟨⟨1, 0, 0⟩, .ofString "bin/server.v1.0.0"⟩, ⟨⟨1, 2, 0⟩, .ofString "bin/server.v1.2.0"⟩] = [
      ⟨⟨1, 2, 0⟩, .ofString "bin/server.v1.2.0"⟩, ⟨⟨1, 0, 0⟩, .ofString "bin/server.v1.0.0"⟩] := by
    simp [newestFirst, List.mergeSort, hle]
  have htext : String.join ([
      ⟨⟨1, 2, 0⟩, .ofString "bin/server.v1.2.0"⟩,
      ⟨⟨1, 0, 0⟩, .ofString "bin/server.v1.0.0"⟩].map listLine) =
        "v1.2.0\tbin/server.v1.2.0\nv1.0.0\tbin/server.v1.0.0\n" := by
    decide +kernel
  obtain ⟨hlisted, -⟩ := commands_agree sampleSurroundings (.sample .sample) twoServers
  obtain ⟨-, hfailed⟩ := commands_agree sampleSurroundings (.sample .sample) withoutBin
  rw [hcache] at hlisted hfailed
  obtain ⟨-, -, -, houtput, -, hfirst⟩ := hlisted _ hlist
  obtain ⟨hupdate, htaken⟩ := hfirst _ _ hsorted
  obtain ⟨p, -, hselects, hpath⟩ := htaken rfl
  obtain ⟨-, hnothing, -⟩ := hfailed _ herror
  obtain rfl : Path.ofString "bin/server.v1.2.0" = p := hpath (by decide)
  rw [hsorted, htext] at houtput
  exact ⟨hlist, houtput, hupdate, hselects, hnothing⟩

end Launcher

end ServerLauncher
