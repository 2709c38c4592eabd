import ServerLauncher.Proofs.AssetNames
import ServerLauncher.Proofs.Resolving

/-!
# Machines nobody builds for

A machine is supported if both its processor and its system have a name that servers are built for
(`Target.isSupported_ofNames_iff`). Any other machine has a triple as well, with `unknown` in it,
and so a name for its files. No file that is named for a supported machine has that name, so a
release with no other files has nothing for it (`Release.IsForSupported.ne_assetName`). But the name
is an ordinary text, and a release is free to have a file of it : this file is then selected, and a
resolution downloads it (`Resolver.unsupported_iff`).
-/

namespace ServerLauncher

/-! ## Supported machines -/

theorem Arch.ofName_eq_unknown_iff {arch : String} :
    Arch.ofName arch = .unknown ↔ ¬(arch = "aarch64" ∨ arch = "x86_64") := by
  unfold Arch.ofName
  split <;> simp_all

theorem System.ofName_eq_unknown_iff {system : String} :
    System.ofName system = .unknown ↔ ¬(system = "macos" ∨ system = "linux") := by
  unfold System.ofName
  split <;> simp_all

namespace Target

/-- Servers are built for the machine. -/
def IsSupported (t : Target) : Prop :=
  t.arch ≠ .unknown ∧ t.system ≠ .unknown

instance : DecidablePred IsSupported := fun t =>
  inferInstanceAs (Decidable (t.arch ≠ .unknown ∧ t.system ≠ .unknown))

theorem isSupported_ofNames_iff {arch system : String} : (ofNames arch system).IsSupported ↔
    (arch = "aarch64" ∨ arch = "x86_64") ∧ (system = "macos" ∨ system = "linux") := by
  rw [IsSupported, ofNames, Ne, Ne, Arch.ofName_eq_unknown_iff, System.ofName_eq_unknown_iff,
    not_not, not_not]

/-- The triples of machines that are not supported. -/
def unsupportedTriples : List String :=
  ["aarch64-unknown", "x86_64-unknown", "unknown-apple-darwin", "unknown-unknown-linux-gnu",
    "unknown-unknown"]

theorem triple_mem_unsupportedTriples_iff {t : Target} :
    t.triple ∈ unsupportedTriples ↔ ¬t.IsSupported := by
  obtain ⟨arch, system⟩ := t
  cases arch <;> cases system <;> decide

end Target

namespace Release

variable {rel : Release} {binary name : String} {t : Target} {a b : Asset}

/-- The files of the release are all named for supported machines. -/
def IsForSupported (rel : Release) : Prop :=
  ∀ a ∈ rel.assets, ∃ (binary : String) (t : Target), t.IsSupported ∧ a.name = t.assetName binary

/-- No file for a supported machine has the name of one for another machine. -/
theorem IsForSupported.ne_assetName (h : rel.IsForSupported) (ht : ¬t.IsSupported) :
    ∀ a ∈ rel.assets, a.name ≠ t.assetName binary := by
  intro a ha hname
  obtain ⟨binary', t', ht', hname'⟩ := h a ha
  obtain ⟨-, rfl⟩ := Target.assetName_inj.mp (hname.symm.trans hname')
  exact ht ht'

theorem IsFirst.mem (h : rel.IsFirst name a) : a ∈ rel.assets ∧ a.name = name := by
  obtain ⟨before, after, hassets, hname, -⟩ := h
  exact ⟨by simp [hassets], hname⟩

theorem IsFirst.unique (h : rel.IsFirst (t.assetName binary) a)
    (h' : rel.IsFirst (t.assetName binary) b) : a = b :=
  Except.ok.inj ((selectAsset_of_isFirst h).symm.trans (selectAsset_of_isFirst h'))

end Release

/-! ## The calls of a refresh -/

theorem askAsset_mem_notices_iff {es : List Event} {a : Asset} :
    .askAsset a ∈ notices es ↔ .askAsset a ∈ es := by
  simp [notices]

theorem Resolver.askAsset_mem_downloadNotices_iff {r : Resolver} {shows : Bool} {v : Version}
    {a b : Asset} : .askAsset b ∈ .askRelease :: r.downloadNotices shows v a ↔ b = a := by
  cases shows <;> simp [downloadNotices]

namespace Refreshing

variable {r : Resolver} {shows : Bool} {current : Version} {t t' : FileTree} {ns : List Event}
  {res : Except (Halt ResolveError) Refreshed}

/-- A refresh asks for a file exactly if the release is newer than it was told and has the file. -/
theorem askAsset_mem_iff (h : Refreshing r shows current t ns res t') {a : Asset} :
    .askAsset a ∈ ns ↔ ∃ rel u es v, r.feed.latest.run t = ⟨.ok rel, u, es⟩ ∧
      Version.parse? rel.tag = some v ∧ current.OlderThan v ∧ rel.IsFirst r.assetName a := by
  have hasked : ∀ {rel u es v b}, r.feed.latest.run t = ⟨.ok rel, u, es⟩ →
      Version.parse? rel.tag = some v → current.OlderThan v → rel.IsFirst r.assetName b →
      (.askAsset a ∈ .askRelease :: r.downloadNotices shows v b ↔
        ∃ rel u es v, r.feed.latest.run t = ⟨.ok rel, u, es⟩ ∧
          Version.parse? rel.tag = some v ∧ current.OlderThan v ∧ rel.IsFirst r.assetName a) := by
    intro rel u es v b hlatest hparse hnew hfirst
    rw [Resolver.askAsset_mem_downloadNotices_iff]
    constructor
    · rintro rfl
      exact ⟨rel, u, es, v, hlatest, hparse, hnew, hfirst⟩
    · rintro ⟨rel', u', es', v', hlatest', -, -, hfirst'⟩
      cases hlatest.symm.trans hlatest'
      exact hfirst'.unique hfirst
  cases h with
  | noRelease hlatest => simp [hlatest]
  | invalidTag hlatest hparse => simp [hlatest, hparse]
  | upToDate hlatest hparse hold => simp [hlatest, hparse, hold]
  | noAsset hlatest hparse hnew hnone =>
    simp only [List.mem_singleton, reduceCtorEq, false_iff]
    rintro ⟨rel', u', es', v', hlatest', -, -, hfirst⟩
    cases hlatest.symm.trans hlatest'
    obtain ⟨hmem, hname⟩ := hfirst.mem
    exact hnone a hmem hname
  | noContent hlatest hparse hnew hfirst => exact hasked hlatest hparse hnew hfirst
  | notStored hlatest hparse hnew hfirst => exact hasked hlatest hparse hnew hfirst
  | downloaded hlatest hparse hnew hfirst => exact hasked hlatest hparse hnew hfirst

/-- A refresh that asks for no file leaves the tree as the feed has left it, and no server. -/
theorem of_not_asked (h : Refreshing r shows current t ns res t') (hns : ∀ a, .askAsset a ∉ ns) :
    t' = (r.feed.latest.run t).tree ∧ ∀ s, res ≠ .ok (.downloaded s) := by
  have hasked : ∀ {v b}, .askAsset b ∈ .askRelease :: r.downloadNotices shows v b :=
    Resolver.askAsset_mem_downloadNotices_iff.mpr rfl
  cases h with
  | noRelease hlatest => simp [hlatest]
  | invalidTag hlatest => simp [hlatest]
  | upToDate hlatest => simp [hlatest]
  | noAsset hlatest => simp [hlatest]
  | noContent => exact absurd hasked (hns _)
  | notStored => exact absurd hasked (hns _)
  | downloaded => exact absurd hasked (hns _)

end Refreshing

/-! ## The whole -/

namespace Resolver

variable {r : Resolver} {t : FileTree}

/-- With an empty cache, a resolution asks for the files that a refresh asks for, and where it asks
for none it leaves the tree to the feed and finds no server. -/
theorem resolve_of_empty_asks (hdebug : r.debugBinary = none)
    (hempty : (r.cache.list.run t).result = .ok []) :
    (∀ a, .askAsset a ∈ (r.resolve.run t).events ↔
      ∃ rel u es v, r.feed.latest.run (r.cache.list.run t).tree = ⟨.ok rel, u, es⟩ ∧
        Version.parse? rel.tag = some v ∧ Version.zero.OlderThan v ∧
        rel.IsFirst r.assetName a) ∧
    ((∀ a, .askAsset a ∉ (r.resolve.run t).events) →
      (r.resolve.run t).tree = (r.feed.latest.run (r.cache.list.run t).tree).tree ∧
        ∃ h, (r.resolve.run t).result = .error h) := by
  obtain ⟨hevents, hresult, htree⟩ := resolve_of_empty hdebug hempty
  have hrules : Refreshing r r.showsProgress .zero (r.cache.list.run t).tree _ _ _ :=
    refreshing_iff.mpr ⟨rfl, rfl, rfl⟩
  have hcalls : ∀ a, .askAsset a ∈ (r.resolve.run t).events ↔ .askAsset a ∈
      notices ((r.refreshWith r.showsProgress .zero).run (r.cache.list.run t).tree).events := by
    intro a
    rw [← hevents, askAsset_mem_notices_iff]
  refine ⟨fun a => (hcalls a).trans hrules.askAsset_mem_iff, fun hnone => ?_⟩
  obtain ⟨hleft, hend⟩ := hrules.of_not_asked fun a => (hcalls a).not.mp (hnone a)
  refine ⟨htree.trans hleft, ?_⟩
  rw [hresult]
  rcases hres : ((r.refreshWith r.showsProgress .zero).run (r.cache.list.run t).tree).result with
    h | s | latest
  · exact ⟨h, rfl⟩
  · exact absurd hres (hend s)
  · exact ⟨_, rfl⟩

/-- A machine whose processor or system has another name than those that servers are built for has
`unknown` in its triple. The selection fails on it exactly if no file of the release has the name
that goes with this triple, as it is where all files are named for supported machines. With an empty
cache, a resolution asks for a file exactly if the latest release has one of that name and is newer
than nothing ; if it asks for none, it finds no server and stores none. In debug mode it asks for
nothing and changes nothing. -/
theorem unsupported_iff (arch system : String)
    (hnames : ¬((arch = "aarch64" ∨ arch = "x86_64") ∧ (system = "macos" ∨ system = "linux"))) :
    let target := Target.ofNames arch system
    target.triple ∈ Target.unsupportedTriples ∧
    (∀ (rel : Release) (binary : String),
      (rel.selectAsset binary target = .error ⟨target.triple, binary ++ "." ++ target.triple⟩ ↔
        ∀ a ∈ rel.assets, a.name ≠ binary ++ "." ++ target.triple) ∧
      (rel.IsForSupported →
        rel.selectAsset binary target = .error ⟨target.triple, binary ++ "." ++ target.triple⟩)) ∧
    ∀ (r : Resolver) (t : FileTree), r.target = target → (r.cache.list.run t).result = .ok [] →
      let u := (r.cache.list.run t).tree
      let o := r.resolve.run t
      (r.debugBinary = none →
        (∀ a, .askAsset a ∈ o.events ↔ ∃ rel u' es v, r.feed.latest.run u = ⟨.ok rel, u', es⟩ ∧
          Version.parse? rel.tag = some v ∧ Version.zero.OlderThan v ∧
          rel.IsFirst (r.cache.binaryName ++ "." ++ target.triple) a) ∧
        ((∀ rel u' es, r.feed.latest.run u = ⟨.ok rel, u', es⟩ → rel.IsForSupported) →
          ∀ a, .askAsset a ∉ o.events) ∧
        ((∀ a, .askAsset a ∉ o.events) →
          o.tree = (r.feed.latest.run u).tree ∧ ∃ h, o.result = .error h)) ∧
      (r.debugBinary ≠ none → (∀ a, .askAsset a ∉ o.events) ∧ o.tree = t) := by
  intro target
  have ht : ¬target.IsSupported := mt Target.isSupported_ofNames_iff.mp hnames
  refine ⟨Target.triple_mem_unsupportedTriples_iff.mpr ht, fun rel binary => ?_, ?_⟩
  · have hiff : rel.selectAsset binary target =
        .error ⟨target.triple, binary ++ "." ++ target.triple⟩ ↔
          ∀ a ∈ rel.assets, a.name ≠ binary ++ "." ++ target.triple :=
      Release.selectAsset_eq_error_iff.trans (and_iff_left rfl)
    exact ⟨hiff, fun hrel => hiff.mpr (hrel.ne_assetName ht)⟩
  · intro r t htarget hempty u o
    refine ⟨fun hdebug => ?_, fun hdebug => ?_⟩
    · obtain ⟨hasks, hnone⟩ := resolve_of_empty_asks hdebug hempty
      rw [assetName, htarget] at hasks
      refine ⟨hasks, fun hrel a ha => ?_, hnone⟩
      obtain ⟨rel, u', es, v, hlatest, -, -, hfirst⟩ := (hasks a).mp ha
      obtain ⟨hmem, hname⟩ := hfirst.mem
      exact (hrel rel u' es hlatest).ne_assetName ht a hmem hname
    · obtain ⟨p, hp⟩ := Option.ne_none_iff_exists'.mp hdebug
      have hrun := run_resolve_of_debug hp t
      refine ⟨fun a ha => ?_, congrArg Outcome.tree hrun⟩
      rw [show o = _ from hrun] at ha
      simp at ha

/-- A resolver for a machine whose processor nobody builds for. -/
def riscvSample : Resolver :=
  { sample Cache.sample with target := .ofNames "riscv64" "linux" }

/-- A release with a file for one of the supported machines has none for this one. The file is not
asked for, and nothing is there afterwards but the directory. -/
theorem unsupported_riscv :
    Release.selectAsset ⟨"v2.0.0", [⟨"server.x86_64-unknown-linux-gnu", "https://host/s"⟩]⟩ "server"
        (.ofNames "riscv64" "linux") =
      .error ⟨"unknown-unknown-linux-gnu", "server.unknown-unknown-linux-gnu"⟩ ∧
      (∀ a, .askAsset a ∉ (riscvSample.resolve.run FileTree.empty).events) ∧
      (riscvSample.resolve.run FileTree.empty).tree =
        (riscvSample.cache.list.run FileTree.empty).tree := by
  obtain ⟨-, hselect, hresolve⟩ := unsupported_iff "riscv64" "linux" (by decide)
  have hrel : Release.IsForSupported
      ⟨"v2.0.0", [⟨"server.x86_64-unknown-linux-gnu", "https://host/s"⟩]⟩ := by
    intro a ha
    obtain rfl := List.mem_singleton.mp ha
    exact ⟨"server", ⟨.x86_64, .linuxGnu⟩, by decide, by decide⟩
  obtain ⟨hasked, -⟩ := hresolve riscvSample FileTree.empty rfl (by decide +kernel)
  obtain ⟨-, hnone, htree⟩ := hasked rfl
  have hasks : ∀ a, .askAsset a ∉ (riscvSample.resolve.run FileTree.empty).events := by
    refine hnone fun rel u es hlatest => ?_
    obtain rfl := Except.ok.inj (congrArg Outcome.result hlatest)
    exact hrel
  exact ⟨(hselect _ "server").2 hrel, hasks, (htree hasks).1⟩

/-- A release with a file for a system that it does not know. -/
def strayRelease : Release :=
  ⟨"v1.0.0", [⟨"server.x86_64-unknown", "https://host/s"⟩]⟩

/-- A resolver for such a system, with that release. -/
def straySample : Resolver where
  feed := ⟨pure (.ok strayRelease), fun _ => pure (.ok [2, 3])⟩
  cache := .sample
  target := .ofNames "x86_64" "windows"
  debugBinary := none
  showsProgress := false

/-- A machine that is not supported can get a file all the same : it is selected, asked for, stored
and launched. -/
theorem stray_asset_is_stored :
    strayRelease.selectAsset "server" (.ofNames "x86_64" "windows") =
        .ok ⟨"server.x86_64-unknown", "https://host/s"⟩ ∧
      (straySample.cache.list.run FileTree.empty).result = .ok [] ∧
      .askAsset ⟨"server.x86_64-unknown", "https://host/s"⟩ ∈
        (straySample.resolve.run FileTree.empty).events ∧
      (straySample.resolve.run FileTree.empty).result =
        .ok ⟨.ofString "bin/server.v1.0.0", .download ⟨1, 0, 0⟩, none⟩ ∧
      ((straySample.resolve.run FileTree.empty).tree.find
        (.ofString "bin/server.v1.0.0")).map Prod.snd = .ok (.file serverMode [2, 3]) := by
  decide +kernel

end Resolver

end ServerLauncher
