import ServerLauncher.Proofs.Refresh

/-!
# Which asset is selected

The asset that is selected for a program and a machine is the first one of the name that belongs to
them, and there is none exactly if no asset has this name. `Target.tripleOf` is the triple of a
machine, told from the names of its processor and its system alone, and `Target.ofNames` gets to it
(`Target.triple_ofNames`).

A name belongs to one program and one target only (`Target.assetName_inj`), whatever points and
dashes are in it : no triple has a point, so the last point ends the name of the program, and no
architecture has a dash, so the first dash behind it ends the architecture.
-/

namespace ServerLauncher

/-! ## Triples -/

/-- The first dash of a triple ends the architecture. -/
theorem Arch.dash_not_mem_text (a : Arch) : '-' ∉ a.text.toList := by
  cases a <;> decide

theorem Arch.text_injective : Function.Injective Arch.text := by
  intro a b h
  cases a <;> cases b <;> first | rfl | exact absurd h (by decide)

theorem System.text_injective : Function.Injective System.text := by
  intro a b h
  cases a <;> cases b <;> first | rfl | exact absurd h (by decide)

namespace Target

variable {t t' : Target} {binary binary' : String}

/-- The triple of a machine, from the name of its processor and the name of its system. What
servers are not built for is `unknown` in it. -/
def tripleOf (arch system : String) : String :=
  (if arch = "aarch64" ∨ arch = "x86_64" then arch else "unknown") ++ "-" ++
    if system = "macos" then "apple-darwin"
    else if system = "linux" then "unknown-linux-gnu"
    else "unknown"

/-- A machine that is known by its names has the triple of these names. -/
theorem triple_ofNames (arch system : String) :
    (ofNames arch system).triple = tripleOf arch system := by
  have harch : (Arch.ofName arch).text =
      if arch = "aarch64" ∨ arch = "x86_64" then arch else "unknown" := by
    unfold Arch.ofName
    split
    case h_1 | h_2 => rfl
    case h_3 haarch hx86 => rw [if_neg (not_or.mpr ⟨haarch, hx86⟩), Arch.text]
  have hsystem : (System.ofName system).text =
      if system = "macos" then "apple-darwin"
      else if system = "linux" then "unknown-linux-gnu" else "unknown" := by
    unfold System.ofName
    split
    case h_1 | h_2 => rfl
    case h_3 hmacos hlinux => rw [if_neg hmacos, if_neg hlinux, System.text]
  rw [triple, tripleOf, ← harch, ← hsystem, ofNames]

theorem toList_triple (t : Target) :
    t.triple.toList = t.arch.text.toList ++ '-' :: t.system.text.toList := by
  simp [triple, String.toList_append]

/-- The last point of an asset's name ends the name of the program. -/
theorem dot_not_mem_triple (t : Target) : '.' ∉ t.triple.toList := by
  obtain ⟨arch, system⟩ := t
  cases arch <;> cases system <;> decide

/-- Different targets have different triples. -/
theorem triple_injective : Function.Injective triple := by
  intro t t' h
  have hcut := congrArg String.toList h
  rw [toList_triple, toList_triple] at hcut
  obtain ⟨harch, hsystem⟩ :=
    append_cons_inj_of_not_mem t.arch.dash_not_mem_text t'.arch.dash_not_mem_text hcut
  obtain ⟨arch, system⟩ := t
  obtain ⟨arch', system'⟩ := t'
  rw [mk.injEq]
  exact ⟨Arch.text_injective (String.toList_inj.mp harch),
    System.text_injective (String.toList_inj.mp hsystem)⟩

/-- The name of an asset tells the program and the target. -/
theorem assetName_inj : t.assetName binary = t'.assetName binary' ↔ binary = binary' ∧ t = t' := by
  refine ⟨fun h => ?_, fun ⟨hbinary, ht⟩ => hbinary ▸ ht ▸ rfl⟩
  have hcut : binary.toList ++ '.' :: t.triple.toList =
      binary'.toList ++ '.' :: t'.triple.toList := by
    simpa [assetName, String.toList_append] using congrArg String.toList h
  -- a program may have points in its name, so the cut is told by the points behind it
  have hcount : t.triple.toList.count '.' = t'.triple.toList.count '.' := by
    rw [List.count_eq_zero_of_not_mem t.dot_not_mem_triple,
      List.count_eq_zero_of_not_mem t'.dot_not_mem_triple]
  obtain ⟨hbinary, htriple⟩ := append_cons_inj_of_count hcut hcount
  exact ⟨String.toList_inj.mp hbinary, triple_injective (String.toList_inj.mp htriple)⟩

end Target

/-! ## The selection -/

namespace Release

variable {rel : Release} {binary : String} {target : Target}

/-- An asset is selected exactly if it is the first one of the right name. -/
theorem selectAsset_eq_ok_iff {a : Asset} :
    rel.selectAsset binary target = .ok a ↔ rel.IsFirst (binary ++ "." ++ target.triple) a := by
  refine ⟨fun h => ?_, selectAsset_of_isFirst⟩
  rcases rel.exists_isFirst_or_none (binary ++ "." ++ target.triple) with ⟨b, hb⟩ | hnone
  · obtain rfl := Except.ok.inj ((selectAsset_of_isFirst hb).symm.trans h)
    exact hb
  · cases (selectAsset_of_none hnone).symm.trans h

/-- None is exactly if no asset has this name. -/
theorem selectAsset_eq_error_iff {e : MissingAsset} :
    rel.selectAsset binary target = .error e ↔
      (∀ a ∈ rel.assets, a.name ≠ binary ++ "." ++ target.triple) ∧
        e = ⟨target.triple, binary ++ "." ++ target.triple⟩ := by
  constructor
  · intro h
    rcases rel.exists_isFirst_or_none (binary ++ "." ++ target.triple) with ⟨b, hb⟩ | hnone
    · cases (selectAsset_of_isFirst hb).symm.trans h
    · exact ⟨hnone, Except.error.inj (h.symm.trans (selectAsset_of_none hnone))⟩
  · rintro ⟨hnone, rfl⟩
    exact selectAsset_of_none hnone

/-- For the machine that the two names tell, the first asset is selected whose name is that of the
program and the triple of these names, and an error tells of such a name that no asset has. Assets
of one name are selected for one program and one target only. -/
theorem selectAsset_exact :
    (∀ (rel : Release) (binary arch system : String),
      (∀ a, rel.selectAsset binary (Target.ofNames arch system) = .ok a ↔
        rel.IsFirst (binary ++ "." ++ Target.tripleOf arch system) a) ∧
      ∀ e, rel.selectAsset binary (Target.ofNames arch system) = .error e ↔
        (∀ a ∈ rel.assets, a.name ≠ binary ++ "." ++ Target.tripleOf arch system) ∧
          e = ⟨Target.tripleOf arch system, binary ++ "." ++ Target.tripleOf arch system⟩) ∧
    ∀ (rel rel' : Release) (binary binary' : String) (t t' : Target) (a a' : Asset),
      rel.selectAsset binary t = .ok a → rel'.selectAsset binary' t' = .ok a' →
        a.name = a'.name → binary = binary' ∧ t = t' := by
  constructor
  · intro rel binary arch system
    rw [← Target.triple_ofNames]
    exact ⟨fun _ => selectAsset_eq_ok_iff, fun _ => selectAsset_eq_error_iff⟩
  · intro rel rel' binary binary' t t' a a' h h' hname
    obtain ⟨-, -, -, ha, -⟩ := selectAsset_eq_ok_iff.mp h
    obtain ⟨-, -, -, ha', -⟩ := selectAsset_eq_ok_iff.mp h'
    exact Target.assetName_inj.mp (ha.symm.trans (hname.trans ha'))

/-- Points and dashes in the name of the program, and two assets of one name. Two machines that
servers are built for get their own asset or none, and two that nobody builds for are one target. -/
theorem selectAsset_of_dotted :
    let linux := "a.b-c.x86_64-unknown-linux-gnu"
    let name := "a.b-c.unknown-unknown"
    let rel : Release := ⟨"v1", [⟨name ++ ".gz", "1"⟩, ⟨name, "2"⟩, ⟨linux, "3"⟩, ⟨name, "4"⟩,
      ⟨linux, "5"⟩]⟩
    let rel' : Release := ⟨"v2", [⟨"c.unknown-unknown", "6"⟩, ⟨name, "7"⟩]⟩
    rel.selectAsset "a.b-c" (Target.ofNames "x86_64" "linux") = .ok ⟨linux, "3"⟩ ∧
      rel.selectAsset "a.b-c" (Target.ofNames "aarch64" "macos") =
        .error ⟨"aarch64-apple-darwin", "a.b-c.aarch64-apple-darwin"⟩ ∧
      rel.selectAsset "a.b-c" (Target.ofNames "mips" "plan9") = .ok ⟨name, "2"⟩ ∧
      rel'.selectAsset "a.b-c" (Target.ofNames "sparc" "vms") = .ok ⟨name, "7"⟩ ∧
      Target.ofNames "mips" "plan9" = Target.ofNames "sparc" "vms" := by
  intro linux name rel rel'
  have hlinux := ((selectAsset_exact.1 rel "a.b-c" "x86_64" "linux").1 ⟨linux, "3"⟩).mpr
    ⟨[⟨name ++ ".gz", "1"⟩, ⟨name, "2"⟩], [⟨name, "4"⟩, ⟨linux, "5"⟩], rfl, by decide, by decide⟩
  have hmacos := ((selectAsset_exact.1 rel "a.b-c" "aarch64" "macos").2
    ⟨"aarch64-apple-darwin", "a.b-c.aarch64-apple-darwin"⟩).mpr ⟨by decide, by decide⟩
  have h := ((selectAsset_exact.1 rel "a.b-c" "mips" "plan9").1 ⟨name, "2"⟩).mpr
    ⟨[⟨name ++ ".gz", "1"⟩], [⟨linux, "3"⟩, ⟨name, "4"⟩, ⟨linux, "5"⟩], rfl, by decide, by decide⟩
  have h' := ((selectAsset_exact.1 rel' "a.b-c" "sparc" "vms").1 ⟨name, "7"⟩).mpr
    ⟨[⟨"c.unknown-unknown", "6"⟩], [], rfl, by decide, by decide⟩
  exact ⟨hlinux, hmacos, h, h', (selectAsset_exact.2 rel rel' _ _ _ _ _ _ h h' rfl).2⟩

end Release

end ServerLauncher
