import ServerLauncher.Proofs.Steps

/-!
# Making directories

`FileTree.createDirs` does nothing but put new directories into the tree, and only where the path or
one above it leads (`addsDirs_createDirs`). If it succeeds the directory is there
(`find_of_createDirs`), and if the directory was there already nothing happens
(`createDirs_of_find`).
-/

namespace ServerLauncher

/-- The path, or one above it. -/
def Path.IsAbove (p q : Path) : Prop :=
  q = p ∨ ∃ cs, cs <+: p.components ∧ q = ofComponents p.isAbsolute cs

namespace FileTree

/-- The later tree has some more directories, each where a path in `way` leads, and nothing else is
different. -/
structure AddsDirs (way : Path → Prop) (t t' : FileTree) : Prop where
  workDir : t'.workDir = t.workDir
  entries : ∃ ds, t'.entries = t.entries ++ ds ∧
    ∀ e ∈ ds, e.node = .dir ∧ ∃ q, way q ∧ t'.find q = .ok (e.place, .dir)

variable {way : Path → Prop} {t t' t'' : FileTree} {p : Path}

theorem AddsDirs.extends (h : t.AddsDirs way t') : t.Extends t' := by
  obtain ⟨ds, hds, -⟩ := h.entries
  exact extends_of_entries h.workDir hds

/-- No file is new. -/
theorem AddsDirs.at?_file (h : t.AddsDirs way t') {q : Place} {mode : Nat} {content : Bytes}
    (hq : t'.at? q = some (.file mode content)) : t.at? q = some (.file mode content) := by
  obtain ⟨ds, hds, hdirs⟩ := h.entries
  cases q with
  | nil => cases hq
  | cons n d =>
    rw [← mem_entries_iff, hds, List.mem_append] at hq
    rcases hq with hold | hnew
    · exact (mem_entries_iff n d _).mp hold
    · cases (hdirs _ hnew).1

theorem AddsDirs.refl (way : Path → Prop) (t : FileTree) : t.AddsDirs way t :=
  ⟨rfl, [], by simp, by simp⟩

theorem AddsDirs.trans (h : t.AddsDirs way t') (h' : t'.AddsDirs way t'') :
    t.AddsDirs way t'' := by
  obtain ⟨ds, hds, hdir⟩ := h.entries
  obtain ⟨ds', hds', hdir'⟩ := h'.entries
  refine ⟨h'.workDir.trans h.workDir, ds ++ ds', by rw [hds', hds, List.append_assoc], ?_⟩
  intro e he
  rcases List.mem_append.mp he with he | he
  · obtain ⟨hnode, q, hq, hfind⟩ := hdir e he
    exact ⟨hnode, q, hq, find_dir_of_keeps hfind h'.extends.keeps⟩
  · exact hdir' e he

/-! ## One directory -/

theorem makeDir_eq_ok (h : t.makeDir p = .ok t') :
    ∃ d n, t.add? d n .dir = some t' ∧ t'.find p = .ok (n :: d, .dir) := by
  unfold makeDir at h
  split at h
  case h_1 | h_2 | h_3 => simp at h
  case h_4 ss d n hss hwalk =>
    cases hadd : t.add? d n .dir with
    | none => simp [hadd, orNotFound] at h
    | some t₁ =>
      rw [hadd, orNotFound] at h
      obtain rfl := Except.ok.inj h
      refine ⟨d, n, hadd, find_eq_ok_iff.mpr (walk_eq_ok_iff.mpr ⟨ss, hss, ?_⟩)⟩
      obtain ⟨front, i, hfront, rfl⟩ := Path.steps_dropTrailingSlashes hss
      obtain ⟨front', hfront', hl⟩ := walk_eq_ok_iff.mp hwalk
      obtain rfl := Except.ok.inj (hfront.symm.trans hfront')
      have hnil := (Path.steps_eq_ok_iff.mp hss).2.1
      have hext := extends_of_add? hadd
      rw [startOf, Path.isAbsolute_dropTrailingSlashes hnil, ← hext.workDir] at hl
      refine hl.append_stay hext.keeps ?_
      rw [at?_add? hadd, if_pos rfl]

theorem makeDir_of_find {d : Place} (h : t.find p = .ok (d, .dir)) :
    t.makeDir p = .error .alreadyExists := by
  obtain ⟨ss, hss, hl⟩ := walk_eq_ok_iff.mp (find_eq_ok_iff.mp h)
  obtain ⟨front, i, hfront, rfl⟩ := Path.steps_dropTrailingSlashes hss
  obtain ⟨q, node, hq⟩ := hl.of_append_stay
  have hnil := (Path.steps_eq_ok_iff.mp hss).2.1
  have hwalk : t.walk false p.dropTrailingSlashes = .ok (.taken q node) := by
    refine walk_eq_ok_iff.mpr ⟨front, hfront, ?_⟩
    rwa [startOf, Path.isAbsolute_dropTrailingSlashes hnil]
  rw [makeDir, hss, hwalk]

theorem addsDirs_makeDir (hway : way p) (h : t.makeDir p = .ok t') : t.AddsDirs way t' := by
  obtain ⟨d, n, hadd, hfind⟩ := makeDir_eq_ok h
  obtain ⟨-, hentries, hw⟩ := add?_eq_some_iff.mp hadd
  refine ⟨hw, [⟨d, n, .dir⟩], hentries, fun e he => ?_⟩
  obtain rfl := List.mem_singleton.mp he
  exact ⟨rfl, p, hway, hfind⟩

/-! ## Directories above each other -/

variable {parent : FileTree → FileTree × Except SystemError Unit}

/-- The trees that making a directory can end in : the one after the directories above it, or the
one after the directory itself. -/
theorem addsDirs_makeDirWith (hparent : ∀ t, AddsDirs way t (parent t).1) (hway : way p)
    (t : FileTree) : t.AddsDirs way (t.makeDirWith parent p).1 := by
  unfold makeDirWith
  split
  case h_1 t₁ h => exact addsDirs_makeDir hway h
  case h_2 =>
    have habove := hparent t
    split
    case h_1 t₁ e hp => rwa [hp] at habove
    case h_2 t₁ hp =>
      rw [hp] at habove
      split
      case h_1 t₂ h => exact habove.trans (addsDirs_makeDir hway h)
      case h_2 => split <;> exact habove
  case h_3 => split <;> exact AddsDirs.refl way t

theorem find_of_makeDirWith (h : (t.makeDirWith parent p).2 = .ok ()) :
    ∃ d, (t.makeDirWith parent p).1.find p = .ok (d, .dir) := by
  have hdone : ∀ {t t' : FileTree}, t.makeDir p = .ok t' → ∃ d, t'.find p = .ok (d, .dir) := by
    intro t t' hmake
    obtain ⟨d, n, -, hfind⟩ := makeDir_eq_ok hmake
    exact ⟨n :: d, hfind⟩
  unfold makeDirWith at h ⊢
  split
  case h_1 hmake => exact hdone hmake
  case h_2 hmake =>
    rw [hmake] at h
    simp only at h
    split
    case h_1 hp => simp [hp] at h
    case h_2 t₁ hp =>
      rw [hp] at h
      simp only at h
      split
      case h_1 hmake' => exact hdone hmake'
      case h_2 hmake' =>
        rw [hmake'] at h
        split
        case isTrue hdir => exact exists_find_of_isDir hdir
        case isFalse hdir => simp [hdir] at h
  case h_3 e he hmake =>
    rw [hmake] at h
    split
    case isTrue hdir => exact exists_find_of_isDir hdir
    case isFalse hdir => simp [hdir] at h

theorem makeDirWith_of_find {d : Place} (h : t.find p = .ok (d, .dir)) :
    t.makeDirWith parent p = (t, .ok ()) := by
  have hdir : t.isDir p = true := by rw [isDir, h]
  rw [makeDirWith, makeDir_of_find h]
  simp [hdir]

theorem addsDirs_createDirsOf (absolute : Bool) :
    ∀ (cs : List Bytes) {way : Path → Prop},
      (∀ ds, ds <:+ cs → way (Path.ofComponents absolute ds.reverse)) →
      ∀ t, AddsDirs way t (createDirsOf absolute cs t).1
  | [], way, _, t => AddsDirs.refl way t
  | c :: cs, way, hway, t => by
    refine addsDirs_makeDirWith (fun t => ?_) (hway _ List.suffix_rfl) t
    refine addsDirs_createDirsOf absolute cs (fun ds hds => ?_) t
    exact hway ds (hds.trans (List.suffix_cons c cs))

/-- Nothing happens to a tree but that directories are made on the way to the path. -/
theorem addsDirs_createDirs (t : FileTree) (p : Path) :
    t.AddsDirs p.IsAbove (t.createDirs p).1 := by
  unfold createDirs
  split
  case isTrue => exact AddsDirs.refl _ t
  case isFalse =>
    refine addsDirs_makeDirWith (fun t => ?_) (Or.inl rfl) t
    refine addsDirs_createDirsOf p.isAbsolute _ (fun ds hds => Or.inr ⟨ds.reverse, ?_, rfl⟩) t
    have hall : ds <:+ p.components.reverse := hds.trans (List.tail_suffix _)
    rwa [← List.reverse_suffix, List.reverse_reverse]

/-- The directory is there after it was made. -/
theorem find_of_createDirs (h : (t.createDirs p).2 = .ok ()) (hp : p.bytes ≠ []) :
    ∃ d, (t.createDirs p).1.find p = .ok (d, .dir) := by
  have hcreate : t.createDirs p =
      t.makeDirWith (createDirsOf p.isAbsolute p.components.reverse.tail) p := by
    rw [createDirs, if_neg (by simpa using hp)]
  rw [hcreate] at h ⊢
  exact find_of_makeDirWith h

/-- Where the directory is there, nothing is done. -/
theorem createDirs_of_find {d : Place} (h : t.find p = .ok (d, .dir)) :
    t.createDirs p = (t, .ok ()) := by
  unfold createDirs
  split
  case isTrue => rfl
  case isFalse => exact makeDirWith_of_find h

end FileTree

end ServerLauncher
