import ServerLauncher.Proofs.SelfUpdate

/-!
# Settings that are passed over

Whether there is a settings file is asked before it is read, and the answer is no whenever the path
cannot be followed to its end (`FileTree.exists?`). So the loading tells a file that is missing from
one that cannot be read, as a reading does (`Settings.ofReading`), but for a path with something in
its way (`SystemError.blocksWalk`) : a link that leads back to itself, a name that is too long, a
file in place of a directory. There the usual settings hold, and nothing is said about it.
-/

namespace ServerLauncher

variable {t : FileTree} {p : Path} {err : SystemError}

/-! ## Asking and reading -/

namespace FileTree

/-- A path that leads nowhere cannot be read : nothing is there, or something is in the way. -/
theorem error_of_not_exists? (h : t.exists? p = false) :
    ∃ err, t.readText p = .error err ∧ (err = .notFound ∨ err.blocksWalk = true) := by
  unfold exists? at h
  split at h
  case h_1 => cases h
  case h_2 err hfind =>
    refine ⟨err, by rw [readText, readFile, hfind], ?_⟩
    unfold find at hfind
    split at hfind
    case h_1 e hwalk =>
      cases hfind
      exact error_of_walk hwalk
    case h_2 =>
      cases hfind
      exact .inl rfl
    case h_3 => cases hfind

/-- What is there can be read, but for its kind, its mode and its content. -/
theorem error_of_exists? (h : t.exists? p = true) (hread : t.readText p = .error err) :
    err ≠ .notFound ∧ err.blocksWalk = false := by
  unfold exists? at h
  split at h
  case h_2 => cases h
  case h_1 x hfind =>
    obtain ⟨place, node⟩ := x
    simp only [readText, readFile, hfind] at hread
    cases node with
    | dir =>
      cases hread
      exact ⟨nofun, rfl⟩
    | link target =>
      cases hread
      exact ⟨nofun, rfl⟩
    | file mode content =>
      simp only at hread
      split at hread
      case h_1 e he =>
        split_ifs at he
        cases he
        cases hread
        exact ⟨nofun, rfl⟩
      case h_2 =>
        split at hread
        · cases hread
          exact ⟨nofun, rfl⟩
        · cases hread

end FileTree

/-! ## Loading and reading -/

namespace Settings

/-- The settings that a reading of the file comes to : the usual ones if there is no file, and an
error if it cannot be read or understood. -/
def ofReading (p : Path) : Except SystemError String → Except SettingsError Settings
  | .error .notFound => .ok standard
  | .error err => .error (.unreadable p err)
  | .ok text =>
    match ofDocument text with
    | .error f => .error (.invalid p text f)
    | .ok s => .ok s

theorem ofReading_error (h : err ≠ .notFound) :
    ofReading p (.error err) = .error (.unreadable p err) := by
  cases err <;> first | rfl | exact absurd rfl h

theorem load_of_exists? (h : t.exists? p = true) : load t p = ofReading p (t.readText p) := by
  rw [load, if_pos h]
  cases hread : t.readText p with
  | error err => rw [ofReading_error (FileTree.error_of_exists? h hread).1]
  | ok text => rfl

theorem load_of_not_exists? (h : t.exists? p = false) : load t p = .ok standard := by
  rw [load, if_neg (by simp [h])]

/-- The settings are those that come of reading the file, unless something on the way of the path
keeps it from being read ; then they are the usual ones. The tree is left as it is. -/
theorem load_eq_ofReading_iff (t : FileTree) (p : Path) :
    (load t p = ofReading p (t.readText p) ↔
      ∀ err, t.readText p = .error err → err.blocksWalk = false) ∧
    (∀ err, t.readText p = .error err → err.blocksWalk = true → load t p = .ok standard) ∧
    ∀ env o, ((Launcher.loadSettings env o).run t).tree = t := by
  refine ⟨?_, ?_, fun env o => Launcher.tree_loadSettings env o t⟩
  · cases hexists : t.exists? p with
    | true =>
      have hfree : ∀ err, t.readText p = .error err → err.blocksWalk = false :=
        fun _ hread => (FileTree.error_of_exists? hexists hread).2
      exact iff_of_true (load_of_exists? hexists) hfree
    | false =>
      obtain ⟨err, hread, rfl | hblocks⟩ := FileTree.error_of_not_exists? hexists
      · refine iff_of_true ?_ fun err h => ?_
        · rw [load_of_not_exists? hexists, hread, ofReading]
        · cases hread.symm.trans h
          rfl
      · have hne : err ≠ .notFound := fun h => by simp [h, SystemError.blocksWalk] at hblocks
        refine iff_of_false ?_ fun h => by simp [h err hread] at hblocks
        rw [load_of_not_exists? hexists, hread, ofReading_error hne]
        simp
  · intro err hread hblocks
    cases hexists : t.exists? p with
    | true => simp [(FileTree.error_of_exists? hexists hread).2] at hblocks
    | false => exact load_of_not_exists? hexists

/-- A file in place of a directory on the way, and a file that is there. -/
theorem load_below_file :
    let f := Path.ofString "f"
    let t := (FileTree.empty.edit (.file f (Utf8.encode "\x7b\"binaryName\":\"s\"\x7d") 0o644)).1
    load t (f.join (.ofString "config.json")) = .ok standard ∧
      load t f = ofReading f (t.readText f) := by
  intro f t
  have hbelow : t.readText (f.join (.ofString "config.json")) = .error .notADirectory := by
    decide +kernel
  have hread : t.readText f = .ok "\x7b\"binaryName\":\"s\"\x7d" := by decide +kernel
  exact ⟨(load_eq_ofReading_iff t _).2.1 _ hbelow rfl,
    (load_eq_ofReading_iff t f).1.mpr fun err h => by simp [hread] at h⟩

/-- A settings file that is a link to itself cannot be read, and the usual settings hold. -/
theorem load_of_loop :
    let p := Path.ofString "config.json"
    let t := (FileTree.empty.edit (.link p p)).1
    t.readText p = .error .tooManyLinks ∧ load t p = .ok standard ∧
      ofReading p (t.readText p) = .error (.unreadable p .tooManyLinks) := by
  intro p t
  have hread : t.readText p = .error .tooManyLinks := by decide +kernel
  exact ⟨hread, by decide +kernel, by rw [hread, ofReading_error (by decide)]⟩

end Settings

end ServerLauncher
