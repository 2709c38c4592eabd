import Mathlib.Data.List.TakeWhile
import ServerLauncher.Proofs.Grammar
import ServerLauncher.Proofs.Running
import ServerLauncher.Proofs.Updating

/-!
# The path that is handed over

The resolve command prints the path of its resolution as a text, and whoever launches the server
reads the first line of that. What is read is the path itself exactly if the path is a text without
a newline (`Path.IsLine`) : in the text that is printed, U+FFFD stands for what is none, and a
newline of the path ends the line (`Path.firstLine_display_iff`). A path that is put together is a
line if its parts are, so for a server in the cache it comes to the directory and the name of the
program (`Launcher.hands_over_iff`).
-/

namespace ServerLauncher

/-! ## Texts in bytes -/

namespace Utf8

theorem encode_append (s s' : String) : encode (s ++ s') = encode s ++ encode s' := by
  rw [encode, String.toList_append, List.flatMap_append, encode, encode]

theorem decodeLossy_encode (s : String) : decodeLossy (encode s) = s := by
  have hchars : s.toList.map ((fun p : Piece => p.char?.getD '\uFFFD') ∘ Piece.char) = s.toList :=
    List.map_id'' (fun _ => rfl) _
  rw [decodeLossy, pieces_encode, List.map_map, hchars, String.ofList_toList]

/-- What stands in the text of a byte string, and not for broken bytes, is in the byte string. -/
theorem subset_of_mem_decodeLossy {bs : Bytes} {a : Char} (ha : a ≠ '\uFFFD')
    (h : a ∈ (decodeLossy bs).toList) : String.utf8EncodeChar a ⊆ bs := by
  rw [decodeLossy, String.toList_ofList] at h
  obtain ⟨p, hp, hchar⟩ := List.mem_map.mp h
  cases p with
  | broken stretch => exact absurd hchar.symm ha
  | char c =>
    obtain rfl : c = a := hchar
    rw [← flatMap_pieces bs]
    exact fun b hb => List.mem_flatMap.mpr ⟨.char c, hp, hb⟩

/-- A text whose bytes have an ASCII character somewhere has it at that place. -/
theorem exists_cut {a : Char} (ha : a.toNat < 0x80) {cs : List Char} {xs ys : Bytes}
    (h : cs.flatMap String.utf8EncodeChar = xs ++ UInt8.ofNat a.toNat :: ys) :
    ∃ us vs, cs = us ++ a :: vs ∧ us.flatMap String.utf8EncodeChar = xs ∧
      vs.flatMap String.utf8EncodeChar = ys := by
  induction cs generalizing xs with
  | nil => simp at h
  | cons c cs ih =>
    rw [List.flatMap_cons] at h
    rcases List.append_eq_append_iff.mp h with ⟨zs, rfl, hrest⟩ | ⟨zs, hchar, hrest⟩
    · obtain ⟨us, vs, rfl, rfl, rfl⟩ := ih hrest
      exact ⟨c :: us, vs, rfl, rfl, rfl⟩
    · cases zs with
      | nil =>
        have hcut : cs.flatMap String.utf8EncodeChar = [] ++ UInt8.ofNat a.toNat :: ys := hrest.symm
        obtain ⟨us, vs, rfl, hus, rfl⟩ := ih hcut
        refine ⟨c :: us, vs, rfl, ?_, rfl⟩
        rw [List.flatMap_cons, hus, hchar, List.append_nil, List.append_nil]
      | cons b zs =>
        obtain ⟨rfl, hrest⟩ := List.cons.inj hrest
        have hmem : UInt8.ofNat a.toNat ∈ String.utf8EncodeChar c := by simp [hchar]
        -- the character is one byte, for the others have no byte so low
        have hlow : c.toNat < 0x80 := by
          by_contra hhigh
          have hle := le_of_mem_encodeChar (Nat.not_lt.mp hhigh) hmem
          rw [toNat_ofNat_of_lt (by omega)] at hle
          omega
        rw [encodeChar_one hlow, List.mem_singleton, ← UInt8.toNat_inj,
          toNat_ofNat_of_lt (by omega), toNat_ofNat_of_lt (by omega)] at hmem
        obtain rfl := Char.toNat_inj.mp hmem
        rw [encodeChar_one hlow] at hchar
        obtain ⟨rfl, rfl⟩ : xs = [] ∧ zs = [] := by
          cases xs with
          | nil => simpa using hchar
          | cons x xs => simp at hchar
        exact ⟨[], cs, rfl, rfl, by simpa using hrest.symm⟩

end Utf8

/-! ## Lines -/

/-- The byte of the newline. -/
def newline : UInt8 := 0x0A

/-- What is read up to the first newline. -/
def firstLine (bs : Bytes) : Bytes :=
  bs.takeWhile (· != newline)

theorem newline_not_mem_firstLine (bs : Bytes) : newline ∉ firstLine bs := by
  intro h
  simpa using List.mem_takeWhile_imp h

theorem firstLine_of_not_mem {bs rest : Bytes} (h : newline ∉ bs) :
    firstLine (bs ++ newline :: rest) = bs := by
  have hall : ∀ b ∈ bs, (b != newline) = true := by
    intro b hb
    rw [bne_iff_ne]
    rintro rfl
    exact h hb
  rw [firstLine, List.takeWhile_append_of_pos hall]
  simp

theorem newline_mem_encode_iff {s : String} : newline ∈ Utf8.encode s ↔ '\n' ∈ s.toList :=
  Utf8.mem_encode_iff (a := '\n') (by decide)

namespace Path

variable {p q : Path}

/-- The path is a text without a newline. -/
def IsLine (p : Path) : Prop :=
  ∃ s : String, '\n' ∉ s.toList ∧ p = ofString s

theorem isLine_ofString_iff {s : String} : (ofString s).IsLine ↔ '\n' ∉ s.toList := by
  constructor
  · rintro ⟨s', hs', hsame⟩
    rwa [Utf8.encode_inj.mp (Path.mk.inj hsame)]
  · exact fun h => ⟨s, h, rfl⟩

/-- The first line that is printed for a path is the path exactly if the path is a line. -/
theorem firstLine_display_iff (p : Path) :
    firstLine (Utf8.encode (p.display ++ "\n")) = p.bytes ↔ p.IsLine := by
  have hend : Utf8.encode "\n" = [newline] := by decide
  rw [Utf8.encode_append, hend]
  constructor
  · intro h
    have hbytes : newline ∉ p.bytes := h ▸ newline_not_mem_firstLine _
    have hdisplay : '\n' ∉ p.display.toList := by
      intro hmem
      exact hbytes (Utf8.subset_of_mem_decodeLossy (by decide) hmem (by decide))
    rw [firstLine_of_not_mem (mt newline_mem_encode_iff.mp hdisplay)] at h
    exact ⟨p.display, hdisplay, congrArg mk h.symm⟩
  · rintro ⟨s, hs, rfl⟩
    have hdisplay : (ofString s).display = s := Utf8.decodeLossy_encode s
    rw [hdisplay, firstLine_of_not_mem (mt newline_mem_encode_iff.mp hs)]
    rfl

/-- Two stretches with a slash between them are a line exactly if both are. -/
theorem isLine_append_iff {xs ys : Bytes} :
    IsLine ⟨xs ++ slash :: ys⟩ ↔ IsLine ⟨xs⟩ ∧ IsLine ⟨ys⟩ := by
  constructor
  · rintro ⟨s, hs, hbytes⟩
    have hcut := (Path.mk.inj hbytes).symm
    obtain ⟨us, vs, hus, hxs, hys⟩ := Utf8.exists_cut (a := '/') (by decide) hcut
    rw [hus, List.mem_append, List.mem_cons, not_or, not_or] at hs
    refine ⟨⟨String.ofList us, ?_, ?_⟩, ⟨String.ofList vs, ?_, ?_⟩⟩
    · simpa using hs.1
    · rw [ofString, Utf8.encode, String.toList_ofList, hxs]
    · simpa using hs.2.2
    · rw [ofString, Utf8.encode, String.toList_ofList, hys]
  · rintro ⟨⟨s, hs, hxs⟩, ⟨s', hs', hys⟩⟩
    refine ⟨s ++ "/" ++ s', by simp [hs, hs'], ?_⟩
    have hslash : Utf8.encode "/" = [slash] := by decide
    rw [ofString, Utf8.encode_append, Utf8.encode_append, hslash, ← Path.mk.inj hxs,
      ← Path.mk.inj hys]
    simp

theorem isLine_nil : IsLine ⟨[]⟩ :=
  ⟨"", by simp, rfl⟩

/-- A path with another behind it is a line exactly if both are, and the first does not count if the
second replaces it. -/
theorem isLine_join_iff :
    (p.join q).IsLine ↔ (q.isAbsolute = true ∨ p.IsLine) ∧ q.IsLine := by
  unfold join
  by_cases hq : q.isAbsolute = true
  · simp [hq]
  rw [Bool.not_eq_true] at hq
  by_cases hp : p.bytes = []
  · have hline : p.IsLine := by
      rw [show p = ⟨[]⟩ from congrArg mk hp]
      exact isLine_nil
    simp [hp, hline]
  rw [if_neg (by simp [hq, hp])]
  by_cases hlast : p.bytes.getLast? = some slash
  · obtain ⟨xs, hxs⟩ := List.getLast?_eq_some_iff.mp hlast
    have hline : p.IsLine ↔ IsLine ⟨xs⟩ := by
      rw [show p = ⟨xs ++ slash :: []⟩ from congrArg mk hxs, isLine_append_iff]
      exact and_iff_left isLine_nil
    rw [if_pos (by simp [hlast]), hxs, List.append_assoc, List.singleton_append,
      isLine_append_iff, hline]
    simp [hq]
  · rw [if_neg (by simpa using hlast), isLine_append_iff]
    simp [hq]

theorem isAbsolute_ofString_append (s s' : String) :
    (ofString (s ++ "." ++ s')).isAbsolute = (ofString s).isAbsolute := by
  have hdot : Utf8.encode "." = [dot] := by decide
  rw [isAbsolute, isAbsolute, ofString, ofString, Utf8.encode_append, Utf8.encode_append, hdot]
  cases Utf8.encode s with
  | nil => rfl
  | cons b bs => rfl

end Path

/-! ## The path of a resolution -/

namespace Resolver

variable {r : Resolver} {t : FileTree} {resolution : Resolution}

/-- Without debug mode, a server that is resolved has a file name of the cache. -/
theorem path_of_resolve (hdebug : r.debugBinary = none)
    (h : (r.resolve.run t).result = .ok resolution) :
    ∃ tag v, Version.parse? tag = some v ∧
      resolution.path = r.cache.dir.join (.ofString (r.cache.binaryName ++ "." ++ tag)) := by
  cases hlist : (r.cache.list.run t).result with
  | error e => simp [run_resolve_of_error hdebug hlist] at h
  | ok ss =>
    rcases eq_or_ne ss [] with rfl | hss
    · obtain ⟨-, hresult, -⟩ := resolve_of_empty hdebug hlist
      have hrules : Refreshing r r.showsProgress .zero (r.cache.list.run t).tree _ _ _ :=
        refreshing_iff.mpr ⟨rfl, rfl, rfl⟩
      rw [hresult] at h
      rcases hres : ((r.refreshWith r.showsProgress .zero).run
          (r.cache.list.run t).tree).result with e | s | latest
      · simp [hres, resolutionOf] at h
      · rw [hres] at hrules h
        obtain rfl := Except.ok.inj h
        exact ⟨s.version.tag, s.version, s.version.parse?_tag, hrules.downloaded_inv.2⟩
      · simp [hres, resolutionOf] at h
    · obtain ⟨s, hmem, hs, -⟩ := exists_newest? hss
      rw [run_resolve_of_listed hdebug hlist hs] at h
      obtain rfl := Except.ok.inj h
      obtain ⟨-, d, -, rfl⟩ := Cache.result_list_eq_ok_iff.mp hlist
      obtain ⟨n, -, hversion, hpath, -⟩ := Cache.mem_serversIn_iff.mp hmem
      obtain ⟨tag, hname, hparse⟩ := Cache.versionOf?_eq_some_iff.mp hversion
      exact ⟨tag, s.version, hparse, by rw [hpath, hname]; rfl⟩

/-- Such a path is a line exactly if the name of the program has no newline and the directory is a
line, where that is a part of it. -/
theorem isLine_of_resolve_iff (hdebug : r.debugBinary = none)
    (h : (r.resolve.run t).result = .ok resolution) :
    resolution.path.IsLine ↔
      ((Path.ofString r.cache.binaryName).isAbsolute = true ∨ r.cache.dir.IsLine) ∧
        '\n' ∉ r.cache.binaryName.toList := by
  obtain ⟨tag, v, hparse, hpath⟩ := path_of_resolve hdebug h
  have htag : '\n' ∉ tag.toList :=
    (Version.parse?_eq_some_iff.mp hparse).not_mem (by decide) (by decide)
  have hname : '\n' ∉ (r.cache.binaryName ++ "." ++ tag).toList ↔
      '\n' ∉ r.cache.binaryName.toList := by
    simp [htag]
  rw [hpath, Path.isLine_join_iff, Path.isAbsolute_ofString_append, Path.isLine_ofString_iff, hname]

end Resolver

namespace Launcher

variable {s : Surroundings} {o : Order} {t : FileTree} {c : Settings} {resolution : Resolution}

/-- A directory of downloads that an order gives is the one. -/
theorem Begins.cacheDir_of_given {dir : Path} (h : Begins s o t c) (hdir : o.cacheDir = some dir) :
    s.env.cacheDir c = dir := by
  have hload := h.settings
  simp only [loadSettings, Act.run_bind, Act.look] at hload
  split at hload
  · cases hload
  · obtain rfl := Except.ok.inj hload
    simp [Environment.cacheDir, hdir]

/-- The resolve command succeeds exactly if it comes to a resolution, and it prints the path of that
as a text. The first line of what it prints is the path itself exactly if the path is a text without
a newline. Without debug mode it is one exactly if the name of the program has no newline and the
directory of downloads is such a text, which does not count if the name is an absolute path. -/
theorem hands_over_iff (s : Surroundings) (t : FileTree) {arguments : List Bytes} {o : Order}
    {detach : Bool} (hparse : CommandLine.parse arguments = .order o)
    (htask : o.task = .resolve detach) :
    let out := (run s arguments).run t
    (out.result = success ↔ ∃ c resolution, Resolves s o t c resolution) ∧
    ∀ c resolution, Resolves s o t c resolution →
      standardOutput out.events = Utf8.encode (resolution.path.display ++ "\n") ∧
      (firstLine (standardOutput out.events) = resolution.path.bytes ↔ resolution.path.IsLine) ∧
      (∀ dir, o.cacheDir = some dir → s.env.cacheDir c = dir) ∧
      (s.env.debugOverride c = none → (resolution.path.IsLine ↔
        ((Path.ofString c.binaryName).isAbsolute = true ∨ (s.env.cacheDir c).IsLine) ∧
          '\n' ∉ c.binaryName.toList)) := by
  intro out
  refine ⟨⟨exists_resolves hparse htask, ?_⟩, ?_⟩
  · rintro ⟨c, resolution, h⟩
    exact (run_of_resolves hparse htask h).1
  · intro c resolution h
    obtain ⟨-, houtput⟩ := run_of_resolves hparse htask h
    obtain ⟨r, hr, hresolved⟩ := h.resolved
    obtain ⟨hcache, hoverride⟩ := cache_of_resolver? hr
    refine ⟨houtput, ?_, fun dir hdir => h.begins.cacheDir_of_given hdir, fun hdebug => ?_⟩
    · rw [houtput]
      exact Path.firstLine_display_iff resolution.path
    · rw [Resolver.isLine_of_resolve_iff (hoverride.trans hdebug) hresolved, hcache]
      rfl

/-- A tree with the server `v1.0.0` in this directory. -/
def treeWithServer (dir : Path) : FileTree :=
  FileTree.empty.editEach [.file (dir.join (.ofString "ruulang-server.v1.0.0")) [7] serverMode]

/-- The server in the usual directory is handed over. -/
theorem hands_over_sample :
    CommandLine.parse [] = .order ⟨none, none, .resolve false⟩ ∧
      ((run sampleSurroundings []).run (treeWithServer (.ofString "d/ruulang/bin"))).result =
        success ∧
      ∃ resolution, Resolves sampleSurroundings ⟨none, none, .resolve false⟩
          (treeWithServer (.ofString "d/ruulang/bin")) .standard resolution ∧
        firstLine (standardOutput
          ((run sampleSurroundings []).run (treeWithServer (.ofString "d/ruulang/bin"))).events) =
            resolution.path.bytes := by
  have hparse : CommandLine.parse [] = .order ⟨none, none, .resolve false⟩ := by decide +kernel
  have hsuccess : ((run sampleSurroundings []).run
      (treeWithServer (.ofString "d/ruulang/bin"))).result = success := by
    decide +kernel
  have hload : ((loadSettings sampleSurroundings.env ⟨none, none, .resolve false⟩).run
      (afterLog sampleSurroundings (treeWithServer (.ofString "d/ruulang/bin")))).result =
        .ok .standard := by
    decide +kernel
  obtain ⟨hiff, hall⟩ := hands_over_iff sampleSurroundings
    (treeWithServer (.ofString "d/ruulang/bin")) hparse rfl
  obtain ⟨c, resolution, h⟩ := hiff.mp hsuccess
  obtain rfl : c = .standard := Except.ok.inj (h.begins.settings.symm.trans hload)
  obtain ⟨-, hline, -, hparts⟩ := hall .standard resolution h
  refine ⟨hparse, hsuccess, resolution, h, hline.mpr ((hparts rfl).mpr ⟨Or.inr ?_, by decide⟩)⟩
  exact ⟨"d/ruulang/bin", by decide, by decide⟩

/-- The arguments that give this directory of downloads to a resolve command. -/
def resolveIn (dir : Bytes) : List Bytes :=
  [Utf8.encode "--cache-dir", dir, Utf8.encode "resolve"]

/-- A directory whose name is `b` and a byte that is no text. -/
def brokenDir : Path :=
  ⟨[0x62, 0xFF]⟩

/-- Its server is resolved, but the first line that is printed is another path : U+FFFD stands for
the byte, as it does for any other byte that is no text. -/
theorem brokenDir_is_not_handed_over :
    CommandLine.parse (resolveIn brokenDir.bytes) =
        .order ⟨none, some brokenDir, .resolve false⟩ ∧
      ((run sampleSurroundings (resolveIn brokenDir.bytes)).run
        (treeWithServer brokenDir)).result = success ∧
      ((((resolver? sampleSurroundings { Settings.standard with
        cacheDir := some brokenDir }).map fun r => (r.resolve.run
          (afterLog sampleSurroundings (treeWithServer brokenDir))).result) =
            some (.ok ⟨brokenDir.join (.ofString "ruulang-server.v1.0.0"), .cache ⟨1, 0, 0⟩,
              some ⟨1, 0, 0⟩⟩))) ∧
      firstLine (standardOutput ((run sampleSurroundings (resolveIn brokenDir.bytes)).run
        (treeWithServer brokenDir)).events) ≠
          (brokenDir.join (.ofString "ruulang-server.v1.0.0")).bytes ∧
      firstLine (standardOutput ((run sampleSurroundings (resolveIn brokenDir.bytes)).run
        (treeWithServer brokenDir)).events) =
        firstLine (standardOutput ((run sampleSurroundings (resolveIn [0x62, 0xFE])).run
          (treeWithServer ⟨[0x62, 0xFE]⟩)).events) := by
  decide +kernel

end Launcher

end ServerLauncher
