import ServerLauncher.Cache.Store
import ServerLauncher.Proofs.Steps
import ServerLauncher.Proofs.Utf8
import ServerLauncher.Proofs.Version

/-!
# The names in a cache directory

The name of a server says its version, and is read back as that version
(`Cache.versionOf?_fileName`). A name that is read as a version is the name of the program, a point
and a tag (`Cache.versionOf?_eq_some_iff`) ; so the name of a temporary file never is one
(`Cache.versionOf?_temporaryName`), and neither is any name if the program is called something with
a slash in it (`Cache.slash_not_mem_of_versionOf?`).
-/

namespace ServerLauncher

/-! ## Cuts -/

/-- Two cuts of a list at the same element are one, if the element is as often behind both. -/
theorem append_cons_inj_of_count {α : Type} [BEq α] [LawfulBEq α] {a : α} {xs ys as bs : List α}
    (h : xs ++ a :: as = ys ++ a :: bs) (hcount : as.count a = bs.count a) :
    xs = ys ∧ as = bs := by
  have hnone : ∀ {zs as bs : List α}, as = zs ++ a :: bs → as.count a ≠ bs.count a := by
    rintro zs as bs rfl
    simp
    omega
  rcases List.append_eq_append_iff.mp h with ⟨zs, rfl, hzs⟩ | ⟨zs, rfl, hzs⟩
  · cases zs with
    | nil => simpa using hzs
    | cons z zs => exact absurd hcount (hnone (List.cons.inj hzs).2)
  · cases zs with
    | nil => simpa using hzs.symm
    | cons z zs => exact absurd hcount.symm (hnone (List.cons.inj hzs).2)

/-- Two cuts of a list at the first such element are one as well. -/
theorem append_cons_inj_of_not_mem {α : Type} [BEq α] [LawfulBEq α] {a : α}
    {xs ys as bs : List α} (hxs : a ∉ xs) (hys : a ∉ ys) (h : xs ++ a :: as = ys ++ a :: bs) :
    xs = ys ∧ as = bs := by
  have hcount := congrArg (List.count a) h
  simp only [List.count_append, List.count_cons_self, List.count_eq_zero_of_not_mem hxs,
    List.count_eq_zero_of_not_mem hys] at hcount
  exact append_cons_inj_of_count h (by omega)

namespace Cache

variable {c : Cache} {v : Version}

/-! ## Reading names -/

theorem versionOf?_eq_some_iff {bs : Bytes} : c.versionOf? bs = some v ↔
    ∃ text, bs = Utf8.encode (c.binaryName ++ "." ++ text) ∧ Version.parse? text = some v := by
  constructor
  · intro h
    unfold versionOf? at h
    split at h
    case h_1 => simp at h
    case h_2 s hs =>
      split at h
      case h_1 => simp at h
      case h_2 tag htag =>
        have htext : s = c.binaryName ++ "." ++ String.ofList tag := by
          rw [← String.toList_inj, String.toList_append, String.toList_ofList]
          exact (List.isPrefixOf?_eq_some_iff_append_eq.mp htag).symm
        exact ⟨String.ofList tag, by rw [← htext, Utf8.encode_of_decode? hs], h⟩
  · rintro ⟨text, rfl, hparse⟩
    have hbegins : (c.binaryName ++ ".").toList.isPrefixOf?
        (c.binaryName ++ "." ++ text).toList = some text.toList :=
      List.isPrefixOf?_eq_some_iff_append_eq.mpr (String.toList_append ..).symm
    rw [versionOf?, Utf8.decode?_encode]
    simp only [hbegins, String.ofList_toList, hparse]

/-- The name of a server is read back as its version. -/
theorem versionOf?_fileName (c : Cache) (v : Version) :
    c.versionOf? (Utf8.encode (c.fileName v)) = some v :=
  versionOf?_eq_some_iff.mpr ⟨v.tag, rfl, v.parse?_tag⟩

/-! ## Slashes in names -/

theorem slash_mem_encode_iff {s : String} : slash ∈ Utf8.encode s ↔ '/' ∈ s.toList :=
  Utf8.mem_encode_iff (a := '/') (by decide)

/-- An entry can only be read as a version if the name of the program has no slash in it. -/
theorem slash_not_mem_of_versionOf? {n : Name} (h : c.versionOf? n.bytes = some v) :
    '/' ∉ c.binaryName.toList := by
  obtain ⟨text, htext, -⟩ := versionOf?_eq_some_iff.mp h
  have hslash := n.slash_not_mem
  rw [htext, slash_mem_encode_iff] at hslash
  simp only [String.toList_append, List.mem_append, not_or] at hslash
  exact hslash.1.1

theorem slash_not_mem_tag (v : Version) : '/' ∉ v.tag.toList :=
  Version.not_mem_tag (by decide) (by decide) v

theorem slash_not_mem_fileName (hbin : '/' ∉ c.binaryName.toList) (v : Version) :
    slash ∉ Utf8.encode (c.fileName v) := by
  rw [slash_mem_encode_iff]
  simp [fileName, String.toList_append, hbin, slash_not_mem_tag]

/-- The name of a server is nothing that has no `v` in it. -/
theorem encode_fileName_ne (c : Cache) (v : Version) {bs : Bytes}
    (hbs : UInt8.ofNat 'v'.toNat ∉ bs) : Utf8.encode (c.fileName v) ≠ bs := by
  have hv : UInt8.ofNat 'v'.toNat ∈ Utf8.encode (c.fileName v) := by
    rw [Utf8.mem_encode_iff (by decide)]
    simp [fileName, String.toList_append, Version.toList_tag]
  exact fun heq => hbs (heq ▸ hv)

/-- The name of a server is neither empty nor one of the dots. -/
theorem ofBytes?_fileName (c : Cache) (v : Version) :
    PathStep.ofBytes? (Utf8.encode (c.fileName v)) = none ∨
      ∃ n : Name, n.bytes = Utf8.encode (c.fileName v) := by
  have hnil : Utf8.encode (c.fileName v) ≠ [] := c.encode_fileName_ne v (by decide)
  have hdot : Utf8.encode (c.fileName v) ≠ [dot] := c.encode_fileName_ne v (by decide)
  have hdots : Utf8.encode (c.fileName v) ≠ [dot, dot] := c.encode_fileName_ne v (by decide)
  by_cases hname : isName (Utf8.encode (c.fileName v)) = true
  · exact Or.inr ⟨⟨_, hname⟩, rfl⟩
  · refine Or.inl ?_
    rw [PathStep.ofBytes?, if_neg (not_or.mpr ⟨hnil, hdot⟩), if_neg hdots, dif_neg hname]

/-! ## Temporary files -/

/-- A suffix of letters and digits, as they are picked for temporary files. -/
def IsSuffix (s : String) : Prop :=
  ∀ a ∈ s.toList, a.isAlphanum = true

instance (s : String) : Decidable (IsSuffix s) :=
  decidable_of_iff (s.toList.all Char.isAlphanum = true) List.all_eq_true

theorem isDigit_of_mem_nthSuffix {n : Nat} {a : Char} (h : a ∈ (nthSuffix n).toList) :
    a.isDigit = true := by
  simp only [nthSuffix, String.toList_ofList, List.mem_append, List.mem_replicate] at h
  rcases h with ⟨-, rfl⟩ | h
  · decide
  · exact isDigit_of_mem_toDigits h

theorem isSuffix_nthSuffix (n : Nat) : IsSuffix (nthSuffix n) :=
  fun a ha => by simp [Char.isAlphanum, isDigit_of_mem_nthSuffix ha]

theorem isSuffix_freshSuffix (c : Cache) (t : FileTree) : IsSuffix (c.freshSuffix t) :=
  isSuffix_nthSuffix _

theorem IsSuffix.not_mem {s : String} (h : IsSuffix s) {a : Char} (ha : a.isAlphanum = false) :
    a ∉ s.toList := fun hmem => by simp [h a hmem] at ha

/-- The suffixes that are tried are different ones, for each is read back as its number. -/
theorem nthSuffix_injective : Function.Injective nthSuffix := by
  have hvalue : ∀ n, Nat.ofDigitChars 10 (nthSuffix n).toList 0 = n := by
    intro n
    rw [nthSuffix, String.toList_ofList, Nat.ofDigitChars_append, Nat.ofDigitChars_replicate_zero,
      Nat.mul_zero, Nat.ofDigitChars_toDigits (by decide) (by decide)]
  intro m n h
  rw [← hvalue m, h, hvalue n]

theorem length_nthSuffix {n : Nat} (h : n < 1000000) : (nthSuffix n).length = 6 := by
  have hdigits : (Nat.toDigits 10 n).length ≤ 6 :=
    (Nat.length_toDigits_le_iff (by decide) (by decide)).mpr h
  rw [nthSuffix, String.length_ofList, List.length_append, List.length_replicate]
  omega

/-- The name of a temporary file is four bytes longer than its suffix. -/
theorem length_temporaryName (n : Nat) :
    (Utf8.encode (temporaryName (nthSuffix n))).length = 4 + (nthSuffix n).length := by
  rw [Utf8.length_encode, temporaryName, String.length_append]
  · rfl
  · intro a ha
    rw [temporaryName, String.toList_append, List.mem_append] at ha
    rcases ha with htmp | hsuffix
    · have hascii : (".tmp".toList.all fun a => decide (a.toNat < 0x80)) = true := by decide
      simpa using List.all_eq_true.mp hascii a htmp
    · have hdigit : a.toNat ≤ 57 := (toNat_of_isDigit (isDigit_of_mem_nthSuffix hsuffix)).2
      omega

theorem temporaryPath_eq {s : String} {m : Name} (hm : m.bytes = Utf8.encode (temporaryName s)) :
    c.temporaryPath s = c.dir.join ⟨m.bytes⟩ := by
  rw [hm]
  rfl

/-- A temporary file is named like an entry. -/
theorem exists_name_temporaryName {s : String} (h : IsSuffix s) :
    ∃ m : Name, m.bytes = Utf8.encode (temporaryName s) := by
  refine ⟨⟨Utf8.encode (temporaryName s), (isName_iff _).mpr ?_⟩, rfl⟩
  have ht : UInt8.ofNat 't'.toNat ∈ Utf8.encode (temporaryName s) := by
    rw [Utf8.mem_encode_iff (by decide)]
    simp [temporaryName, String.toList_append]
  have hmissing : ∀ a : Char, a.toNat < 0x80 → a.isAlphanum = false → a ∉ ".tmp".toList →
      UInt8.ofNat a.toNat ∉ Utf8.encode (temporaryName s) := by
    intro a hascii ha htmp
    rw [Utf8.mem_encode_iff hascii, temporaryName, String.toList_append, List.mem_append, not_or]
    exact ⟨htmp, h.not_mem ha⟩
  have hne : ∀ bs : Bytes, UInt8.ofNat 't'.toNat ∉ bs → Utf8.encode (temporaryName s) ≠ bs :=
    fun bs hbs heq => hbs (heq ▸ ht)
  exact ⟨hne _ (by decide), hne _ (by decide), hne _ (by decide),
    hmissing '/' (by decide) (by decide) (by decide),
    hmissing (Char.ofNat 0) (by decide) (by decide) (by decide)⟩

/-- A temporary file has one point in its name, a server at least three. -/
theorem versionOf?_temporaryName {s : String} (h : IsSuffix s) :
    c.versionOf? (Utf8.encode (temporaryName s)) = none := by
  by_contra hne
  obtain ⟨v, hv⟩ := Option.ne_none_iff_exists'.mp hne
  obtain ⟨text, htext, hparse⟩ := versionOf?_eq_some_iff.mp hv
  have hcount := congrArg (fun s : String => s.toList.count '.') (Utf8.encode_inj.mp htext)
  have hsuffix : s.toList.count '.' = 0 := List.count_eq_zero.mpr (h.not_mem (by decide))
  have htag := Version.count_dot_of_parse? hparse
  simp only [temporaryName, String.toList_append, List.count_append, hsuffix, htag] at hcount
  have htmp : ".tmp".toList.count '.' = 1 := by decide
  have hdot : ".".toList.count '.' = 1 := by decide
  omega

/-! ## A cache to look at -/

/-- The cache of a program `server` in the directory `bin`. -/
def sample : Cache :=
  ⟨.ofString "bin", "server"⟩

/-- The place of `bin`. -/
def samplePlace : Place :=
  [⟨Utf8.encode "bin", by decide⟩]

/-- A tree with one server in `bin`. -/
def sampleTree (data : Bytes) : FileTree :=
  FileTree.empty.editEach [.file (.ofString "bin/server.v1.0.0") data serverMode]

end Cache

end ServerLauncher
