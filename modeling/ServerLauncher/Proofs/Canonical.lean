import ServerLauncher.Proofs.Grammar
import ServerLauncher.Proofs.Naming

/-!
# Canonical tags

A version has many tags, which differ by zeros in front of their numbers. `Version.tag` is the one
without such zeros (`Version.tag_eq_iff`), so that writing a version and reading it are inverse on
canonical tags, and in a cache all tags of a version lead to one path, whose last name is read back
as the version (`Version.tag_canonical`).
-/

namespace ServerLauncher

/-! ## Zeros in front -/

/-- A zero stands in front of another digit. -/
def HasSpareZero (cs : List Char) : Prop :=
  ∃ d ds, cs = '0' :: d :: ds

theorem head?_toDigits {n : Nat} (hpos : 0 < n) : (Nat.toDigits 10 n).head? ≠ some '0' := by
  induction n using Nat.strongRecOn with
  | ind n ih =>
    rw [Nat.toDigits_eq_if (by decide)]
    split
    case isTrue hlt =>
      intro h
      have hchar := congrArg Char.toNat (Option.some.inj h)
      rw [Nat.toNat_digitChar_of_lt_ten hlt] at hchar
      exact absurd hchar (by simp; omega)
    case isFalse hle =>
      rw [List.head?_append_of_ne_nil _ Nat.toDigits_ne_nil]
      exact ih (n / 10) (by omega) (by omega)

theorem not_hasSpareZero_toDigits (n : Nat) : ¬HasSpareZero (Nat.toDigits 10 n) := by
  rintro ⟨d, ds, h⟩
  rcases Nat.eq_zero_or_pos n with rfl | hpos
  · simp at h
  · exact head?_toDigits hpos (by rw [h]; rfl)

/-- A plain digit is what its value is written as. -/
theorem toDigits_of_isDigit {c : Char} (h : c.isDigit = true) :
    c.toNat - '0'.toNat < 10 ∧ Nat.toDigits 10 (c.toNat - '0'.toNat) = [c] := by
  obtain ⟨hlow, hhigh⟩ : 48 ≤ c.toNat ∧ c.toNat ≤ 57 := toNat_of_isDigit h
  have hlt : c.toNat - '0'.toNat < 10 := by
    change c.toNat - 48 < 10
    omega
  refine ⟨hlt, ?_⟩
  rw [Nat.toDigits_of_lt_base hlt, List.singleton_inj, ← Char.toNat_inj,
    Nat.toNat_digitChar_of_lt_ten hlt]
  change 48 + (c.toNat - 48) = c.toNat
  omega

/-- Digits behind a number that is not zero are the last digits of their joint value. -/
theorem toDigits_append_of_isDigit {cs : List Char} (hcs : ∀ c ∈ cs, c.isDigit = true) :
    ∀ {n : Nat}, 0 < n → Nat.toDigits 10 n ++ cs = Nat.toDigits 10 (Nat.ofDigitChars 10 cs n) := by
  induction cs with
  | nil => simp [Nat.ofDigitChars]
  | cons c cs ih =>
    intro n hpos
    obtain ⟨hc, hrest⟩ := List.forall_mem_cons.mp hcs
    obtain ⟨hlt, hone⟩ := toDigits_of_isDigit hc
    calc Nat.toDigits 10 n ++ c :: cs
        = Nat.toDigits 10 n ++ Nat.toDigits 10 (c.toNat - '0'.toNat) ++ cs := by
          rw [hone, List.append_assoc, List.singleton_append]
      _ = Nat.toDigits 10 (10 * n + (c.toNat - '0'.toNat)) ++ cs := by
          rw [Nat.toDigits_append_toDigits (by decide) hpos hlt]
      _ = Nat.toDigits 10 (Nat.ofDigitChars 10 (c :: cs) n) := ih hrest (by omega)

/-- A run of digits is what its value is written as, if it has no spare zero. -/
theorem toDigits_eq_iff {cs : List Char} {n : UInt64} (h : Spells cs n) :
    Nat.toDigits 10 n.toNat = cs ↔ ¬HasSpareZero cs := by
  constructor
  · intro heq
    rw [← heq]
    exact not_hasSpareZero_toDigits _
  · intro hspare
    obtain ⟨hnil, hdigits, hvalue⟩ := h
    rw [← hvalue]
    cases cs with
    | nil => exact absurd rfl hnil
    | cons c cs =>
      obtain ⟨hc, hcs⟩ := List.forall_mem_cons.mp hdigits
      obtain ⟨-, hone⟩ := toDigits_of_isDigit hc
      by_cases hzero : c = '0'
      · subst hzero
        cases cs with
        | nil => rfl
        | cons d ds => exact absurd ⟨d, ds, rfl⟩ hspare
      · have hpos : 0 < c.toNat - '0'.toNat := by
          refine Nat.pos_of_ne_zero fun h => hzero ?_
          rw [h, Nat.toDigits_zero] at hone
          exact (List.singleton_inj.mp hone).symm
        have happend := toDigits_append_of_isDigit hcs hpos
        rw [hone, List.singleton_append] at happend
        rw [Nat.ofDigitChars_cons, Nat.mul_zero, Nat.zero_add, happend]

namespace Version

/-- The runs between the points of a tag. -/
def runs (t : String) : List (List Char) :=
  t.toList.tail.splitOn '.'

/-- A tag of a version is the one that is written if no number in it has a spare zero. -/
theorem tag_eq_iff {t : String} {v : Version} (h : parse? t = some v) :
    v.tag = t ↔ ∀ run ∈ runs t, ¬HasSpareZero run := by
  obtain ⟨a, b, c, hparts, ha, hb, hc⟩ := isTag_of_parse? h
  have hruns : runs t = [a, b, c] :=
    splitOn_of_isParted hparts (not_mem_of_spells ha) (not_mem_of_spells hb) (not_mem_of_spells hc)
  simp only [hruns, List.forall_mem_cons, ← toDigits_eq_iff ha, ← toDigits_eq_iff hb,
    ← toDigits_eq_iff hc]
  constructor
  · rintro rfl
    have hdigits := splitOn_of_isParted (toList_tag v) (not_mem_toDigits (by decide))
      (not_mem_toDigits (by decide)) (not_mem_toDigits (by decide))
    rw [← runs, hruns] at hdigits
    simpa [eq_comm] using hdigits
  · rintro ⟨ha', hb', hc', -⟩
    rw [← String.toList_inj, toList_tag, ha', hb', hc', hparts]

theorem tag_injective : Function.Injective tag := by
  intro v w h
  have hread := v.parse?_tag
  rw [h, parse?_tag] at hread
  exact (Option.some.inj hread).symm

end Version

/-! ## The paths of tags -/

/-- The name that a path ends in, unless that is one of the dots. -/
def Path.fileName? (p : Path) : Option Bytes :=
  p.components.getLast?.filter fun n => n != [dot] && n != [dot, dot]

/-- A name behind a path is the last component. -/
theorem Path.getLast?_components_join {p : Path} {bs : Bytes} (hslash : slash ∉ bs)
    (hnil : bs ≠ []) (hdot : bs ≠ [dot]) : (p.join ⟨bs⟩).components.getLast? = some bs := by
  by_cases hp : p.bytes = []
  · rw [join_of_nil hp, components]
    simp [List.splitOn_eq_singleton hslash, hnil]
  · obtain ⟨xs, -, -, hjoin⟩ := exists_join hp
    have hsplit : (p.join ⟨bs⟩).bytes.splitOn slash = xs.splitOn slash ++ [bs] := by
      rw [hjoin bs hslash, List.splitOn_append_cons_self, List.splitOn_eq_singleton hslash]
    rw [components, hsplit]
    cases xs.splitOn slash with
    | nil => simp [hnil]
    | cons s ss => simp [hnil, hdot, List.filter_append]

namespace Cache

variable {c : Cache}

theorem fileName?_pathFor (hbin : '/' ∉ c.binaryName.toList) (v : Version) :
    (c.pathFor v).fileName? = some (Utf8.encode (c.fileName v)) := by
  have hnil : Utf8.encode (c.fileName v) ≠ [] := c.encode_fileName_ne v (by decide)
  have hdot : Utf8.encode (c.fileName v) ≠ [dot] := c.encode_fileName_ne v (by decide)
  have hdots : Utf8.encode (c.fileName v) ≠ [dot, dot] := c.encode_fileName_ne v (by decide)
  have hlast : (c.pathFor v).components.getLast? = some (Utf8.encode (c.fileName v)) :=
    Path.getLast?_components_join (slash_not_mem_fileName hbin v) hnil hdot
  rw [Path.fileName?, hlast]
  simp [hdot, hdots]

theorem pathFor_inj (hbin : '/' ∉ c.binaryName.toList) {v w : Version} :
    c.pathFor v = c.pathFor w ↔ v = w := by
  constructor
  · intro h
    have hv := c.versionOf?_fileName v
    rw [(Path.join_inj (slash_not_mem_fileName hbin v) (slash_not_mem_fileName hbin w)).mp h,
      versionOf?_fileName] at hv
    exact (Option.some.inj hv).symm
  · rintro rfl
    rfl

end Cache

namespace Version

/-- Writing a version and reading it gives it back, so that different versions are written in
different ways. A tag is written as it was read exactly if there is no spare zero in it, and what is
written is read as the tag was. In a cache the path of a version ends in a name that is read back as
the version, and the paths of two tags are the same exactly if their versions are. -/
theorem tag_canonical :
    (∀ v, parse? v.tag = some v) ∧ Function.Injective tag ∧
    (∀ t v, parse? t = some v →
      (v.tag = t ↔ ∀ run ∈ runs t, ¬HasSpareZero run) ∧ parse? v.tag = parse? t) ∧
    ∀ c : Cache, '/' ∉ c.binaryName.toList →
      (∀ v, ∃ name, (c.pathFor v).fileName? = some name ∧ c.versionOf? name = some v) ∧
      ∀ t t' v v', parse? t = some v → parse? t' = some v' →
        (c.pathFor v = c.pathFor v' ↔ v = v') := by
  refine ⟨parse?_tag, tag_injective, fun t v h => ⟨tag_eq_iff h, ?_⟩, fun c hbin => ⟨?_, ?_⟩⟩
  · rw [parse?_tag, h]
  · intro v
    exact ⟨_, Cache.fileName?_pathFor hbin v, c.versionOf?_fileName v⟩
  · intro t t' v v' _ _
    exact Cache.pathFor_inj hbin

/-- A tag with a spare zero is another one of the same version, and leads to the same path. -/
theorem tag_of_spare_zero :
    parse? "v01.2.3" = some ⟨1, 2, 3⟩ ∧ parse? "v1.2.3" = some ⟨1, 2, 3⟩ ∧
      (⟨1, 2, 3⟩ : Version).tag ≠ "v01.2.3" ∧ (⟨1, 2, 3⟩ : Version).tag = "v1.2.3" ∧
      Cache.sample.pathFor ⟨1, 2, 3⟩ ≠ Cache.sample.pathFor ⟨1, 2, 4⟩ := by
  have hspare : parse? "v01.2.3" = some ⟨1, 2, 3⟩ := by decide +kernel
  have hcanonical : parse? "v1.2.3" = some ⟨1, 2, 3⟩ := by decide +kernel
  obtain ⟨-, -, hread, hpaths⟩ := tag_canonical
  obtain ⟨-, hpaths⟩ := hpaths Cache.sample (by decide)
  refine ⟨hspare, hcanonical, ?_, ?_, ?_⟩
  · rw [ne_eq, (hread _ _ hspare).1]
    intro hnone
    exact hnone ['0', '1'] (by decide +kernel) ⟨'1', [], rfl⟩
  · rw [(hread _ _ hcanonical).1]
    have hruns : runs "v1.2.3" = [['1'], ['2'], ['3']] := by decide +kernel
    simp [hruns, HasSpareZero]
  · rw [ne_eq, hpaths "v1.2.3" "v1.2.4" _ _ hcanonical (by decide +kernel)]
    decide

end Version

end ServerLauncher
