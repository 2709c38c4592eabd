import Mathlib.Tactic.ByContra
import ServerLauncher.Proofs.Version

/-!
# The grammar of tags

A tag is a `v` and three runs of plain digits with points between them, each with a value below
2^64 (`Version.IsTag`). `Version.parse?` reads a text as a version exactly if it is a tag of that
version, and no other text is read (`Version.parse?_grammar`).

A tag can be found in two stages : a pattern that admits the digits of any script cuts the runs out,
and a reader of numbers that admits plain digits, with a plus in front of them, takes their values.
What both admit together is the grammar (`Version.parse?_eq_some_iff_of_pattern`).
-/

namespace ServerLauncher

/-! ## Runs of digits -/

/-- A run of plain digits that spells the number `n`. -/
structure Spells (cs : List Char) (n : UInt64) : Prop where
  ne_nil : cs ≠ []
  isDigit : ∀ c ∈ cs, c.isDigit = true
  value : Nat.ofDigitChars 10 cs 0 = n.toNat

theorem digit?_eq_some_iff (c : Char) (d : Nat) :
    digit? c = some d ↔ c.isDigit = true ∧ d = c.toNat - '0'.toNat := by
  have hrange : ('0' ≤ c ∧ c ≤ '9') ↔ c.isDigit = true := by
    rw [Char.isDigit, Bool.and_eq_true, decide_eq_true_eq, decide_eq_true_eq]
    exact Iff.rfl
  unfold digit?
  split
  case isTrue h =>
    rw [Option.some.injEq, hrange.mp h]
    exact ⟨fun hd => ⟨rfl, hd.symm⟩, fun hd => hd.2.symm⟩
  case isFalse h => simp [mt hrange.mpr h]

theorem mapM_digit?_eq_some_iff (cs : List Char) (ds : List Nat) : cs.mapM digit? = some ds ↔
    (∀ c ∈ cs, c.isDigit = true) ∧ ds = cs.map fun c => c.toNat - '0'.toNat := by
  induction cs generalizing ds with
  | nil => exact ⟨fun h => ⟨by simp, (Option.some.inj h).symm⟩, fun h => congrArg some h.2.symm⟩
  | cons c cs ih =>
    simp only [List.mapM_cons, Option.bind_eq_bind, Option.bind_eq_some_iff, digit?_eq_some_iff, ih,
      Option.pure_def, Option.some.injEq, List.forall_mem_cons, List.map_cons]
    constructor
    · rintro ⟨_, ⟨hc, rfl⟩, _, ⟨hcs, rfl⟩, rfl⟩
      exact ⟨⟨hc, hcs⟩, rfl⟩
    · rintro ⟨⟨hc, hcs⟩, rfl⟩
      exact ⟨_, ⟨hc, rfl⟩, _, ⟨hcs, rfl⟩, rfl⟩

theorem number?_eq_some_iff (cs : List Char) (n : Nat) : number? cs = some n ↔
    cs ≠ [] ∧ (∀ c ∈ cs, c.isDigit = true) ∧ Nat.ofDigitChars 10 cs 0 = n := by
  have hvalue : ofDigits 10 (cs.map fun c => c.toNat - '0'.toNat) = Nat.ofDigitChars 10 cs 0 := by
    rw [ofDigits, List.foldl_map, Nat.ofDigitChars_eq_foldl]
  unfold number?
  split
  case isTrue hnil => simp [List.isEmpty_iff.mp hnil]
  case isFalse hnil =>
    simp only [Option.map_eq_some_iff, mapM_digit?_eq_some_iff]
    constructor
    · rintro ⟨_, ⟨hdigits, rfl⟩, rfl⟩
      exact ⟨by simpa using hnil, hdigits, hvalue.symm⟩
    · rintro ⟨-, hdigits, rfl⟩
      exact ⟨_, ⟨hdigits, rfl⟩, hvalue⟩

namespace Version

theorem component?_eq_some_iff (cs : List Char) (n : UInt64) :
    component? cs = some n ↔ Spells cs n := by
  unfold component?
  simp only [Option.bind_eq_some_iff, number?_eq_some_iff]
  constructor
  · rintro ⟨m, ⟨hnil, hdigits, hvalue⟩, hm⟩
    split at hm
    case isTrue hsize =>
      obtain rfl := Option.some.inj hm
      exact ⟨hnil, hdigits, by rw [hvalue, UInt64.toNat_ofNat_of_lt' hsize]⟩
    case isFalse => cases hm
  · rintro ⟨hnil, hdigits, hvalue⟩
    refine ⟨n.toNat, ⟨hnil, hdigits, hvalue⟩, ?_⟩
    rw [if_pos n.toNat_lt, UInt64.ofNat_toNat]

/-! ## Tags -/

/-- The text is a `v` and three runs with points between them. -/
def IsParted (t : String) (a b c : List Char) : Prop :=
  t.toList = 'v' :: (a ++ '.' :: (b ++ '.' :: c))

/-- The text is a tag of the version. -/
def IsTag (t : String) (v : Version) : Prop :=
  ∃ a b c, IsParted t a b c ∧ Spells a v.major ∧ Spells b v.minor ∧ Spells c v.patch

variable {t : String} {v : Version} {a b c : List Char}

theorem not_mem_of_spells {n : UInt64} (h : Spells a n) : '.' ∉ a :=
  fun hdot => absurd (h.isDigit '.' hdot) (by decide)

/-- A tag is made of digits, the `v` and the points. -/
theorem IsTag.not_mem {x : Char} (h : IsTag t v) (hdigit : x.isDigit = false)
    (hne : x ≠ 'v' ∧ x ≠ '.') : x ∉ t.toList := by
  obtain ⟨a, b, c, hparts, ha, hb, hc⟩ := h
  have hrun : ∀ {cs : List Char} {n : UInt64}, Spells cs n → x ∉ cs := by
    intro cs n hcs hx
    exact absurd (hcs.isDigit x hx) (by simp [hdigit])
  rw [hparts]
  simp [hne, hrun ha, hrun hb, hrun hc]

/-- A text whose runs have no point in them is cut at its two points. -/
theorem splitOn_of_isParted (h : IsParted t a b c) (ha : '.' ∉ a) (hb : '.' ∉ b) (hc : '.' ∉ c) :
    t.toList.tail.splitOn '.' = [a, b, c] := by
  rw [h, List.tail_cons, List.splitOn_append_cons_self_of_not_mem ha,
    List.splitOn_append_cons_self_of_not_mem hb, List.splitOn_eq_singleton hc]

theorem isParted_of_splitOn {cs : List Char} (ht : t.toList = 'v' :: cs)
    (hsplit : cs.splitOn '.' = [a, b, c]) : IsParted t a b c := by
  have hcs : ['.'].intercalate (cs.splitOn '.') = cs := List.intercalate_splitOn '.'
  rw [hsplit] at hcs
  rw [IsParted, ht, ← hcs]
  simp [List.intercalate]

theorem isTag_of_parse? (h : parse? t = some v) : IsTag t v := by
  unfold parse? at h
  split at h
  case h_2 => cases h
  case h_1 cs ht =>
    split at h
    case h_2 => cases h
    case h_1 a b c hsplit =>
      split at h
      case h_2 => cases h
      case h_1 x y z hx hy hz =>
        obtain rfl := Option.some.inj h
        exact ⟨a, b, c, isParted_of_splitOn ht hsplit, (component?_eq_some_iff a x).mp hx,
          (component?_eq_some_iff b y).mp hy, (component?_eq_some_iff c z).mp hz⟩

theorem parse?_of_isTag (h : IsTag t v) : parse? t = some v := by
  obtain ⟨a, b, c, hparts, ha, hb, hc⟩ := h
  have hsplit := splitOn_of_isParted hparts (not_mem_of_spells ha) (not_mem_of_spells hb)
    (not_mem_of_spells hc)
  rw [hparts, List.tail_cons] at hsplit
  rw [parse?, hparts]
  simp only [hsplit, (component?_eq_some_iff a _).mpr ha, (component?_eq_some_iff b _).mpr hb,
    (component?_eq_some_iff c _).mpr hc]

theorem parse?_eq_some_iff : parse? t = some v ↔ IsTag t v :=
  ⟨isTag_of_parse?, parse?_of_isTag⟩

/-! ## Faults -/

/-- A run that spells no number : it is empty, or something else than a plain digit is in it, or its
value is too large. -/
def IsFaulty (cs : List Char) : Prop :=
  cs = [] ∨ (∃ c ∈ cs, c.isDigit = false) ∨ UInt64.size ≤ Nat.ofDigitChars 10 cs 0

theorem not_isFaulty_iff (cs : List Char) : ¬IsFaulty cs ↔ ∃ n, Spells cs n := by
  simp only [IsFaulty, not_or, not_exists, not_and, Bool.not_eq_false, Nat.not_le]
  constructor
  · rintro ⟨hnil, hdigits, hsize⟩
    exact ⟨UInt64.ofNat (Nat.ofDigitChars 10 cs 0), hnil, hdigits,
      (UInt64.toNat_ofNat_of_lt' hsize).symm⟩
  · rintro ⟨n, hnil, hdigits, hvalue⟩
    exact ⟨hnil, hdigits, hvalue ▸ n.toNat_lt⟩

theorem parse?_eq_none_iff : parse? t = none ↔
    ∀ a b c, IsParted t a b c → IsFaulty a ∨ IsFaulty b ∨ IsFaulty c := by
  constructor
  · intro hnone a b c hparts
    by_contra hsound
    simp only [not_or, not_isFaulty_iff] at hsound
    obtain ⟨⟨x, hx⟩, ⟨y, hy⟩, z, hz⟩ := hsound
    have hsome := parse?_of_isTag (v := ⟨x, y, z⟩) ⟨a, b, c, hparts, hx, hy, hz⟩
    rw [hnone] at hsome
    cases hsome
  · intro hfaulty
    by_contra hsome
    obtain ⟨v, hv⟩ := Option.ne_none_iff_exists'.mp hsome
    obtain ⟨a, b, c, hparts, ha, hb, hc⟩ := isTag_of_parse? hv
    rcases hfaulty a b c hparts with h | h | h
    · exact (not_isFaulty_iff a).mpr ⟨_, ha⟩ h
    · exact (not_isFaulty_iff b).mpr ⟨_, hb⟩ h
    · exact (not_isFaulty_iff c).mpr ⟨_, hc⟩ h

/-! ## Reading in two stages -/

/-- A number in plain digits, with a plus in front of it or without. -/
def plainNumber? : List Char → Option UInt64
  | '+' :: cs => component? cs
  | cs => component? cs

/-- The pattern of tags, for a class of digits : three runs of them behind a `v`. -/
structure FitsPattern (isDecimal : Char → Bool) (t : String) (a b c : List Char) : Prop where
  parted : IsParted t a b c
  runs : ∀ run ∈ [a, b, c], run ≠ [] ∧ ∀ d ∈ run, isDecimal d = true

theorem plainNumber?_of_no_plus {cs : List Char} (h : '+' ∉ cs) :
    plainNumber? cs = component? cs := by
  unfold plainNumber?
  split
  case h_1 => simp at h
  case h_2 => rfl

/-- Whatever counts as a digit besides the plain ones, if only a plus does not : a pattern of such
digits in front of a reader of plain numbers reads what `parse?` reads. -/
theorem parse?_eq_some_iff_of_pattern {isDecimal : Char → Bool}
    (hplain : ∀ d, d.isDigit = true → isDecimal d = true) (hplus : isDecimal '+' = false) :
    parse? t = some v ↔ ∃ a b c, FitsPattern isDecimal t a b c ∧
      plainNumber? a = some v.major ∧ plainNumber? b = some v.minor ∧
        plainNumber? c = some v.patch := by
  have hread : ∀ cs, (∀ d ∈ cs, isDecimal d = true) → plainNumber? cs = component? cs :=
    fun cs hcs => plainNumber?_of_no_plus fun hmem => by simp [hcs '+' hmem] at hplus
  have hdigits : ∀ {cs n}, Spells cs n → cs ≠ [] ∧ ∀ d ∈ cs, isDecimal d = true :=
    fun h => ⟨h.ne_nil, fun d hd => hplain d (h.isDigit d hd)⟩
  rw [parse?_eq_some_iff]
  constructor
  · rintro ⟨a, b, c, hparts, ha, hb, hc⟩
    refine ⟨a, b, c, ⟨hparts, ?_⟩, ?_⟩
    · simp only [List.forall_mem_cons]
      exact ⟨hdigits ha, hdigits hb, hdigits hc, by simp⟩
    rw [hread a (hdigits ha).2, hread b (hdigits hb).2, hread c (hdigits hc).2]
    exact ⟨(component?_eq_some_iff a _).mpr ha, (component?_eq_some_iff b _).mpr hb,
      (component?_eq_some_iff c _).mpr hc⟩
  · rintro ⟨a, b, c, ⟨hparts, hruns⟩, ha, hb, hc⟩
    rw [hread a (hruns a (by simp)).2, component?_eq_some_iff] at ha
    rw [hread b (hruns b (by simp)).2, component?_eq_some_iff] at hb
    rw [hread c (hruns c (by simp)).2, component?_eq_some_iff] at hc
    exact ⟨a, b, c, hparts, ha, hb, hc⟩

/-! ## The grammar -/

/-- A text is read as a version exactly if it is a `v` and three runs of plain digits with points
between them that spell the numbers of the version. It is read as none exactly if there is a fault
in it wherever it is cut in that way : a run that is empty, something in it that is no plain digit,
or a value that is not below 2^64. A pattern that admits digits of more scripts, in front of a
reader of plain numbers that admits a plus, reads the same. -/
theorem parse?_grammar (t : String) :
    (∀ v, parse? t = some v ↔
      ∃ a b c, t.toList = 'v' :: (a ++ '.' :: (b ++ '.' :: c)) ∧
        Spells a v.major ∧ Spells b v.minor ∧ Spells c v.patch) ∧
    (parse? t = none ↔
      ∀ a b c, t.toList = 'v' :: (a ++ '.' :: (b ++ '.' :: c)) →
        IsFaulty a ∨ IsFaulty b ∨ IsFaulty c) ∧
    ∀ isDecimal : Char → Bool, (∀ d, d.isDigit = true → isDecimal d = true) →
      isDecimal '+' = false → ∀ v, parse? t = some v ↔
        ∃ a b c, FitsPattern isDecimal t a b c ∧ plainNumber? a = some v.major ∧
          plainNumber? b = some v.minor ∧ plainNumber? c = some v.patch :=
  ⟨fun _ => parse?_eq_some_iff, parse?_eq_none_iff,
    fun _ hplain hplus _ => parse?_eq_some_iff_of_pattern hplain hplus⟩

/-- Arabic digits fit a pattern that admits them, but no text with one in it is a tag. -/
theorem parse?_of_arabic_digit :
    let isDecimal (d : Char) : Bool := d.isDigit || '\u0660' ≤ d && d ≤ '\u0669'
    FitsPattern isDecimal "v\u0661.2.03" ['\u0661'] ['2'] ['0', '3'] ∧
      parse? "v\u0661.2.03" = none ∧ parse? "v1.2.03" = some ⟨1, 2, 3⟩ := by
  intro isDecimal
  have hpattern := (parse?_grammar "v1.2.03").2.2 isDecimal (fun d hd => by simp [isDecimal, hd])
    (by decide) ⟨1, 2, 3⟩
  refine ⟨⟨rfl, by simp [isDecimal]⟩, by decide +kernel,
    hpattern.mpr ⟨['1'], ['2'], ['0', '3'], ?_⟩⟩
  exact ⟨⟨rfl, by simp [isDecimal]⟩, by decide +kernel, by decide +kernel, by decide +kernel⟩

/-- The largest number is read, with zeros in front of it too, and the next one is not. -/
example : parse? "v18446744073709551615.0.0018446744073709551615" =
      some ⟨18446744073709551615, 0, 18446744073709551615⟩ ∧
    parse? "v18446744073709551616.0.0" = none ∧ parse? "v1.2.3\n" = none ∧
    parse? "v+1.2.3" = none ∧ parse? "v\u0661.2.3" = none := by
  decide +kernel

end Version

end ServerLauncher
