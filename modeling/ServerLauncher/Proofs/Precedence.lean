import ServerLauncher.Proofs.Canonical

/-!
# The order of versions, told by their tags

Versions are compared by their numbers, and tags can be compared as texts to the same end : run by
run, where the zeros in front of a run do not count, a longer run is greater, and runs of one length
are compared character by character (`Version.compareTags`). `Version.compare_tags` says that this
is the order of the versions, which is a strict total order with `Version.zero` below all others.
-/

namespace ServerLauncher

/-! ## Runs of digits -/

/-- Two runs compared by their length, and character by character if they have one length. -/
def compareRuns (as bs : List Char) : Ordering :=
  (Ord.compare as.length bs.length).then (Ord.compare as bs)

/-- A run without the zeros in front of it. -/
def dropZeros (cs : List Char) : List Char :=
  cs.dropWhile (· == '0')

theorem compare_char (c d : Char) : Ord.compare c d = Ord.compare c.toNat d.toNat := by
  change compareOfLessAndEq c d = compareOfLessAndEq c.toNat d.toNat
  simp only [compareOfLessAndEq, Char.toNat_inj]
  rfl

theorem compare_sub {k m n : Nat} (hm : k ≤ m) (hn : k ≤ n) :
    Ord.compare (m - k) (n - k) = Ord.compare m n := by
  rcases Nat.lt_trichotomy m n with h | rfl | h
  · rw [Nat.compare_eq_lt.mpr h, Nat.compare_eq_lt.mpr (by omega)]
  · rw [Nat.compare_eq_eq.mpr rfl, Nat.compare_eq_eq.mpr rfl]
  · rw [Nat.compare_eq_gt.mpr h, Nat.compare_eq_gt.mpr (by omega)]

theorem compare_mul_add {k m n x y : Nat} (hx : x < k) (hy : y < k) :
    Ord.compare (k * m + x) (k * n + y) = (Ord.compare m n).then (Ord.compare x y) := by
  rcases Nat.lt_trichotomy m n with h | rfl | h
  · have hle : k * (m + 1) ≤ k * n := Nat.mul_le_mul_left k h
    rw [Nat.mul_succ] at hle
    rw [Nat.compare_eq_lt.mpr h, Nat.compare_eq_lt.mpr (by omega)]
    rfl
  · rw [Nat.compare_eq_eq.mpr rfl, Ordering.eq_then, ← compare_sub (Nat.le_add_right _ x)
      (Nat.le_add_right _ y), Nat.add_sub_cancel_left, Nat.add_sub_cancel_left]
  · have hle : k * (n + 1) ≤ k * m := Nat.mul_le_mul_left k h
    rw [Nat.mul_succ] at hle
    rw [Nat.compare_eq_gt.mpr h, Nat.compare_eq_gt.mpr (by omega)]
    rfl

/-- Behind two numbers, runs of one length only count if the numbers are equal, and then they are
ordered like texts. -/
theorem compare_ofDigitChars {as : List Char} (has : ∀ c ∈ as, c.isDigit = true) :
    ∀ {bs : List Char} (_ : ∀ c ∈ bs, c.isDigit = true) (_ : as.length = bs.length) (m n : Nat),
      Ord.compare (Nat.ofDigitChars 10 as m) (Nat.ofDigitChars 10 bs n) =
        (Ord.compare m n).then (Ord.compare as bs) := by
  induction as with
  | nil =>
    intro bs _ hlength m n
    rw [List.length_nil, eq_comm, List.length_eq_zero_iff] at hlength
    simp [hlength]
  | cons a as ih =>
    intro bs hbs hlength m n
    cases bs with
    | nil => cases hlength
    | cons b bs =>
      obtain ⟨ha, has⟩ := List.forall_mem_cons.mp has
      obtain ⟨hb, hbs⟩ := List.forall_mem_cons.mp hbs
      have hdigit := compare_mul_add (m := m) (n := n) (toDigits_of_isDigit ha).1
        (toDigits_of_isDigit hb).1
      rw [compare_sub (toNat_of_isDigit ha).1 (toNat_of_isDigit hb).1, ← compare_char] at hdigit
      rw [Nat.ofDigitChars_cons, Nat.ofDigitChars_cons, ih has hbs (Nat.succ.inj hlength), hdigit,
        Ordering.then_assoc, List.compare_cons_cons]

theorem exists_dropZeros (cs : List Char) :
    ∃ k, cs = List.replicate k '0' ++ dropZeros cs := by
  refine ⟨(cs.takeWhile (· == '0')).length, ?_⟩
  have hzeros : cs.takeWhile (· == '0') =
      List.replicate (cs.takeWhile (· == '0')).length '0' := by
    refine List.eq_replicate_of_mem fun c hc => ?_
    simpa using List.all_eq_true.mp List.all_takeWhile c hc
  rw [← hzeros, dropZeros, List.takeWhile_append_dropWhile]

theorem head?_dropZeros (cs : List Char) : (dropZeros cs).head? ≠ some '0' := by
  intro h
  have hnot := List.head?_dropWhile_not (· == '0') cs
  rw [← dropZeros, h] at hnot
  simp at hnot

/-- A shorter run has the smaller value, if no zero stands in front of the longer one. -/
theorem ofDigitChars_lt {as bs : List Char} (has : ∀ c ∈ as, c.isDigit = true)
    (hbs : ∀ c ∈ bs, c.isDigit = true) (hlength : as.length < bs.length)
    (hhead : bs.head? ≠ some '0') :
    Nat.ofDigitChars 10 as 0 < Nat.ofDigitChars 10 bs 0 := by
  obtain ⟨k, hk⟩ : ∃ k, bs.length - as.length = k + 1 := ⟨bs.length - as.length - 1, by omega⟩
  -- Filled up with zeros, the shorter run is as long, and it begins with the smaller digit.
  have hfilled : ∀ c ∈ List.replicate (k + 1) '0' ++ as, c.isDigit = true := by
    intro c hc
    rcases List.mem_append.mp hc with hc | hc
    · rw [List.eq_of_mem_replicate hc]
      decide
    · exact has c hc
  have hcompare := compare_ofDigitChars hfilled hbs (by simp; omega) 0 0
  rw [Nat.ofDigitChars_append, Nat.ofDigitChars_replicate_zero] at hcompare
  cases bs with
  | nil => cases hlength
  | cons b bs =>
    obtain ⟨hlow, -⟩ := toNat_of_isDigit (hbs b (by simp))
    have hb : b.toNat ≠ '0'.toNat := by
      rw [ne_eq, Char.toNat_inj]
      rintro rfl
      exact hhead rfl
    have hfirst : Ord.compare '0' b = .lt := by
      rw [compare_char]
      exact Nat.compare_eq_lt.mpr (Nat.lt_of_le_of_ne hlow hb.symm)
    rw [List.replicate_succ, List.cons_append, List.compare_cons_cons, hfirst] at hcompare
    exact Nat.compare_eq_lt.mp (by simpa using hcompare)

/-- Runs of digits are compared like their values, once the zeros in front are gone. -/
theorem compareRuns_dropZeros {as bs : List Char} (has : ∀ c ∈ as, c.isDigit = true)
    (hbs : ∀ c ∈ bs, c.isDigit = true) : compareRuns (dropZeros as) (dropZeros bs) =
      Ord.compare (Nat.ofDigitChars 10 as 0) (Nat.ofDigitChars 10 bs 0) := by
  have hvalue : ∀ cs, Nat.ofDigitChars 10 cs 0 = Nat.ofDigitChars 10 (dropZeros cs) 0 := by
    intro cs
    obtain ⟨k, hk⟩ := exists_dropZeros cs
    rw [hk, Nat.ofDigitChars_append, Nat.ofDigitChars_replicate_zero, ← hk]
    simp
  have hdigits : ∀ {cs}, (∀ c ∈ cs, c.isDigit = true) → ∀ c ∈ dropZeros cs, c.isDigit = true :=
    fun hcs c hc => hcs c ((List.dropWhile_sublist _).subset hc)
  rw [hvalue as, hvalue bs, compareRuns]
  rcases Nat.lt_trichotomy (dropZeros as).length (dropZeros bs).length with h | h | h
  · rw [Nat.compare_eq_lt.mpr h, Nat.compare_eq_lt.mpr
      (ofDigitChars_lt (hdigits has) (hdigits hbs) h (head?_dropZeros bs))]
    rfl
  · rw [Nat.compare_eq_eq.mpr h, compare_ofDigitChars (hdigits has) (hdigits hbs) h 0 0]
    rfl
  · rw [Nat.compare_eq_gt.mpr h, Nat.compare_eq_gt.mpr
      (ofDigitChars_lt (hdigits hbs) (hdigits has) h (head?_dropZeros as))]
    rfl

theorem compare_of_spells {as bs : List Char} {m n : UInt64} (hm : Spells as m)
    (hn : Spells bs n) : Ord.compare m n = compareRuns (dropZeros as) (dropZeros bs) := by
  rw [compareRuns_dropZeros hm.isDigit hn.isDigit, hm.value, hn.value]
  change compareOfLessAndEq m n = compareOfLessAndEq m.toNat n.toNat
  simp only [compareOfLessAndEq, UInt64.toNat_inj]
  rfl

namespace Version

/-! ## Tags -/

/-- Two tags compared run by run. -/
def compareTags (s t : String) : Ordering :=
  List.compareLex (fun a b => compareRuns (dropZeros a) (dropZeros b)) (runs s) (runs t)

variable {s t : String} {u v w : Version}

/-- A tag has one run for each number. -/
theorem exists_runs (h : parse? t = some v) : ∃ a b c, runs t = [a, b, c] ∧
    Spells a v.major ∧ Spells b v.minor ∧ Spells c v.patch := by
  obtain ⟨a, b, c, hparts, ha, hb, hc⟩ := isTag_of_parse? h
  exact ⟨a, b, c, splitOn_of_isParted hparts (not_mem_of_spells ha) (not_mem_of_spells hb)
    (not_mem_of_spells hc), ha, hb, hc⟩

theorem compare_eq_compareTags (hs : parse? s = some v) (ht : parse? t = some w) :
    v.compare w = compareTags s t := by
  obtain ⟨a, b, c, hruns, ha, hb, hc⟩ := exists_runs hs
  obtain ⟨a', b', c', hruns', ha', hb', hc'⟩ := exists_runs ht
  rw [compareTags, hruns, hruns', compare, compare_of_spells ha ha', compare_of_spells hb hb',
    compare_of_spells hc hc']
  simp [List.compareLex_cons_cons, List.compareLex_nil_nil]

/-! ## Order -/

theorem compare_eq_eq_iff : v.compare w = .eq ↔ v = w := by
  obtain ⟨a, b, c⟩ := v
  obtain ⟨a', b', c'⟩ := w
  simp [compare, Ordering.then_eq_eq]

theorem compare_eq_lt_iff : v.compare w = .lt ↔ v.OlderThan w := by
  simp only [compare, Ordering.then_eq_lt, Std.compare_eq_lt, Std.LawfulEqOrd.compare_eq_iff_eq,
    OlderThan]

/-- Of two versions one is older, or they are equal. -/
theorem olderThan_trichotomy (v w : Version) :
    v.OlderThan w ∧ ¬w.OlderThan v ∧ v ≠ w ∨ ¬v.OlderThan w ∧ w.OlderThan v ∧ v ≠ w ∨
      ¬v.OlderThan w ∧ ¬w.OlderThan v ∧ v = w := by
  have hasymm : ∀ {v w : Version}, v.OlderThan w → ¬w.OlderThan v ∧ v ≠ w := by
    intro v w h
    refine ⟨fun h' => not_olderThan_self v (h.trans h'), ?_⟩
    rintro rfl
    exact not_olderThan_self v h
  by_cases h : v.OlderThan w
  · exact Or.inl ⟨h, hasymm h⟩
  · by_cases h' : w.OlderThan v
    · exact Or.inr (Or.inl ⟨h, h', (hasymm h').2.symm⟩)
    · exact Or.inr (Or.inr ⟨h, h', eq_of_not_olderThan h h'⟩)

/-- The order of two versions is that of their tags : run by run, without the zeros in front, a
longer run is greater, and runs of one length are compared by their characters. Of two versions
exactly one is newer, or they are equal ; what is newer than something newer is newer. The
comparison says the same as being newer and being equal, and everything but `0.0.0` is newer than
`0.0.0`. -/
theorem compare_tags :
    (∀ s t v w, parse? s = some v → parse? t = some w → v.compare w = compareTags s t) ∧
    (∀ v w : Version,
      v.isNewerThan w = true ∧ w.isNewerThan v = false ∧ v ≠ w ∨
      v.isNewerThan w = false ∧ w.isNewerThan v = true ∧ v ≠ w ∨
      v.isNewerThan w = false ∧ w.isNewerThan v = false ∧ v = w) ∧
    (∀ u v w : Version, u.isNewerThan v = true → v.isNewerThan w = true →
      u.isNewerThan w = true) ∧
    (∀ v w : Version, (v.compare w = .gt ↔ v.isNewerThan w = true) ∧
      (v.compare w = .lt ↔ w.isNewerThan v = true) ∧ (v.compare w = .eq ↔ v = w)) ∧
    ∀ v : Version, v.isNewerThan zero = true ↔ v ≠ zero := by
  refine ⟨fun s t v w => compare_eq_compareTags, fun v w => ?_, fun u v w => ?_, fun v w => ?_,
    fun v => ?_⟩
  · simp only [← Bool.not_eq_true, isNewerThan_iff]
    exact (olderThan_trichotomy w v).imp
      (fun ⟨h, h', hne⟩ => ⟨h, h', hne.symm⟩)
      (Or.imp (fun ⟨h, h', hne⟩ => ⟨h, h', hne.symm⟩) fun ⟨h, h', heq⟩ => ⟨h, h', heq.symm⟩)
  · simp only [isNewerThan_iff]
    exact fun h h' => h'.trans h
  · simp only [isNewerThan_iff, compare_eq_gt_iff, compare_eq_lt_iff, compare_eq_eq_iff, and_self]
  · rw [isNewerThan_iff, zero_olderThan_iff]

/-- Ten is more than nine, also behind zeros and in front of the largest number of all. -/
theorem compare_tags_of_ten :
    parse? "v1.10.0" = some ⟨1, 10, 0⟩ ∧
      parse? "v01.009.18446744073709551615" = some ⟨1, 9, 18446744073709551615⟩ ∧
      (⟨1, 10, 0⟩ : Version).compare ⟨1, 9, 18446744073709551615⟩ =
        compareTags "v1.10.0" "v01.009.18446744073709551615" ∧
      compareTags "v1.10.0" "v01.009.18446744073709551615" = .gt := by
  have hs : parse? "v1.10.0" = some ⟨1, 10, 0⟩ := by decide +kernel
  have ht : parse? "v01.009.18446744073709551615" = some ⟨1, 9, 18446744073709551615⟩ := by
    decide +kernel
  obtain ⟨htags, -⟩ := compare_tags
  have hcompare := htags _ _ _ _ hs ht
  exact ⟨hs, ht, hcompare, hcompare.symm.trans (by decide)⟩

end Version

end ServerLauncher
