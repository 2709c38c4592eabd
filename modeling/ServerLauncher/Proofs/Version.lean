import ServerLauncher.Version

/-!
# Tags and the order of versions

A tag that is written out is read back as the same version (`Version.parse?_tag`), and every text
that is read as a version has exactly two points in it (`Version.count_dot_of_parse?`).

`Version.OlderThan` is the order of versions told number by number ; `Version.isNewerThan` and
`Version.le` decide it, and `Version.newestBy?` picks an element that no other one is newer than.
-/

namespace ServerLauncher

/-! ## Digits -/

theorem digit?_digitChar {d : Nat} (h : d < 10) : digit? d.digitChar = some d := by
  revert d
  decide

theorem ofDigits_append (base : Nat) (ds : List Nat) (d : Nat) :
    ofDigits base (ds ++ [d]) = base * ofDigits base ds + d := by
  simp [ofDigits]

theorem mapM_digit?_toDigits (n : Nat) :
    ∃ ds, (Nat.toDigits 10 n).mapM digit? = some ds ∧ ofDigits 10 ds = n := by
  induction n using Nat.strongRecOn with
  | ind n ih =>
    rw [Nat.toDigits_eq_if (by decide)]
    split
    · exact ⟨[n], by simp [digit?_digitChar ‹_›], by simp [ofDigits]⟩
    · obtain ⟨ds, hds, hn⟩ := ih (n / 10) (by omega)
      have hd := digit?_digitChar (d := n % 10) (by omega)
      refine ⟨ds ++ [n % 10], by simp [List.mapM_append, hds, hd], ?_⟩
      rw [ofDigits_append, hn]
      omega

/-- A number that is written out is read back as it was. -/
theorem number?_toDigits (n : Nat) : number? (Nat.toDigits 10 n) = some n := by
  obtain ⟨ds, hds, hn⟩ := mapM_digit?_toDigits n
  rw [number?, if_neg (by simp), hds, Option.map_some, hn]

theorem isDigit_of_mem_toDigits {n : Nat} {c : Char} (h : c ∈ Nat.toDigits 10 n) :
    c.isDigit = true :=
  Nat.isDigit_of_mem_toDigits (by decide) (by decide) h

theorem toNat_of_isDigit {c : Char} (h : c.isDigit = true) :
    '0'.toNat ≤ c.toNat ∧ c.toNat ≤ '9'.toNat := by
  rw [Char.isDigit, Bool.and_eq_true, decide_eq_true_eq, decide_eq_true_eq] at h
  exact h

theorem not_mem_toDigits {n : Nat} {c : Char} (h : c.isDigit = false) : c ∉ Nat.toDigits 10 n :=
  fun hc => by simp [isDigit_of_mem_toDigits hc] at h

namespace Version

/-! ## Tags -/

theorem toList_tag (v : Version) : v.tag.toList =
    'v' :: (Nat.toDigits 10 v.major.toNat ++ '.' ::
      (Nat.toDigits 10 v.minor.toNat ++ '.' :: Nat.toDigits 10 v.patch.toNat)) := by
  simp [tag, toString, Nat.toList_repr]

/-- Nothing is in a tag but digits, points and the `v`. -/
theorem not_mem_tag {a : Char} (hdigit : a.isDigit = false) (hne : a ≠ 'v' ∧ a ≠ '.')
    (v : Version) : a ∉ v.tag.toList := by
  have hdigits : ∀ n, a ∉ Nat.toDigits 10 n := fun n => not_mem_toDigits hdigit
  simp [toList_tag, hdigits, hne]

theorem component?_toDigits (n : UInt64) : component? (Nat.toDigits 10 n.toNat) = some n := by
  have hn : n.toNat < UInt64.size := n.toNat_lt
  rw [component?, number?_toDigits, Option.bind_some, if_pos hn, UInt64.ofNat_toNat]

/-- A tag that is written out is read back as the same version. -/
theorem parse?_tag (v : Version) : parse? v.tag = some v := by
  have hdot : ∀ n, '.' ∉ Nat.toDigits 10 n := fun n => not_mem_toDigits (by decide)
  rw [parse?, toList_tag]
  simp only [List.splitOn_append_cons_self_of_not_mem (hdot _), List.splitOn_eq_singleton (hdot _),
    component?_toDigits]

theorem length_splitOn {α : Type} [BEq α] (a : α) (xs : List α) :
    (xs.splitOn a).length = xs.count a + 1 := by
  induction xs with
  | nil => rfl
  | cons x xs ih =>
    rw [List.splitOn_cons_eq_if_modifyHead, List.count_cons]
    split <;> simp [ih]

/-- A text that is read as a version has exactly two points in it. -/
theorem count_dot_of_parse? {s : String} {v : Version} (h : parse? s = some v) :
    s.toList.count '.' = 2 := by
  unfold parse? at h
  split at h
  case h_2 => simp at h
  case h_1 cs hs =>
    split at h
    case h_2 => simp at h
    case h_1 a b c hsplit =>
      have hlength := length_splitOn '.' cs
      rw [hsplit] at hlength
      rw [hs, List.count_cons_of_ne (by decide)]
      simpa using hlength.symm

/-! ## Order -/

/-- `v` comes before `w` : by the major number, then the minor, then the patch. -/
def OlderThan (v w : Version) : Prop :=
  v.major < w.major ∨
    v.major = w.major ∧ (v.minor < w.minor ∨ v.minor = w.minor ∧ v.patch < w.patch)

theorem compare_eq_gt_iff (v w : Version) : v.compare w = .gt ↔ w.OlderThan v := by
  simp only [compare, Ordering.then_eq_gt, Std.compare_eq_gt, Std.LawfulEqOrd.compare_eq_iff_eq,
    OlderThan, @eq_comm _ w.major, @eq_comm _ w.minor]

theorem isNewerThan_iff (v w : Version) : v.isNewerThan w = true ↔ w.OlderThan v := by
  rw [← compare_eq_gt_iff, isNewerThan, beq_iff_eq]

theorem le_iff (v w : Version) : v.le w = true ↔ ¬w.OlderThan v := by
  rw [← compare_eq_gt_iff, le, bne_iff_ne]

theorem OlderThan.trans {u v w : Version} (h : u.OlderThan v) (h' : v.OlderThan w) :
    u.OlderThan w := by
  simp only [OlderThan, UInt64.lt_iff_toNat_lt, ← UInt64.toNat_inj] at *
  omega

/-- Not to be older is transitive, as two versions that are not apart are equal. -/
theorem not_olderThan_trans {u v w : Version} (h : ¬u.OlderThan v) (h' : ¬v.OlderThan w) :
    ¬u.OlderThan w := by
  simp only [OlderThan, UInt64.lt_iff_toNat_lt, ← UInt64.toNat_inj] at *
  omega

theorem not_olderThan_self (v : Version) : ¬v.OlderThan v := by
  simp [OlderThan]

theorem eq_of_not_olderThan {v w : Version} (h : ¬v.OlderThan w) (h' : ¬w.OlderThan v) :
    v = w := by
  obtain ⟨a, b, c⟩ := v
  obtain ⟨a', b', c'⟩ := w
  simp only [OlderThan, UInt64.lt_iff_toNat_lt, ← UInt64.toNat_inj, Version.mk.injEq] at *
  omega

/-- `Version.zero` is older than every other version. -/
theorem zero_olderThan_iff {v : Version} : zero.OlderThan v ↔ v ≠ zero := by
  obtain ⟨a, b, c⟩ := v
  have hzero : (0 : UInt64).toNat = 0 := rfl
  simp only [OlderThan, zero, UInt64.lt_iff_toNat_lt, ← UInt64.toNat_inj, ne_eq, Version.mk.injEq,
    hzero]
  omega

theorem zero_olderThan {v w : Version} (h : v.OlderThan w) : zero.OlderThan w := by
  rw [zero_olderThan_iff]
  rintro rfl
  simp [OlderThan, zero, UInt64.lt_iff_toNat_lt] at h

/-! ## The newest -/

theorem newestBy?_eq_none_iff {α : Type} (f : α → Version) (as : List α) :
    newestBy? f as = none ↔ as = [] := by
  cases as <;> simp [newestBy?]

theorem foldl_newest {α : Type} (f : α → Version) (as : List α) (a : α) :
    let b := as.foldl (fun b c => if (f b).le (f c) then c else b) a
    (b = a ∨ b ∈ as) ∧ ¬(f b).OlderThan (f a) ∧ ∀ c ∈ as, ¬(f b).OlderThan (f c) := by
  induction as generalizing a with
  | nil => simp [not_olderThan_self]
  | cons c as ih =>
    simp only [List.foldl_cons]
    by_cases h : (f a).le (f c) = true
    · obtain ⟨hmem, hc, has⟩ := ih c
      rw [if_pos h]
      refine ⟨Or.inr (by simpa using hmem), ?_, by simpa using ⟨hc, has⟩⟩
      exact not_olderThan_trans hc ((le_iff _ _).mp h)
    · obtain ⟨hmem, ha, has⟩ := ih a
      rw [if_neg h]
      have hca : (f c).OlderThan (f a) := by simpa [le_iff] using h
      refine ⟨hmem.imp_right (List.mem_cons_of_mem c), ha, ?_⟩
      simp only [List.mem_cons, forall_eq_or_imp]
      refine ⟨?_, has⟩
      intro hbc
      exact ha (hbc.trans hca)

/-- The element picked is one of them, and none is newer. -/
theorem newestBy?_spec {α : Type} {f : α → Version} {as : List α} {a : α}
    (h : newestBy? f as = some a) : a ∈ as ∧ ∀ b ∈ as, ¬(f a).OlderThan (f b) := by
  cases as with
  | nil => simp [newestBy?] at h
  | cons b bs =>
    obtain ⟨hmem, hb, hbs⟩ := foldl_newest f bs b
    obtain rfl := Option.some.inj h
    exact ⟨by simpa using hmem, by simpa using ⟨hb, hbs⟩⟩

end Version

end ServerLauncher
