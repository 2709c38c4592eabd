import ServerLauncher.Proofs.Rendering

/-!
# Reading and skipping tokens

However the characters of a string are escaped, reading its text gives the string, and skipping it
ends behind its closing quote (`readString_quoted`, `skipString_quoted`). Both go one character of
the text at a time, so the step lemma is about one character of the string : whatever spells it, the
reader is between two characters again behind its spelling (`readStringFrom_spelling`,
`skipStringFrom_spelling`). A number of any length is skipped to its end, if what follows cannot
belong to it (`skipNumber_text`).
-/

namespace ServerLauncher.Json

variable {c : Char} {cs hs done : List Char} {n o start k v d : Nat} {high : Option Nat}

/-! ## Cursors -/

@[simp] theorem Cursor.advance_cons :
    (Cursor.mk (c :: cs) o).advance = ⟨cs, o + c.utf8Size⟩ :=
  rfl

theorem Cursor.skipBlanks_cons (h : Cursor.isBlank c = false) :
    (Cursor.mk (c :: cs) o).skipBlanks = ⟨c :: cs, o⟩ := by
  simp [Cursor.skipBlanks, h]

@[simp] theorem Cursor.startsWith_cons (xs : List Char) :
    (Cursor.mk (c :: cs) o).startsWith xs = xs.contains c :=
  rfl

theorem Cursor.literal_append (ws cs : List Char) (o : Nat) :
    ∃ o', Cursor.literal ws ⟨ws ++ cs, o⟩ = .ok ⟨cs, o'⟩ := by
  induction ws generalizing o with
  | nil => exact ⟨o, rfl⟩
  | cons x ws ih =>
    obtain ⟨o', ho⟩ := ih (o + x.utf8Size)
    exact ⟨o', by simp [Cursor.literal, ho]⟩

/-! ## Hex digits -/

theorem utf8Size_of_hexDigit? (h : hexDigit? c = some d) : c.utf8Size = 1 := by
  have hle : c ≤ 'f' := by
    unfold hexDigit? at h
    split at h
    case isTrue hc => exact Char.le_trans hc.2 (by decide)
    case isFalse =>
      split at h
      case isTrue hc => exact hc.2
      case isFalse =>
        split at h
        case isTrue hc => exact Char.le_trans hc.2 (by decide)
        case isFalse => cases h
  exact Char.utf8Size_eq_one_iff.mpr (Char.le_trans hle (show 'f' ≤ '\x7f' by decide))

/-- Four hex digits, and the number they make up one after the other. -/
theorem IsHex4.exists_digits (h : IsHex4 hs n) : ∃ a b c d x y z w,
    hs = [a, b, c, d] ∧ hexDigit? a = some x ∧ hexDigit? b = some y ∧ hexDigit? c = some z ∧
      hexDigit? d = some w ∧ 16 * (16 * (16 * x + y) + z) + w = n := by
  obtain ⟨hlen, hvalue⟩ := h
  obtain ⟨a, b, c, d, rfl⟩ := List.length_eq_four.mp hlen
  unfold numberIn? at hvalue
  split at hvalue
  case h_1 => cases hvalue
  case h_2 ds hds =>
    simp only [List.mapM_cons, List.mapM_nil, Option.bind_eq_bind, Option.bind_eq_some_iff,
      Option.pure_def, Option.some.injEq] at hds
    obtain ⟨x, hx, _, ⟨y, hy, _, ⟨z, hz, _, ⟨w, hw, _, rfl, rfl⟩, rfl⟩, rfl⟩, rfl⟩ := hds
    refine ⟨a, b, c, d, x, y, z, w, rfl, hx, hy, hz, hw, ?_⟩
    split at hvalue
    case isTrue => simpa [ofDigits] using hvalue
    case isFalse => cases hvalue

theorem Hex.push_of_hexDigit? (h : hexDigit? c = some d) :
    Hex.push ⟨start, k, some v⟩ c = ⟨start, k + 1, some (16 * v + d)⟩ := by
  simp [Hex.push, h, utf8Size_of_hexDigit? h]

/-! ## Reading a string -/

theorem readStringFrom_of_step {s : Scan} {r : Option Char × Scan} (hs : s ≠ .plain ∨ c ≠ '"')
    (h : s.step c o = .ok r) :
    readStringFrom s done (c :: cs) o =
      readStringFrom r.2 (r.1.toList ++ done) cs (o + c.utf8Size) := by
  obtain ⟨x, s'⟩ := r
  rw [readStringFrom, if_neg (by tauto), h]
  cases x <;> rfl

/-- Four hex digits are read as what they stand for. -/
theorem readStringFrom_hex {r : Option Char × Scan} (h : IsHex4 hs n) (hr : ofHex high n = .ok r)
    (start : Nat) (done cs : List Char) (o : Nat) : ∃ o',
    readStringFrom (.hex high ⟨start, 0, some 0⟩) done (hs ++ cs) o =
      readStringFrom r.2 (r.1.toList ++ done) cs o' := by
  obtain ⟨a, b, c, d, x, y, z, w, rfl, ha, hb, hc, hd, hn⟩ := h.exists_digits
  have hmore : ∀ {a k v x cs o}, hexDigit? a = some x → k < 3 →
      readStringFrom (.hex high ⟨start, k, some v⟩) done (a :: cs) o =
        readStringFrom (.hex high ⟨start, k + 1, some (16 * v + x)⟩) done cs (o + a.utf8Size) := by
    intro a k v x cs o ha hk
    have hstep : (Scan.hex high ⟨start, k, some v⟩).step a o =
        .ok (none, .hex high ⟨start, k + 1, some (16 * v + x)⟩) := by
      simp only [Scan.step, Hex.push_of_hexDigit? ha]
      rw [if_pos (by omega)]
    exact readStringFrom_of_step (.inl (by simp)) hstep
  have hlast : (Scan.hex high ⟨start, 3, some (16 * (16 * (16 * 0 + x) + y) + z)⟩).step d
      (o + a.utf8Size + b.utf8Size + c.utf8Size) = .ok r := by
    simp [Scan.step, Hex.push_of_hexDigit? hd, hn, hr]
  exact ⟨_, ((hmore ha (by decide)).trans ((hmore hb (by decide)).trans
    (hmore hc (by decide)))).trans (readStringFrom_of_step (.inl (by simp)) hlast)⟩

/-- A code that is no surrogate stands for its character. -/
theorem ofHex_none (c : Char) : ofHex none c.toNat = .ok (some c, .plain) := by
  have hvalid : c.toNat < 0xD800 ∨ 0xDFFF < c.toNat ∧ c.toNat < 0x110000 := c.valid
  have hlow : isLowSurrogate c.toNat = false := by
    simp only [isLowSurrogate, Bool.and_eq_false_iff, decide_eq_false_iff_not]
    omega
  have hhigh : isHighSurrogate c.toNat = false := by
    simp only [isHighSurrogate, Bool.and_eq_false_iff, decide_eq_false_iff_not]
    omega
  simp [ofHex, hlow, hhigh]

theorem ofHex_highHalf (c : Char) :
    ofHex none (highHalf c.toNat) = .ok (none, .pairBackslash (highHalf c.toNat)) := by
  have hlt := highHalf_lt c
  have hle : 0xD800 ≤ highHalf c.toNat := Nat.le_add_right ..
  have hlow : isLowSurrogate (highHalf c.toNat) = false := by
    simp only [isLowSurrogate, Bool.and_eq_false_iff, decide_eq_false_iff_not]
    omega
  have hhigh : isHighSurrogate (highHalf c.toNat) = true := by
    simp only [isHighSurrogate, Bool.and_eq_true, decide_eq_true_eq]
    omega
  simp [ofHex, hlow, hhigh]

/-- The halves of a pair stand for the character together. -/
theorem ofHex_lowHalf (h : 0x10000 ≤ c.toNat) :
    ofHex (some (highHalf c.toNat)) (lowHalf c.toNat) = .ok (some c, .plain) := by
  have hlow : isLowSurrogate (lowHalf c.toNat) = true := by
    have := lowHalf_lt c.toNat
    simp only [isLowSurrogate, Bool.and_eq_true, decide_eq_true_eq]
    exact ⟨Nat.le_add_right .., by omega⟩
  have hvalue : (highHalf c.toNat - 0xD800) * 0x400 + (lowHalf c.toNat - 0xDC00) + 0x10000 =
      c.toNat := by
    unfold highHalf lowHalf
    omega
  simp only [ofHex, hlow, if_true, pairChar, hvalue, Char.ofNat_toNat]

/-- The letter of an escape is read as its character, and is not taken for that of a code. -/
theorem escaped?_of_mem {x : Char} (h : (x, c) ∈ letterEscapes) :
    x ≠ 'u' ∧ escaped? x = some c := by
  simp only [letterEscapes, List.mem_cons, Prod.mk.injEq, List.not_mem_nil, or_false] at h
  rcases h with h | h | h | h | h | h | h | h <;> obtain ⟨rfl, rfl⟩ := h <;> decide

/-- Behind the spelling of a character the reader has that character, and is between two
characters. -/
theorem readStringFrom_spelling {spelling : List Char} (h : Spelling c spelling)
    (done cs : List Char) (o : Nat) : ∃ o',
    readStringFrom .plain done (spelling ++ cs) o = readStringFrom .plain (c :: done) cs o' := by
  have hescape : ∀ {cs o}, readStringFrom .plain done ('\\' :: cs) o =
      readStringFrom .escape done cs (o + 1) := by
    intro cs o
    rw [readStringFrom_of_step (.inr (by decide)) rfl]
    rfl
  have hcode : ∀ {cs o}, readStringFrom .escape done ('u' :: cs) o =
      readStringFrom (.hex none ⟨o + 1, 0, some 0⟩) done cs (o + 1) := by
    intro cs o
    rw [readStringFrom_of_step (.inl (by simp)) rfl]
    rfl
  cases h with
  | plain hcontrol hquote hbackslash =>
    have hstep : Scan.plain.step c o = .ok (some c, .plain) := by
      simp [Scan.step, hbackslash, Nat.not_lt.mpr hcontrol]
    exact ⟨_, readStringFrom_of_step (.inr hquote) hstep⟩
  | @letter x h =>
    have hstep : Scan.escape.step x (o + 1) = .ok (some c, .plain) := by
      simp [Scan.step, escaped?_of_mem h]
    refine ⟨o + 1 + x.utf8Size, ?_⟩
    rw [List.cons_append, hescape]
    exact readStringFrom_of_step (.inl (by simp)) hstep
  | code h =>
    rw [List.cons_append, List.cons_append, hescape, hcode]
    exact readStringFrom_hex h (ofHex_none c) _ done cs _
  | @pair hs ls hlarge hhigh hlow =>
    rw [List.cons_append, List.cons_append, hescape, hcode, List.append_assoc]
    obtain ⟨o₁, h₁⟩ := readStringFrom_hex hhigh (ofHex_highHalf c) (o + 1 + 1) done
      ('\\' :: 'u' :: ls ++ cs) (o + 1 + 1)
    have hsecond : readStringFrom (.pairBackslash (highHalf c.toNat)) done
        ('\\' :: 'u' :: ls ++ cs) o₁ =
          readStringFrom (.hex (some (highHalf c.toNat)) ⟨o₁ + 1 + 1, 0, some 0⟩) done (ls ++ cs)
            (o₁ + 1 + 1) := by
      rw [List.cons_append, List.cons_append, readStringFrom_of_step (.inl (by simp)) rfl,
        readStringFrom_of_step (.inl (by simp)) rfl]
      rfl
    obtain ⟨o₂, h₂⟩ := readStringFrom_hex hlow (ofHex_lowHalf hlarge) (o₁ + 1 + 1) done cs
      (o₁ + 1 + 1)
    exact ⟨o₂, h₁.trans (hsecond.trans h₂)⟩

/-- The text of a string is read as the string. -/
theorem readString_quoted (w : Escaping) (s : String) (cs : List Char) (o : Nat) :
    ∃ o', readString ⟨s.toList.flatMap w.spell ++ '"' :: cs, o⟩ = .ok (s, ⟨cs, o'⟩) := by
  have hread : ∀ xs done o, ∃ o', readStringFrom .plain done (xs.flatMap w.spell ++ '"' :: cs) o =
      .ok (String.ofList (done.reverse ++ xs), ⟨cs, o'⟩) := by
    intro xs
    induction xs with
    | nil => exact fun done o => ⟨o + 1, by simp [readStringFrom]⟩
    | cons x xs ih =>
      intro done o
      obtain ⟨o₁, h₁⟩ := readStringFrom_spelling (w.spelling x) done
        (xs.flatMap w.spell ++ '"' :: cs) o
      obtain ⟨o₂, h₂⟩ := ih (x :: done) o₁
      exact ⟨o₂, by simpa using h₁.trans h₂⟩
  obtain ⟨o', h⟩ := hread s.toList [] o
  exact ⟨o', by simpa [readString] using h⟩

/-! ## Skipping a string -/

theorem skipStringFrom_of_step {s s' : SkipScan} (hs : s ≠ .plain ∨ c ≠ '"')
    (h : s.step c o = .ok s') :
    skipStringFrom s (c :: cs) o = skipStringFrom s' cs (o + c.utf8Size) := by
  rw [skipStringFrom, if_neg (by tauto), h]

/-- Four hex digits are skipped, whatever they stand for. -/
theorem skipStringFrom_hex (h : IsHex4 hs n) (start : Nat) (cs : List Char) (o : Nat) : ∃ o',
    skipStringFrom (.hex ⟨start, 0, some 0⟩) (hs ++ cs) o = skipStringFrom .plain cs o' := by
  obtain ⟨a, b, c, d, x, y, z, w, rfl, ha, hb, hc, hd, -⟩ := h.exists_digits
  have hmore : ∀ {a k v x cs o}, hexDigit? a = some x → k < 3 →
      skipStringFrom (.hex ⟨start, k, some v⟩) (a :: cs) o =
        skipStringFrom (.hex ⟨start, k + 1, some (16 * v + x)⟩) cs (o + a.utf8Size) := by
    intro a k v x cs o ha hk
    have hstep : (SkipScan.hex ⟨start, k, some v⟩).step a o =
        .ok (.hex ⟨start, k + 1, some (16 * v + x)⟩) := by
      simp only [SkipScan.step, Hex.push_of_hexDigit? ha]
      rw [if_pos (by omega)]
    exact skipStringFrom_of_step (.inl (by simp)) hstep
  have hlast : (SkipScan.hex ⟨start, 3, some (16 * (16 * (16 * 0 + x) + y) + z)⟩).step d
      (o + a.utf8Size + b.utf8Size + c.utf8Size) = .ok .plain := by
    simp [SkipScan.step, Hex.push_of_hexDigit? hd]
  exact ⟨_, ((hmore ha (by decide)).trans ((hmore hb (by decide)).trans
    (hmore hc (by decide)))).trans (skipStringFrom_of_step (.inl (by simp)) hlast)⟩

/-- Behind the spelling of a character the reader is between two characters. -/
theorem skipStringFrom_spelling {spelling : List Char} (h : Spelling c spelling)
    (cs : List Char) (o : Nat) :
    ∃ o', skipStringFrom .plain (spelling ++ cs) o = skipStringFrom .plain cs o' := by
  have hcode : ∀ {cs o}, skipStringFrom .plain ('\\' :: 'u' :: cs) o =
      skipStringFrom (.hex ⟨o + 1 + 1, 0, some 0⟩) cs (o + 1 + 1) := by
    intro cs o
    rw [skipStringFrom_of_step (.inr (by decide)) rfl, skipStringFrom_of_step (.inl (by simp)) rfl]
    rfl
  cases h with
  | plain hcontrol hquote hbackslash =>
    have hstep : SkipScan.plain.step c o = .ok .plain := by
      simp [SkipScan.step, hbackslash, Nat.not_lt.mpr hcontrol]
    exact ⟨_, skipStringFrom_of_step (.inr hquote) hstep⟩
  | @letter x h =>
    have hstep : SkipScan.escape.step x (o + 1) = .ok .plain := by
      simp [SkipScan.step, escaped?_of_mem h]
    refine ⟨o + 1 + x.utf8Size, ?_⟩
    rw [List.cons_append, skipStringFrom_of_step (.inr (by decide)) rfl]
    exact skipStringFrom_of_step (.inl (by simp)) hstep
  | code h =>
    rw [List.cons_append, List.cons_append, hcode]
    exact skipStringFrom_hex h _ cs _
  | @pair hs ls hlarge hhigh hlow =>
    rw [List.cons_append, List.cons_append, hcode, List.append_assoc]
    obtain ⟨o₁, h₁⟩ := skipStringFrom_hex hhigh (o + 1 + 1) ('\\' :: 'u' :: ls ++ cs)
      (o + 1 + 1)
    obtain ⟨o₂, h₂⟩ := skipStringFrom_hex hlow (o₁ + 1 + 1) cs (o₁ + 1 + 1)
    exact ⟨o₂, h₁.trans (hcode.trans h₂)⟩

/-- The text of a string is skipped to its end. -/
theorem skipString_quoted (w : Escaping) (s : String) (cs : List Char) (o : Nat) :
    ∃ o', skipString ⟨s.toList.flatMap w.spell ++ '"' :: cs, o⟩ = .ok ⟨cs, o'⟩ := by
  unfold skipString
  induction s.toList generalizing o with
  | nil => exact ⟨o + 1, by simp [skipStringFrom]⟩
  | cons x xs ih =>
    obtain ⟨o₁, h₁⟩ := skipStringFrom_spelling (w.spelling x) (xs.flatMap w.spell ++ '"' :: cs) o
    obtain ⟨o₂, h₂⟩ := ih o₁
    exact ⟨o₂, by simpa using h₁.trans h₂⟩

/-! ## Skipping a number -/

/-- What may stand behind a value in a text without blanks : nothing, a comma or a closing
bracket. -/
def IsEnd (tail : List Char) : Prop :=
  ∀ x ∈ tail.head?, x = ',' ∨ x = ']' ∨ x = '\x7d'

/-- No digit stands at the front. -/
def NoDigit (cs : List Char) : Prop :=
  ∀ x ∈ cs.head?, isDigit x = false

theorem isEnd_nil : IsEnd [] := by
  simp [IsEnd]

theorem IsEnd.noDigit (h : IsEnd cs) : NoDigit cs := by
  intro x hx
  rcases h x hx with rfl | rfl | rfl <;> rfl

theorem IsEnd.startsWith (h : IsEnd cs) (xs : List Char) (hcomma : ',' ∉ xs) (hlist : ']' ∉ xs)
    (hobject : '\x7d' ∉ xs) : (Cursor.mk cs o).startsWith xs = false := by
  cases cs with
  | nil => rfl
  | cons x cs => rcases h x rfl with rfl | rfl | rfl <;> simpa

theorem digit?_of_isDigit (h : c.isDigit = true) : digit? c = some (c.toNat - '0'.toNat) :=
  (digit?_eq_some_iff c _).mpr ⟨h, rfl⟩

/-- A run of digits is taken to its end. -/
theorem Cursor.digits_append {ds tail : List Char} (hds : ∀ c ∈ ds, c.isDigit = true)
    (htail : NoDigit tail) :
    (Cursor.mk (ds ++ tail) o).digits = ds.map fun c => c.toNat - '0'.toNat := by
  have hfront : ∀ c ∈ ds, isDigit c = true := fun c hc => by
    rw [isDigit, digit?_of_isDigit (hds c hc)]
    rfl
  have hrest : tail.takeWhile isDigit = [] := by
    cases tail with
    | nil => rfl
    | cons x tail => exact List.takeWhile_cons_of_neg (by simp [htail x rfl])
  simp only [Cursor.digits, List.takeWhile_append_of_pos hfront, hrest, List.append_nil]
  exact List.filterMap_eq_map_iff_forall_eq_some.mpr fun c hc => digit?_of_isDigit (hds c hc)

/-- There is a digit in a run, and the cursor goes behind the run. -/
theorem Digits.exists_digits (ds : Digits) {tail : List Char} (htail : NoDigit tail) (o : Nat) :
    ∃ x xs, (Cursor.mk (ds.chars ++ tail) o).digits = x :: xs ∧
      (Cursor.mk (ds.chars ++ tail) o).drop (x :: xs).length = ⟨tail, o + ds.chars.length⟩ := by
  have hdigits := Cursor.digits_append (o := o) ds.isDigit htail
  obtain ⟨y, ys, hy⟩ := List.exists_cons_of_ne_nil ds.ne_nil
  refine ⟨y.toNat - '0'.toNat, ys.map fun c => c.toNat - '0'.toNat, by rw [hdigits, hy]; rfl, ?_⟩
  simp [Cursor.drop, hy]

/-- A run of digits begins with none of `xs`, if no digit is among them. -/
theorem Digits.startsWith (ds : Digits) (cs : List Char) (o : Nat) (xs : List Char)
    (hxs : ∀ x ∈ xs, x.isDigit = false) :
    (Cursor.mk (ds.chars ++ cs) o).startsWith xs = false := by
  obtain ⟨y, ys, hy⟩ := List.exists_cons_of_ne_nil ds.ne_nil
  rw [hy, List.cons_append, Cursor.startsWith_cons, List.contains_eq_mem, decide_eq_false_iff_not]
  intro hmem
  have hdigit := ds.isDigit y (by simp [hy])
  rw [hxs y hmem] at hdigit
  cases hdigit

/-- Skip the digits of an exponent, behind its sign. -/
def skipPower (c : Cursor) : Except Fault Cursor :=
  match c.digits with
  | [] => c.misfit .invalidNumber
  | ds => .ok (c.drop ds.length)

theorem skipExponent_eq (c : Cursor) :
    skipExponent c = skipPower (if c.startsWith ['+', '-'] then c.advance else c) :=
  rfl

theorem skipExponent_text (e : Exponent) {tail : List Char} (h : IsEnd tail) (o : Nat) : ∃ o',
    skipExponent ⟨(e.sign.elim [] fun plus => [if plus then '+' else '-']) ++
      (e.digits.chars ++ tail), o⟩ = .ok ⟨tail, o'⟩ := by
  have hpower : ∀ o, ∃ o', skipPower ⟨e.digits.chars ++ tail, o⟩ = .ok ⟨tail, o'⟩ := by
    intro o
    obtain ⟨x, xs, hds, hdrop⟩ := e.digits.exists_digits h.noDigit o
    exact ⟨_, by rw [skipPower, hds]; exact congrArg Except.ok hdrop⟩
  rw [skipExponent_eq]
  cases e.sign with
  | none =>
    have hsign := e.digits.startsWith tail o ['+', '-'] (by simp)
    rw [Option.elim_none, List.nil_append, hsign]
    exact hpower o
  | some plus => cases plus <;> exact hpower _

/-- The text of the exponent of a number, if it has one. -/
def Numeral.scaleText (n : Numeral) : List Char :=
  n.exponent.elim [] Exponent.text

/-- The text of the fraction of a number, if it has one. -/
def Numeral.fractionText (n : Numeral) : List Char :=
  n.fraction.elim [] fun ds => '.' :: ds.chars

/-- What stands behind the digits of a number begins with no digit, and with a point only if the
number has a fraction. -/
theorem Numeral.noDigit_scaleText (n : Numeral) {tail : List Char} (h : IsEnd tail) :
    NoDigit (n.scaleText ++ tail) ∧
      (Cursor.mk (n.scaleText ++ tail) o).startsWith ['.'] = false := by
  unfold scaleText
  cases n.exponent with
  | none => exact ⟨h.noDigit, h.startsWith _ (by decide) (by decide) (by decide)⟩
  | some e =>
    obtain ⟨upper, sign, digits⟩ := e
    cases upper <;> simp [Exponent.text, NoDigit, isDigit, digit?]

theorem Numeral.skipScaled_text (n : Numeral) {tail : List Char} (h : IsEnd tail) (o : Nat) :
    ∃ o', skipScaled ⟨n.scaleText ++ tail, o⟩ = .ok ⟨tail, o'⟩ := by
  unfold skipScaled scaleText
  cases n.exponent with
  | none =>
    have hnone := h.startsWith (o := o) ['e', 'E'] (by decide) (by decide) (by decide)
    exact ⟨o, by simp [hnone]⟩
  | some e =>
    have hletter : ['e', 'E'].contains (if e.upper then 'E' else 'e') = true := by
      cases e.upper <;> rfl
    obtain ⟨o', ho⟩ := skipExponent_text e h (o + (if e.upper then 'E' else 'e').utf8Size)
    exact ⟨o', by simpa [Exponent.text, hletter] using ho⟩

theorem Numeral.skipTail_text (n : Numeral) {tail : List Char} (h : IsEnd tail) (o : Nat) :
    ∃ o', skipTail ⟨n.fractionText ++ (n.scaleText ++ tail), o⟩ = .ok ⟨tail, o'⟩ := by
  obtain ⟨hdigit, hpoint⟩ := n.noDigit_scaleText (o := o) h
  unfold skipTail fractionText
  cases n.fraction with
  | none => simpa [hpoint] using n.skipScaled_text h o
  | some ds =>
    obtain ⟨x, xs, hds, hdrop⟩ := ds.exists_digits hdigit (o + '.'.utf8Size)
    obtain ⟨o', ho⟩ := n.skipScaled_text h (o + '.'.utf8Size + ds.chars.length)
    refine ⟨o', ?_⟩
    rw [← ho, ← hdrop]
    simp only [Option.elim_some, List.cons_append, Cursor.startsWith_cons, Cursor.advance_cons, hds]
    rfl

/-- The digits of a number before its point. -/
def Numeral.wholeDigits (n : Numeral) : Digits where
  chars := Nat.toDigits 10 n.whole
  ne_nil := Nat.toDigits_ne_nil
  isDigit _ hc := isDigit_of_mem_toDigits hc

theorem Numeral.text_append (n : Numeral) (tail : List Char) : n.text ++ tail =
    (if n.negative then ['-'] else []) ++
      (n.wholeDigits.chars ++ (n.fractionText ++ (n.scaleText ++ tail))) := by
  simp [text, wholeDigits, fractionText, scaleText]

theorem Numeral.noDigit_fractionText (n : Numeral) {tail : List Char} (h : IsEnd tail) :
    NoDigit (n.fractionText ++ (n.scaleText ++ tail)) := by
  have hscale := (n.noDigit_scaleText (o := 0) h).1
  unfold fractionText
  cases n.fraction with
  | none => exact hscale
  | some ds => simp [NoDigit, isDigit, digit?]

/-- Skip a number behind its sign. -/
def skipMagnitude (c : Cursor) : Except Fault Cursor :=
  match c.digits with
  | [] => c.misfit .invalidNumber
  | [0] => skipTail (c.drop 1)
  | 0 :: _ => (c.drop 1).misfit .invalidNumber
  | ds => skipTail (c.drop ds.length)

theorem skipNumber_eq (c : Cursor) :
    skipNumber c = skipMagnitude (if c.startsWith ['-'] then c.advance else c) :=
  rfl

/-- A number that begins with a zero has no other digit before its point. -/
theorem Numeral.skipMagnitude_text (n : Numeral) {tail : List Char} (h : IsEnd tail) (o : Nat) :
    ∃ o', skipMagnitude ⟨n.wholeDigits.chars ++ (n.fractionText ++ (n.scaleText ++ tail)), o⟩ =
      .ok ⟨tail, o'⟩ := by
  have hrest := n.noDigit_fractionText h
  have hdigits := Cursor.digits_append (o := o) n.wholeDigits.isDigit hrest
  obtain ⟨x, xs, hds, hdrop⟩ := n.wholeDigits.exists_digits hrest o
  obtain ⟨o', ho⟩ := n.skipTail_text h (o + n.wholeDigits.chars.length)
  have hspare : x = 0 → xs = [] := by
    rintro rfl
    rw [hds, eq_comm, List.map_eq_cons_iff] at hdigits
    obtain ⟨c, cs, hchars, hzero, rfl⟩ := hdigits
    have hc : c = '0' := by
      have hrange := toNat_of_isDigit (n.wholeDigits.isDigit c (by simp [hchars]))
      exact Char.toNat_inj.mp (by omega)
    cases cs with
    | nil => rfl
    | cons d ds => exact absurd ⟨d, ds, hc ▸ hchars⟩ (not_hasSpareZero_toDigits n.whole)
  refine ⟨o', ?_⟩
  rw [← ho, ← hdrop, skipMagnitude, hds]
  cases x with
  | zero => rw [hspare rfl]; rfl
  | succ x => rfl

/-- A number is skipped to its end. -/
theorem skipNumber_text (n : Numeral) {tail : List Char} (h : IsEnd tail) (o : Nat) :
    ∃ o', skipNumber ⟨n.text ++ tail, o⟩ = .ok ⟨tail, o'⟩ := by
  rw [n.text_append, skipNumber_eq]
  cases n.negative with
  | false =>
    have hsign := n.wholeDigits.startsWith (n.fractionText ++ (n.scaleText ++ tail)) o ['-']
      (by simp)
    simp only [Bool.false_eq_true, if_false, List.nil_append, hsign]
    exact n.skipMagnitude_text h o
  | true => exact n.skipMagnitude_text h _

end ServerLauncher.Json
