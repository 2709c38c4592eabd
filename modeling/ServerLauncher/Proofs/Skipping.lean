import ServerLauncher.Proofs.Tokens

/-!
# Skipping a value

The text of a value is skipped to its end, whatever the value is and however deep it goes
(`skipValue_text`). `Skips n x y` says that `n` steps lead from `x` to `y`. By induction on the
value its text is taken in fewer steps than it has characters (`Taken`), so the fuel of `skipFrom`,
which is one for each character, is enough (`skipFrom_of_skips`). Lists and objects go alike : both
are items with commas between them, inside of brackets (`skips_items`).
-/

namespace ServerLauncher.Json

/-! ## Steps -/

/-- So many steps lead from one state to the other, or to the end. -/
inductive Skips : Nat → SkipState ⊕ Cursor → SkipState ⊕ Cursor → Prop
  | refl {x : SkipState ⊕ Cursor} : Skips 0 x x
  | step {n : Nat} {s : SkipState} {x y : SkipState ⊕ Cursor} (hstep : s.step = .ok x)
      (h : Skips n x y) : Skips (n + 1) (.inl s) y

theorem Skips.trans {m n : Nat} {x y z : SkipState ⊕ Cursor} (h : Skips m x y)
    (h' : Skips n y z) : Skips (m + n) x z := by
  induction h with
  | refl => rwa [Nat.zero_add]
  | step hstep _ ih => rw [Nat.add_right_comm]; exact .step hstep (ih h')

/-- Steps that lead to the end are made, if the fuel is enough for them. -/
theorem skipFrom_of_skips {n : Nat} {s : SkipState} {c : Cursor} {fuel : List Char}
    (h : Skips n (.inl s) (.inr c)) (hfuel : n ≤ fuel.length) : skipFrom fuel s = .ok c := by
  induction fuel generalizing n s with
  | nil =>
    obtain rfl : n = 0 := Nat.le_zero.mp hfuel
    cases h
  | cons x fuel ih =>
    cases h with
    | @step n _ y _ hstep h =>
      rw [skipFrom, hstep]
      cases y with
      | inl s' => exact ih h (Nat.le_of_succ_le_succ hfuel)
      | inr c' =>
        cases h with
        | refl => rfl

/-! ## Items -/

/-- A text that is taken as a value, in fewer steps than it has characters. -/
structure Taken (cs : List Char) : Prop where
  head : ∃ x xs, cs = x :: xs ∧ Cursor.isBlank x = false ∧ ∀ b : Bracket, x ≠ b.closing
  leads : ∀ (bs : List Bracket) (tail : List Char) (o : Nat), IsEnd tail → ∃ x n o',
    takeValue bs ⟨cs ++ tail, o⟩ = .ok x ∧ Skips n x (afterValue bs ⟨tail, o'⟩) ∧ n < cs.length

/-- A text that is taken as an element or a member inside of the bracket `b`. -/
structure IsItem (b : Bracket) (cs : List Char) : Prop where
  head : ∃ x xs, cs = x :: xs ∧ Cursor.isBlank x = false ∧ x ≠ b.closing
  leads : ∀ (bs : List Bracket) (tail : List Char) (o : Nat), IsEnd tail → ∃ x n o',
    takeElement b bs ⟨cs ++ tail, o⟩ = .ok x ∧
      Skips n x (.inl ⟨.comma, b :: bs, ⟨tail, o'⟩⟩) ∧ n < cs.length

theorem Taken.isItem {cs : List Char} (h : Taken cs) : IsItem .list cs := by
  obtain ⟨x, xs, hcs, hblank, hclosing⟩ := h.head
  exact ⟨⟨x, xs, hcs, hblank, hclosing _⟩, fun bs => h.leads (.list :: bs)⟩

theorem skipKey_quoted (w : Escaping) (k : String) (cs : List Char) (o : Nat) :
    ∃ o', skipKey ⟨w.quoted k ++ ':' :: cs, o⟩ = .ok ⟨cs, o'⟩ := by
  obtain ⟨o', ho⟩ := skipString_quoted w k (':' :: cs) (o + '"'.utf8Size)
  exact ⟨o' + ':'.utf8Size,
    by simp [skipKey, Escaping.quoted, ho, Cursor.skipBlanks_cons, Cursor.isBlank]⟩

theorem Taken.isItem_member {cs : List Char} (h : Taken cs) (w : Escaping) (k : String) :
    IsItem .object (w.quoted k ++ ':' :: cs) := by
  refine ⟨⟨'"', _, rfl, rfl, by decide⟩, fun bs tail o htail => ?_⟩
  obtain ⟨o₁, h₁⟩ := skipKey_quoted w k (cs ++ tail) o
  obtain ⟨x, n, o₂, hx, hskips, hn⟩ := h.leads (.object :: bs) tail o₁ htail
  have hstep : SkipState.step ⟨.value, .object :: bs, ⟨cs ++ tail, o₁⟩⟩ = .ok x := by
    obtain ⟨y, ys, rfl, hblank, -⟩ := h.head
    simp only [List.cons_append] at hx ⊢
    simp only [SkipState.step, Cursor.skipBlanks_cons hblank, hx]
  refine ⟨.inl ⟨.value, .object :: bs, ⟨cs ++ tail, o₁⟩⟩, n + 1, o₂, ?_, .step hstep hskips, ?_⟩
  · simp [takeElement, h₁, Except.map]
  · simp only [List.length_append, List.length_cons]
    omega

/-! ## Brackets -/

/-- Items with a comma in front of each, but for the first one behind a bracket. -/
def itemsText : Bool → List (List Char) → List Char
  | _, [] => []
  | isFirst, i :: is => (if isFirst then i else ',' :: i) ++ itemsText false is

theorem itemsText_true (is : List (List Char)) : itemsText true is = [','].intercalate is := by
  have hmore : ∀ i is, [','].intercalate (i :: is) = i ++ itemsText false is := by
    intro i is
    induction is generalizing i with
    | nil => simp [itemsText]
    | cons j is ih => simp [List.intercalate_cons_cons, ih, itemsText]
  cases is with
  | nil => rfl
  | cons i is => rw [hmore, itemsText, if_pos rfl]

/-- Each item but the first has a comma. -/
theorem length_le_itemsText (isFirst : Bool) (is : List (List Char)) :
    is.length ≤ (itemsText isFirst is).length + isFirst.toNat := by
  induction is generalizing isFirst with
  | nil => exact Nat.zero_le _
  | cons i is ih =>
    have hrest := ih false
    simp only [Bool.toNat_false] at hrest
    cases isFirst <;>
      simp only [itemsText, List.length_append, List.length_cons, if_true, Bool.toNat_true,
        Bool.false_eq_true, if_false] <;> omega

variable {b : Bracket} {is : List (List Char)} {tail : List Char}

theorem isEnd_itemsText (b : Bracket) (is : List (List Char)) (tail : List Char) :
    IsEnd (itemsText false is ++ b.closing :: tail) := by
  cases is with
  | nil => cases b <;> simp [IsEnd, itemsText, Bracket.closing]
  | cons i is => simp [IsEnd, itemsText]

/-- What is expected in front of the items that are left inside of a bracket. -/
def expectItem (isFirst : Bool) : Expect :=
  if isFirst then .first else .comma

theorem step_closing (b : Bracket) (bs : List Bracket) (isFirst : Bool) (tail : List Char)
    (o : Nat) : SkipState.step ⟨expectItem isFirst, b :: bs, ⟨b.closing :: tail, o⟩⟩ =
      .ok (afterValue bs ⟨tail, o + b.closing.utf8Size⟩) := by
  have hblank : Cursor.isBlank b.closing = false := by cases b <;> rfl
  cases isFirst <;> simp [SkipState.step, expectItem, Cursor.skipBlanks_cons hblank]

/-- In front of an item the step is one into the item. -/
theorem step_item {i cs : List Char} {x : SkipState ⊕ Cursor} (hi : IsItem b i)
    (bs : List Bracket) (isFirst : Bool) (o : Nat)
    (hx : takeElement b bs ⟨i ++ cs, if isFirst then o else o + ','.utf8Size⟩ = .ok x) :
    SkipState.step ⟨expectItem isFirst, b :: bs,
      ⟨(if isFirst then i else ',' :: i) ++ cs, o⟩⟩ = .ok x := by
  obtain ⟨y, ys, rfl, hblank, hclosing⟩ := hi.head
  have hcomma : ',' ≠ b.closing := by cases b <;> decide
  have hnot : Cursor.isBlank ',' = false := rfl
  cases isFirst with
  | true => simpa [SkipState.step, expectItem, Cursor.skipBlanks_cons hblank, hclosing] using hx
  | false =>
    simpa [SkipState.step, expectItem, Cursor.skipBlanks_cons hnot, hcomma,
      Cursor.skipBlanks_cons hblank] using hx

/-- The items that are left inside of a bracket are skipped, and the bracket that closes it. -/
theorem skips_items (h : ∀ i ∈ is, IsItem b i) (bs : List Bracket) (isFirst : Bool)
    (tail : List Char) (o : Nat) : ∃ n o',
    Skips n (.inl ⟨expectItem isFirst, b :: bs, ⟨itemsText isFirst is ++ b.closing :: tail, o⟩⟩)
      (afterValue bs ⟨tail, o'⟩) ∧ n ≤ (itemsText isFirst is).length + 1 := by
  induction is generalizing isFirst o with
  | nil => exact ⟨1, _, .step (step_closing b bs isFirst tail o) .refl, Nat.le_refl _⟩
  | cons i is ih =>
    have hi := h i (by simp)
    obtain ⟨x, n, o₁, hx, hskips, hn⟩ := hi.leads bs _ (if isFirst then o else o + ','.utf8Size)
      (isEnd_itemsText b is tail)
    obtain ⟨m, o₂, hrest, hm⟩ := ih (fun j hj => h j (List.mem_cons_of_mem i hj)) false o₁
    have hstep := step_item hi bs isFirst o hx
    rw [← List.append_assoc] at hstep
    have hlen : i.length ≤ (if isFirst then i else ',' :: i).length := by
      cases isFirst <;> simp
    refine ⟨n + m + 1, o₂, .step hstep (hskips.trans hrest), ?_⟩
    rw [itemsText, List.length_append]
    omega

/-! ## Values -/

/-- A text that is taken as a scalar is taken as a value. -/
theorem taken_of_scalar {x : Char} {xs : List Char} (hblank : Cursor.isBlank x = false)
    (hclosing : ∀ b : Bracket, x ≠ b.closing)
    (h : ∀ tail o, IsEnd tail → ∃ o', skipScalar ⟨x :: xs ++ tail, o⟩ = .ok (none, ⟨tail, o'⟩)) :
    Taken (x :: xs) := by
  refine ⟨⟨x, xs, rfl, hblank, hclosing⟩, fun bs tail o htail => ?_⟩
  obtain ⟨o', ho⟩ := h tail o htail
  exact ⟨_, 0, o', by rw [takeValue, ho], .refl, by simp⟩

theorem ne_closing_of {x : Char} (h : x ≠ ']' ∧ x ≠ '\x7d') (b : Bracket) : x ≠ b.closing := by
  cases b with
  | list => exact h.1
  | object => exact h.2

theorem Numeral.head_text (n : Numeral) :
    ∃ x xs, n.text = x :: xs ∧ (x = '-' ∨ x.isDigit = true) := by
  have happend := n.text_append []
  rw [List.append_nil] at happend
  obtain ⟨x, xs, hx⟩ := List.exists_cons_of_ne_nil n.wholeDigits.ne_nil
  cases hneg : n.negative with
  | true => exact ⟨'-', _, by rw [happend, hneg]; rfl, .inl rfl⟩
  | false =>
    exact ⟨x, _, by rw [happend, hneg, hx]; rfl, .inr (n.wholeDigits.isDigit x (by simp [hx]))⟩

theorem taken_number (n : Numeral) : Taken n.text := by
  obtain ⟨x, xs, htext, hx⟩ := n.head_text
  have hne : ∀ y : Char, y ≠ '-' → y.isDigit = false → x ≠ y := by
    rintro y hminus hdigit rfl
    rcases hx with rfl | hx
    · exact hminus rfl
    · rw [hdigit] at hx
      cases hx
  have hnumber : (decide (x = '-') || isDigit x) = true := by
    rcases hx with rfl | hx
    · rfl
    · simp [isDigit, digit?_of_isDigit hx]
  have hblank : Cursor.isBlank x = false := by
    simp [Cursor.isBlank, hne]
  rw [htext]
  refine taken_of_scalar hblank (ne_closing_of (by simp [hne])) fun tail o htail => ?_
  obtain ⟨o', ho⟩ := skipNumber_text n htail o
  rw [htext] at ho
  refine ⟨o', ?_⟩
  simp only [skipScalar, List.cons_append] at ho ⊢
  rw [if_neg (hne 'n' (by decide) rfl), if_neg (hne 't' (by decide) rfl),
    if_neg (hne 'f' (by decide) rfl), if_pos hnumber, ho]
  rfl

theorem taken_string (w : Escaping) (s : String) : Taken (w.quoted s) := by
  refine taken_of_scalar rfl (ne_closing_of (by decide)) fun tail o _ => ?_
  obtain ⟨o', ho⟩ := skipString_quoted w s tail (o + '"'.utf8Size)
  exact ⟨o', by simp [skipScalar, ho, Except.map, isDigit, digit?]⟩

/-- A bracket with items inside is taken as a value. -/
theorem taken_items {x : Char} (hblank : Cursor.isBlank x = false)
    (hclosing : ∀ b : Bracket, x ≠ b.closing)
    (hopen : ∀ cs o, skipScalar ⟨x :: cs, o⟩ = .ok (some b, ⟨cs, o + x.utf8Size⟩))
    (h : ∀ i ∈ is, IsItem b i) : Taken (x :: ([','].intercalate is ++ [b.closing])) := by
  refine ⟨⟨x, _, rfl, hblank, hclosing⟩, fun bs tail o _ => ?_⟩
  obtain ⟨n, o', hskips, hn⟩ := skips_items h bs true tail (o + x.utf8Size)
  rw [itemsText_true] at hskips hn
  refine ⟨_, n, o', ?_, hskips, ?_⟩
  · simp [takeValue, hopen, expectItem]
  · simp only [List.length_cons, List.length_append, List.length_nil]
    omega

/-- The text of a value is taken, given that those of its parts are. -/
theorem taken_text (w : Escaping) (v : Value) : Taken (v.text w) := by
  induction v using Value.induct with
  | null =>
    refine taken_of_scalar rfl (ne_closing_of (by decide)) fun tail o _ => ?_
    obtain ⟨o', ho⟩ := Cursor.literal_append "ull".toList tail (o + 'n'.utf8Size)
    exact ⟨o', congrArg (Except.map (none, ·)) ho⟩
  | bool b =>
    cases b with
    | true =>
      refine taken_of_scalar rfl (ne_closing_of (by decide)) fun tail o _ => ?_
      obtain ⟨o', ho⟩ := Cursor.literal_append "rue".toList tail (o + 't'.utf8Size)
      exact ⟨o', congrArg (Except.map (none, ·)) ho⟩
    | false =>
      refine taken_of_scalar rfl (ne_closing_of (by decide)) fun tail o _ => ?_
      obtain ⟨o', ho⟩ := Cursor.literal_append "alse".toList tail (o + 'f'.utf8Size)
      exact ⟨o', congrArg (Except.map (none, ·)) ho⟩
  | number n => exact taken_number n
  | string s => exact taken_string w s
  | list vs ih =>
    refine taken_items (b := .list) rfl (ne_closing_of (by decide)) (fun _ _ => rfl) ?_
    intro i hi
    rw [elementTexts_eq_map] at hi
    obtain ⟨v, hv, rfl⟩ := List.mem_map.mp hi
    exact (ih v hv).isItem
  | object ms ih =>
    refine taken_items (b := .object) rfl (ne_closing_of (by decide)) (fun _ _ => rfl) ?_
    intro i hi
    rw [memberTexts_eq_map] at hi
    obtain ⟨m, hm, rfl⟩ := List.mem_map.mp hi
    exact (ih m hm).isItem_member w m.1

/-- The text of a value is skipped to its end. -/
theorem skipValue_text (w : Escaping) (v : Value) {tail : List Char} (h : IsEnd tail) (o : Nat) :
    ∃ o', skipValue ⟨v.text w ++ tail, o⟩ = .ok ⟨tail, o'⟩ := by
  have htaken := taken_text w v
  obtain ⟨x, n, o', hx, hskips, hn⟩ := htaken.leads [] tail o h
  have hstep : SkipState.step ⟨.value, [], ⟨v.text w ++ tail, o⟩⟩ = .ok x := by
    obtain ⟨y, ys, hy, hblank, -⟩ := htaken.head
    simp only [hy, List.cons_append] at hx ⊢
    simp only [SkipState.step, Cursor.skipBlanks_cons hblank, hx]
  refine ⟨o', skipFrom_of_skips (.step hstep hskips) ?_⟩
  simp only [List.length_cons, List.length_append]
  omega

end ServerLauncher.Json
