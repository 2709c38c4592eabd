import ServerLauncher.Proofs.Skipping

/-!
# Readers of values

`Reads r cs x` says what the reader `r` makes of the text `cs`, whatever is behind it : it takes the
text and gives a result, or it stops at a fault, which is `none`. A string, a list or `null` is
taken by the reader for it, and a value of any other kind is refused (`reads_text`, `reads_list`,
`reads_nullable`).
-/

namespace ServerLauncher.Json

variable {α β : Type} {cs tail : List Char} {o : Nat} {x : Option α} {r : Reader α} {w : Escaping}

/-! ## Results -/

/-- The reading gave `x` and left `tail`, or stopped at a fault if `x` is none. -/
def Gives (res : Except Fault (α × Cursor)) (x : Option α) (tail : List Char) : Prop :=
  match x with
  | some a => ∃ o, res = .ok (a, ⟨tail, o⟩)
  | none => ∃ f, res = .error f

/-- What the reader makes of a text, whatever is behind it. -/
def Reads (r : Reader α) (cs : List Char) (x : Option α) : Prop :=
  ∀ tail o, IsEnd tail → Gives (r ⟨cs ++ tail, o⟩) x tail

/-- A reading that goes on behind another. -/
theorem Gives.bind {res : Except Fault (α × Cursor)} (h : Gives res x cs)
    {g : α → Cursor → Except Fault (β × Cursor)} {y : α → Option β}
    (hg : ∀ a o, Gives (g a ⟨cs, o⟩) (y a) tail) :
    Gives (match res with | .error f => .error f | .ok (a, c) => g a c) (x.bind y) tail := by
  cases x with
  | none =>
    obtain ⟨f, rfl⟩ := h
    exact ⟨f, rfl⟩
  | some a =>
    obtain ⟨o, rfl⟩ := h
    exact hg a o

theorem Gives.map {res : Except Fault (α × Cursor)} (h : Gives res x tail) (f : α → β) :
    Gives (res.map fun p => (f p.1, p.2)) (x.map f) tail := by
  cases x with
  | some a =>
    obtain ⟨o, rfl⟩ := h
    exact ⟨o, rfl⟩
  | none =>
    obtain ⟨f', rfl⟩ := h
    exact ⟨f', rfl⟩

theorem Reads.map (h : Reads r cs x) (f : α → β) :
    Reads (fun c => (r c).map fun p => (f p.1, p.2)) cs (x.map f) :=
  fun tail o htail => (h tail o htail).map f

/-- A value that is refused for its kind is never taken. -/
theorem gives_wrongKind (expected : String) (c : Cursor) (tail : List Char) :
    Gives (wrongKind expected c : Except Fault (α × Cursor)) none tail := by
  unfold wrongKind Cursor.stop Cursor.misfit
  repeat' split
  all_goals exact ⟨_, rfl⟩

/-! ## The front of a value -/

/-- The character that a value of this kind begins with ; a number has no certain one. -/
def Value.opener : Value → Option Char
  | .null => some 'n'
  | .bool b => some (if b then 't' else 'f')
  | .number _ => none
  | .string _ => some '"'
  | .list _ => some '['
  | .object _ => some '\x7b'

theorem skipBlanks_text (w : Escaping) (v : Value) (cs : List Char) (o : Nat) :
    (Cursor.mk (v.text w ++ cs) o).skipBlanks = ⟨v.text w ++ cs, o⟩ := by
  obtain ⟨x, xs, htext, hblank, -⟩ := (taken_text w v).head
  rw [htext, List.cons_append, Cursor.skipBlanks_cons hblank]

/-- A character that no number begins with tells of which kind a value is. -/
theorem startsWith_text (w : Escaping) (v : Value) (cs : List Char) (o : Nat) {y : Char}
    (hminus : y ≠ '-') (hdigit : y.isDigit = false) :
    (Cursor.mk (v.text w ++ cs) o).startsWith [y] = decide (v.opener = some y) := by
  cases v with
  | number n =>
    obtain ⟨x, xs, htext, hx⟩ := n.head_text
    have hne : x ≠ y := by
      rintro rfl
      rcases hx with rfl | hx
      · exact hminus rfl
      · rw [hdigit] at hx
        cases hx
    simp [Value.text, Value.opener, htext, hne]
  | bool b => cases b <;> simp [Value.text, Value.opener]
  | _ => simp [Value.text, Value.opener, Escaping.quoted]

/-- The kinds that are told by the first character alone. -/
theorem Value.opener_eq_iff (v : Value) :
    (v.opener = some 'n' ↔ v = .null) ∧ (v.opener = some '"' ↔ ∃ s, v = .string s) ∧
      (v.opener = some '[' ↔ ∃ vs, v = .list vs) ∧
      (v.opener = some '\x7b' ↔ ∃ ms, v = .object ms) := by
  cases v with
  | bool b => cases b <;> simp [Value.opener]
  | _ => simp [Value.opener]

/-! ## Strings and null -/

/-- The string that a value is. -/
def Value.string? : Value → Option String
  | .string s => some s
  | _ => none

theorem Value.string?_eq_some_iff {v : Value} {s : String} :
    v.string? = some s ↔ v = .string s := by
  cases v <;> simp [Value.string?]

theorem reads_text (expected : String) (w : Escaping) (v : Value) :
    Reads (readText expected) (v.text w) v.string? := by
  intro tail o _
  simp only [readText, skipBlanks_text, startsWith_text w v tail o (y := '"') (by decide) rfl]
  by_cases hstring : v.opener = some '"'
  · obtain ⟨s, rfl⟩ := v.opener_eq_iff.2.1.mp hstring
    obtain ⟨o', ho⟩ := readString_quoted w s tail (o + '"'.utf8Size)
    exact ⟨o', by simpa [Value.text, Value.opener, Escaping.quoted] using ho⟩
  · have hnone : v.string? = none := by
      refine Option.eq_none_iff_forall_ne_some.mpr fun s hs => hstring ?_
      exact v.opener_eq_iff.2.1.mpr ⟨s, Value.string?_eq_some_iff.mp hs⟩
    simp only [hstring, decide_false, Bool.false_eq_true, if_false, hnone]
    exact gives_wrongKind expected _ tail

/-- What a value is that may be `null` : nothing, or what it is otherwise. -/
def Value.nullable? (d : Value → Option α) : Value → Option (Option α)
  | .null => some none
  | v => (d v).map some

theorem reads_nullable {d : Value → Option α} (v : Value) (h : Reads r (v.text w) (d v)) :
    Reads (readNullable r) (v.text w) (v.nullable? d) := by
  intro tail o htail
  simp only [readNullable, skipBlanks_text, startsWith_text w v tail o (y := 'n') (by decide) rfl]
  by_cases hnull : v = .null
  · subst hnull
    obtain ⟨o', ho⟩ := Cursor.literal_append "ull".toList tail (o + 'n'.utf8Size)
    have hword : (Cursor.mk (Value.null.text w ++ tail) o).advance =
        ⟨"ull".toList ++ tail, o + 'n'.utf8Size⟩ := rfl
    exact ⟨o', by simp only [Value.opener, decide_true, if_true, hword, ho]⟩
  · have hopener : v.opener ≠ some 'n' := fun h => hnull (v.opener_eq_iff.1.mp h)
    have hsome : v.nullable? d = (d v).map some := by
      cases v <;> first | rfl | exact absurd rfl hnull
    simp only [hopener, decide_false, Bool.false_eq_true, if_false, hsome, Option.map_eq_bind]
    exact (h tail o htail).bind fun _ o' => ⟨o', rfl⟩

/-! ## Lists -/

theorem nextElement_closing (isFirst : Bool) (cs : List Char) (o : Nat) :
    nextElement isFirst ⟨']' :: cs, o⟩ = .ok (false, ⟨']' :: cs, o⟩) := by
  simp [nextElement, Cursor.skipBlanks_cons, Cursor.isBlank]

/-- In front of an element the next element is that one. -/
theorem nextElement_text (w : Escaping) (v : Value) (isFirst : Bool) (cs : List Char) (o : Nat) :
    nextElement isFirst ⟨(if isFirst then v.text w else ',' :: v.text w) ++ cs, o⟩ =
      .ok (true, ⟨v.text w ++ cs, if isFirst then o else o + ','.utf8Size⟩) := by
  obtain ⟨x, xs, htext, hblank, hclosing⟩ := (taken_text w v).head
  have hne : x ≠ ']' := hclosing .list
  have hcomma : Cursor.isBlank ',' = false := rfl
  cases isFirst with
  | true => simp [nextElement, htext, Cursor.skipBlanks_cons hblank, hne]
  | false =>
    simp [nextElement, htext, Cursor.skipBlanks_cons hcomma, Cursor.skipBlanks_cons hblank, hne]

variable {d : Value → Option α} {vs : List Value}

/-- The elements that are left are read, if the reader takes all of them. The fuel has a character
for each, and one for the closing bracket. -/
theorem gives_readElements (h : ∀ v ∈ vs, Reads r (v.text w) (d v)) (done : List α)
    {fuel : List Char} (hfuel : vs.length < fuel.length) (tail : List Char) (o : Nat) :
    Gives (readElements r fuel done
        ⟨itemsText done.isEmpty (elementTexts w vs) ++ ']' :: tail, o⟩)
      ((vs.mapM d).map (done.reverse ++ ·)) tail := by
  induction fuel generalizing vs done o with
  | nil => exact absurd hfuel (Nat.not_lt_zero _)
  | cons x fuel ih =>
    cases vs with
    | nil =>
      refine ⟨o + ']'.utf8Size, ?_⟩
      simp [readElements, elementTexts, itemsText, nextElement_closing]
    | cons v vs =>
      have hv := h v (by simp) _ (if done.isEmpty then o else o + ','.utf8Size)
        (isEnd_itemsText .list (elementTexts w vs) tail)
      have hmore : ((v :: vs).mapM d).map (done.reverse ++ ·) =
          (d v).bind fun a => (vs.mapM d).map ((a :: done).reverse ++ ·) := by
        rw [List.mapM_cons]
        cases d v <;> cases vs.mapM d <;> simp
      simp only [elementTexts, itemsText, List.append_assoc, readElements, nextElement_text, hmore]
      refine hv.bind fun a o' => ?_
      exact ih (fun u hu => h u (List.mem_cons_of_mem v hu)) (a :: done)
        (Nat.lt_of_succ_lt_succ hfuel) o'

/-- A list is taken if all of its elements are. -/
theorem reads_list (h : ∀ v ∈ vs, Reads r (v.text w) (d v)) :
    Reads (readList r) ((Value.list vs).text w) (vs.mapM d) := by
  intro tail o _
  have hopen := startsWith_text w (.list vs) tail o (y := '[') (by decide) rfl
  have htext : (Value.list vs).text w ++ tail =
      '[' :: (itemsText true (elementTexts w vs) ++ ']' :: tail) := by
    simp [Value.text, itemsText_true]
  have hfuel : vs.length < ((Value.list vs).text w ++ tail).length := by
    have hitems := length_le_itemsText true (elementTexts w vs)
    rw [length_elementTexts, Bool.toNat_true] at hitems
    simp only [htext, List.length_cons, List.length_append]
    omega
  have hread := gives_readElements h [] hfuel tail (o + '['.utf8Size)
  simp only [readList, skipBlanks_text, hopen, Value.opener, decide_true, if_true]
  rw [htext] at hread ⊢
  simpa using hread

/-- What the elements of a value are, if it is a list. -/
def Value.elements? (d : Value → Option α) : Value → Option (List α)
  | .list vs => vs.mapM d
  | _ => none

theorem reads_elements {v : Value} (h : ∀ vs, v = .list vs → ∀ u ∈ vs, Reads r (u.text w) (d u)) :
    Reads (readList r) (v.text w) (v.elements? d) := by
  by_cases hlist : ∃ vs, v = .list vs
  · obtain ⟨vs, rfl⟩ := hlist
    exact reads_list (h vs rfl)
  · intro tail o _
    have hopener : v.opener ≠ some '[' := fun hv => hlist (v.opener_eq_iff.2.2.1.mp hv)
    have hnone : v.elements? d = none := by
      cases v <;> first | rfl | exact absurd ⟨_, rfl⟩ hlist
    simp only [readList, skipBlanks_text, startsWith_text w v tail o (y := '[') (by decide) rfl,
      hopener, decide_false, Bool.false_eq_true, if_false, hnone]
    exact gives_wrongKind _ _ tail

theorem mapM_eq_some_iff {as : List α} :
    vs.mapM d = some as ↔ List.Forall₂ (fun a v => d v = some a) as vs := by
  induction vs generalizing as with
  | nil => cases as <;> simp
  | cons v vs ih =>
    rw [List.mapM_cons]
    cases hv : d v <;> cases hvs : vs.mapM d <;> cases as <;>
      simp [← ih, hv, hvs]

/-! ## Documents -/

/-- A document that holds one value is read as the value is. -/
theorem readDocument_eq_ok_iff {v : Value} (h : Reads r (v.text w) x) {a : α} :
    readDocument r (v.document w) = .ok a ↔ x = some a := by
  have hread := h [] 0 isEnd_nil
  have hstart : Cursor.start (v.document w) = ⟨v.text w ++ [], 0⟩ := by
    simp [Cursor.start, Value.document]
  rw [readDocument, hstart]
  cases x with
  | none =>
    obtain ⟨f, hf⟩ := hread
    rw [hf]
    simp
  | some b =>
    obtain ⟨o, ho⟩ := hread
    rw [ho]
    simp [Cursor.skipBlanks]

end ServerLauncher.Json
