import ServerLauncher.Text.Utf8

/-!
# Writing a text out and reading it back

`Utf8.encode` and `Utf8.decode?` are inverse to each other : a text written out is read back as it
was (`decode?_encode`), and a byte string that is read as a text is that text written out
(`encode_of_decode?`). A byte below 0x80 is a character of its own wherever it stands
(`mem_encode_iff`).

The reading goes one byte at a time. For the way back every character under way is followed to
its end (`Begun.Spells`) : whatever bytes continue it, the character that comes of them is written
with the bytes that were read. Only the first byte of a character has to be looked at for that.
-/

namespace ServerLauncher.Utf8

/-! ## How a character is written -/

/-- An ASCII character is one byte, which is its code. -/
theorem encodeChar_one {c : Char} (h : c.toNat < 0x80) :
    String.utf8EncodeChar c = [UInt8.ofNat c.toNat] := by
  have hv : c.val.toNat = c.toNat := rfl
  simp only [String.utf8EncodeChar, hv]
  rw [if_pos (by omega)]

/-- Up to U+07FF a character takes two bytes, the second with six bits of its code. -/
theorem encodeChar_two {c : Char} (h : 0x80 ≤ c.toNat) (h' : c.toNat < 0x800) :
    String.utf8EncodeChar c =
      [UInt8.ofNat (c.toNat / 64 % 0x20 + 0xC0), UInt8.ofNat (c.toNat % 64 + 0x80)] := by
  have hv : c.val.toNat = c.toNat := rfl
  simp only [String.utf8EncodeChar, hv]
  rw [if_neg (by omega), if_pos (by omega)]

/-- Up to U+FFFF it takes three, the last two with six bits each. -/
theorem encodeChar_three {c : Char} (h : 0x800 ≤ c.toNat) (h' : c.toNat < 0x10000) :
    String.utf8EncodeChar c =
      [UInt8.ofNat (c.toNat / 4096 % 0x10 + 0xE0), UInt8.ofNat (c.toNat / 64 % 64 + 0x80),
        UInt8.ofNat (c.toNat % 64 + 0x80)] := by
  have hv : c.val.toNat = c.toNat := rfl
  simp only [String.utf8EncodeChar, hv]
  rw [if_neg (by omega), if_neg (by omega), if_pos (by omega)]

/-- Past U+FFFF it takes four. -/
theorem encodeChar_four {c : Char} (h : 0x10000 ≤ c.toNat) :
    String.utf8EncodeChar c =
      [UInt8.ofNat (c.toNat / 262144 % 8 + 0xF0), UInt8.ofNat (c.toNat / 4096 % 64 + 0x80),
        UInt8.ofNat (c.toNat / 64 % 64 + 0x80), UInt8.ofNat (c.toNat % 64 + 0x80)] := by
  have hv : c.val.toNat = c.toNat := rfl
  simp only [String.utf8EncodeChar, hv]
  rw [if_neg (by omega), if_neg (by omega), if_neg (by omega)]

theorem toNat_ofNat_of_lt {n : Nat} (h : n < 256) : (UInt8.ofNat n).toNat = n := by
  rw [UInt8.toNat_ofNat']
  exact Nat.mod_eq_of_lt h

theorem ofNat_eq_of_toNat {n : Nat} {b : UInt8} (h : b.toNat = n) : UInt8.ofNat n = b := by
  rw [← h]
  exact UInt8.ofNat_toNat

/-! ## The first byte of a character -/

/-- A byte below 0x80 is a character of its own. -/
theorem first_of_lt (done : List Piece) {b : UInt8} (h : b.toNat < 0x80) :
    first done b = (.char (Char.ofNat b.toNat) :: done, none) := by
  simp only [first, UInt8.lt_iff_toNat_lt]
  rw [if_pos (by simpa using h)]

/-- A byte from 0xC2 on begins a character of two bytes. The two before it would write an ASCII
character in two. -/
theorem first_two (done : List Piece) {b : UInt8} (h : 0xC2 ≤ b.toNat) (h' : b.toNat < 0xE0) :
    first done b = (done, some ⟨b.toNat - 0xC0, [b], 1, 0x80, 0xBF⟩) := by
  simp only [first, UInt8.lt_iff_toNat_lt]
  rw [if_neg (by simp; omega), if_neg (by simp; omega), if_pos (by simpa using h')]

/-- The range of the second of three bytes. -/
def rangeOfThree (b : UInt8) : UInt8 × UInt8 :=
  (if b = 0xE0 then 0xA0 else 0x80, if b = 0xED then 0x9F else 0xBF)

/-- The second of three bytes keeps the code above U+07FF and out of the surrogates. -/
theorem rangeOfThree_iff (b b₁ : UInt8) :
    (rangeOfThree b).1 ≤ b₁ ∧ b₁ ≤ (rangeOfThree b).2 ↔
      (0x80 ≤ b₁.toNat ∧ b₁.toNat < 0xC0) ∧ (b.toNat = 0xE0 → 0xA0 ≤ b₁.toNat) ∧
        (b.toNat = 0xED → b₁.toNat < 0xA0) := by
  have h0 : b = 0xE0 ↔ b.toNat = 0xE0 := UInt8.toNat_inj.symm
  have h1 : b = 0xED ↔ b.toNat = 0xED := UInt8.toNat_inj.symm
  simp only [rangeOfThree, h0, h1, UInt8.le_iff_toNat_le]
  split <;> split <;> simp <;> omega

/-- A byte from 0xE0 on begins a character of three bytes. -/
theorem first_three (done : List Piece) {b : UInt8} (h : 0xE0 ≤ b.toNat) (h' : b.toNat < 0xF0) :
    first done b =
      (done, some ⟨b.toNat - 0xE0, [b], 2, (rangeOfThree b).1, (rangeOfThree b).2⟩) := by
  simp only [first, UInt8.lt_iff_toNat_lt, rangeOfThree]
  rw [if_neg (by simp; omega), if_neg (by simp; omega), if_neg (by simp; omega)]
  by_cases h0 : b = 0xE0
  · subst h0
    rfl
  · by_cases h1 : b = 0xED
    · subst h1
      rfl
    · rw [if_neg h0, if_neg h1, if_pos (by simpa using h'), if_neg h0, if_neg h1]

/-- The range of the second of four bytes. -/
def rangeOfFour (b : UInt8) : UInt8 × UInt8 :=
  (if b = 0xF0 then 0x90 else 0x80, if b = 0xF4 then 0x8F else 0xBF)

/-- The second of four bytes keeps the code above U+FFFF and below U+110000. -/
theorem rangeOfFour_iff (b b₁ : UInt8) :
    (rangeOfFour b).1 ≤ b₁ ∧ b₁ ≤ (rangeOfFour b).2 ↔
      (0x80 ≤ b₁.toNat ∧ b₁.toNat < 0xC0) ∧ (b.toNat = 0xF0 → 0x90 ≤ b₁.toNat) ∧
        (b.toNat = 0xF4 → b₁.toNat < 0x90) := by
  have h0 : b = 0xF0 ↔ b.toNat = 0xF0 := UInt8.toNat_inj.symm
  have h1 : b = 0xF4 ↔ b.toNat = 0xF4 := UInt8.toNat_inj.symm
  simp only [rangeOfFour, h0, h1, UInt8.le_iff_toNat_le]
  split <;> split <;> simp <;> omega

/-- A byte from 0xF0 on begins a character of four bytes, up to 0xF4. -/
theorem first_four (done : List Piece) {b : UInt8} (h : 0xF0 ≤ b.toNat) (h' : b.toNat < 0xF5) :
    first done b =
      (done, some ⟨b.toNat - 0xF0, [b], 3, (rangeOfFour b).1, (rangeOfFour b).2⟩) := by
  have hne : ∀ {n : UInt8}, b ≠ n → b.toNat ≠ n.toNat := fun hn h => hn (UInt8.toNat_inj.mp h)
  simp only [first, UInt8.lt_iff_toNat_lt, rangeOfFour]
  rw [if_neg (by simp; omega), if_neg (by simp; omega), if_neg (by simp; omega),
    if_neg (by rintro rfl; exact absurd h (by decide)),
    if_neg (by rintro rfl; exact absurd h (by decide)), if_neg (by simp; omega)]
  by_cases h0 : b = 0xF0
  · subst h0
    rfl
  · by_cases h1 : b = 0xF4
    · subst h1
      rfl
    · have := hne h1
      rw [if_neg h0, if_pos (by simp at this ⊢; omega), if_neg h0, if_neg h1]

/-- No character begins with any other byte. -/
theorem first_broken (done : List Piece) {b : UInt8} (h : 0x80 ≤ b.toNat)
    (h' : b.toNat < 0xC2 ∨ 0xF5 ≤ b.toNat) : first done b = (.broken [b] :: done, none) := by
  simp only [first, UInt8.lt_iff_toNat_lt]
  rw [if_neg (by simp; omega)]
  rcases h' with h' | h'
  · rw [if_pos (by simpa using h')]
  · rw [if_neg (by simp; omega), if_neg (by simp; omega),
      if_neg (by rintro rfl; exact absurd h' (by decide)),
      if_neg (by rintro rfl; exact absurd h' (by decide)), if_neg (by simp; omega),
      if_neg (by rintro rfl; exact absurd h' (by decide)), if_neg (by simp; omega),
      if_neg (by rintro rfl; exact absurd h' (by decide))]

/-! ## The bytes after it -/

theorem range_iff (b : UInt8) :
    (0x80 : UInt8) ≤ b ∧ b ≤ 0xBF ↔ 0x80 ≤ b.toNat ∧ b.toNat < 0xC0 := by
  simp only [UInt8.le_iff_toNat_le]
  simp
  omega

theorem next_none (done : List Piece) (b : UInt8) : next (done, none) b = first done b :=
  rfl

/-- The last byte of a character makes it complete. -/
theorem next_last (done : List Piece) {p : Begun} {b : UInt8} (h : p.low ≤ b ∧ b ≤ p.high)
    (hleft : p.left ≤ 1) :
    next (done, some p) b =
      (.char (Char.ofNat (p.bits * 64 + (b.toNat - 0x80))) :: done, none) := by
  simp only [next]
  rw [if_pos h, if_pos hleft]

/-- A character with one byte more. -/
def Begun.push (p : Begun) (b : UInt8) : Begun :=
  ⟨p.bits * 64 + (b.toNat - 0x80), b :: p.bytes, p.left - 1, 0x80, 0xBF⟩

theorem Begun.push_bits (p : Begun) (b : UInt8) :
    (p.push b).bits = p.bits * 64 + (b.toNat - 0x80) :=
  rfl

theorem Begun.push_left (p : Begun) (b : UInt8) : (p.push b).left = p.left - 1 :=
  rfl

theorem Begun.push_bytes (p : Begun) (b : UInt8) : (p.push b).bytes = b :: p.bytes :=
  rfl

theorem next_more (done : List Piece) {p : Begun} {b : UInt8} (h : p.low ≤ b ∧ b ≤ p.high)
    (hleft : ¬p.left ≤ 1) : next (done, some p) b = (done, some (p.push b)) := by
  show (if p.low ≤ b ∧ b ≤ p.high then
      if p.left ≤ 1 then (.char (Char.ofNat (p.bits * 64 + (b.toNat - 0x80))) :: done, none)
      else (done, some (p.push b))
    else first (.broken p.bytes.reverse :: done) b) = _
  rw [if_pos h, if_neg hleft]

/-- Where a byte does not continue a character, what was read of it is broken, and the byte is
looked at as a first one. -/
theorem next_broken (done : List Piece) {p : Begun} {b : UInt8} (h : ¬(p.low ≤ b ∧ b ≤ p.high)) :
    next (done, some p) b = first (.broken p.bytes.reverse :: done) b := by
  simp only [next]
  rw [if_neg h]

/-! ## Reading what was written -/

theorem foldl_next_two (done : List Piece) {b b₁ : UInt8} (hb : 0xC2 ≤ b.toNat ∧ b.toNat < 0xE0)
    (hb₁ : 0x80 ≤ b₁.toNat ∧ b₁.toNat < 0xC0) :
    [b, b₁].foldl next (done, none) =
      (.char (Char.ofNat ((b.toNat - 0xC0) * 64 + (b₁.toNat - 0x80))) :: done, none) := by
  have hfirst := first_two done hb.1 hb.2
  have hlast := next_last done (p := ⟨b.toNat - 0xC0, [b], 1, 0x80, 0xBF⟩)
    ((range_iff b₁).mpr hb₁) (Nat.le_refl 1)
  simp only [List.foldl_cons, List.foldl_nil, next_none, hfirst, hlast]

theorem foldl_next_three (done : List Piece) {b b₁ b₂ : UInt8}
    (hb : 0xE0 ≤ b.toNat ∧ b.toNat < 0xF0)
    (hb₁ : (rangeOfThree b).1 ≤ b₁ ∧ b₁ ≤ (rangeOfThree b).2)
    (hb₂ : 0x80 ≤ b₂.toNat ∧ b₂.toNat < 0xC0) :
    [b, b₁, b₂].foldl next (done, none) =
      (.char (Char.ofNat (((b.toNat - 0xE0) * 64 + (b₁.toNat - 0x80)) * 64 +
        (b₂.toNat - 0x80))) :: done, none) := by
  have hfirst := first_three done hb.1 hb.2
  have hmore := next_more done
    (p := ⟨b.toNat - 0xE0, [b], 2, (rangeOfThree b).1, (rangeOfThree b).2⟩) hb₁ (by simp)
  have hlast := next_last done
    (p := Begun.push ⟨b.toNat - 0xE0, [b], 2, (rangeOfThree b).1, (rangeOfThree b).2⟩ b₁)
    ((range_iff b₂).mpr hb₂) (Nat.le_refl 1)
  simp only [List.foldl_cons, List.foldl_nil, next_none, hfirst, hmore, hlast, Begun.push_bits]

theorem foldl_next_four (done : List Piece) {b b₁ b₂ b₃ : UInt8}
    (hb : 0xF0 ≤ b.toNat ∧ b.toNat < 0xF5)
    (hb₁ : (rangeOfFour b).1 ≤ b₁ ∧ b₁ ≤ (rangeOfFour b).2)
    (hb₂ : 0x80 ≤ b₂.toNat ∧ b₂.toNat < 0xC0) (hb₃ : 0x80 ≤ b₃.toNat ∧ b₃.toNat < 0xC0) :
    [b, b₁, b₂, b₃].foldl next (done, none) =
      (.char (Char.ofNat ((((b.toNat - 0xF0) * 64 + (b₁.toNat - 0x80)) * 64 +
        (b₂.toNat - 0x80)) * 64 + (b₃.toNat - 0x80))) :: done, none) := by
  have hfirst := first_four done hb.1 hb.2
  have hmore := next_more done
    (p := ⟨b.toNat - 0xF0, [b], 3, (rangeOfFour b).1, (rangeOfFour b).2⟩) hb₁ (by simp)
  have hmore' := next_more done
    (p := Begun.push ⟨b.toNat - 0xF0, [b], 3, (rangeOfFour b).1, (rangeOfFour b).2⟩ b₁)
    ((range_iff b₂).mpr hb₂) (by simp [Begun.push_left])
  have hlast := next_last done
    (p := (Begun.push ⟨b.toNat - 0xF0, [b], 3, (rangeOfFour b).1, (rangeOfFour b).2⟩ b₁).push b₂)
    ((range_iff b₃).mpr hb₃) (Nat.le_refl 1)
  simp only [List.foldl_cons, List.foldl_nil, next_none, hfirst, hmore, hmore', hlast,
    Begun.push_bits]

/-- A character that was written out is read as one piece, whatever stood before it. -/
theorem foldl_next_encodeChar (done : List Piece) (c : Char) :
    (String.utf8EncodeChar c).foldl next (done, none) = (.char c :: done, none) := by
  have hc : Char.ofNat c.toNat = c := Char.ofNat_toNat c
  have hvalid : c.toNat < 0xD800 ∨ 0xDFFF < c.toNat ∧ c.toNat < 0x110000 := c.valid
  rcases Nat.lt_or_ge c.toNat 0x80 with h1 | h1
  · have hb := toNat_ofNat_of_lt (n := c.toNat) (by omega)
    rw [encodeChar_one h1, List.foldl_cons, List.foldl_nil, next_none, first_of_lt _ (by omega),
      hb, hc]
  have hlast := toNat_ofNat_of_lt (n := c.toNat % 64 + 0x80) (by omega)
  rcases Nat.lt_or_ge c.toNat 0x800 with h2 | h2
  · have hb := toNat_ofNat_of_lt (n := c.toNat / 64 % 0x20 + 0xC0) (by omega)
    rw [encodeChar_two h1 h2, foldl_next_two done (by omega) (by omega), hb, hlast]
    have hval : (c.toNat / 64 % 0x20 + 0xC0 - 0xC0) * 64 + (c.toNat % 64 + 0x80 - 0x80) =
        c.toNat := by omega
    rw [hval, hc]
  have hthird := toNat_ofNat_of_lt (n := c.toNat / 64 % 64 + 0x80) (by omega)
  rcases Nat.lt_or_ge c.toNat 0x10000 with h3 | h3
  · have hb := toNat_ofNat_of_lt (n := c.toNat / 4096 % 0x10 + 0xE0) (by omega)
    rw [encodeChar_three h2 h3, foldl_next_three done (by omega)
      ((rangeOfThree_iff _ _).mpr (by omega)) (by omega), hb, hthird, hlast]
    have hval : ((c.toNat / 4096 % 0x10 + 0xE0 - 0xE0) * 64 + (c.toNat / 64 % 64 + 0x80 - 0x80)) *
        64 + (c.toNat % 64 + 0x80 - 0x80) = c.toNat := by omega
    rw [hval, hc]
  · have hb := toNat_ofNat_of_lt (n := c.toNat / 262144 % 8 + 0xF0) (by omega)
    have hsecond := toNat_ofNat_of_lt (n := c.toNat / 4096 % 64 + 0x80) (by omega)
    rw [encodeChar_four h3, foldl_next_four done (by omega)
      ((rangeOfFour_iff _ _).mpr (by omega)) (by omega) (by omega), hb, hsecond, hthird, hlast]
    have hval : (((c.toNat / 262144 % 8 + 0xF0 - 0xF0) * 64 +
        (c.toNat / 4096 % 64 + 0x80 - 0x80)) * 64 + (c.toNat / 64 % 64 + 0x80 - 0x80)) * 64 +
        (c.toNat % 64 + 0x80 - 0x80) = c.toNat := by omega
    rw [hval, hc]

/-- So is one after another. -/
theorem foldl_next_encode (cs : List Char) (done : List Piece) :
    (cs.flatMap String.utf8EncodeChar).foldl next (done, none) =
      ((cs.map Piece.char).reverse ++ done, none) := by
  induction cs generalizing done with
  | nil => rfl
  | cons c cs ih =>
    rw [List.flatMap_cons, List.foldl_append, foldl_next_encodeChar, ih]
    simp

/-- A text that was written out is cut into its characters, and nothing in it is broken. -/
theorem pieces_encode (s : String) : pieces (encode s) = s.toList.map .char := by
  rw [pieces, encode, foldl_next_encode, finish]
  simp

theorem mapM_char? (cs : List Char) : (cs.map Piece.char).mapM Piece.char? = some cs := by
  induction cs with
  | nil => rfl
  | cons c cs ih => simp [ih, Piece.char?]

/-- A text that was written out is read back as it was. -/
theorem decode?_encode (s : String) : decode? (encode s) = some s := by
  rw [decode?, pieces_encode, mapM_char?, Option.map_some, String.ofList_toList]

/-- No two texts are written out alike. -/
theorem encode_inj {s s' : String} : encode s = encode s' ↔ s = s' := by
  refine ⟨fun h => ?_, fun h => by rw [h]⟩
  have hread := decode?_encode s
  rw [h, decode?_encode] at hread
  exact (Option.some.inj hread).symm

theorem encode_eq_nil_iff {s : String} : encode s = [] ↔ s = "" :=
  @encode_inj s ""

/-! ## Bytes that are characters -/

/-- A character past U+007F is written without a byte below 0x80. -/
theorem le_of_mem_encodeChar {c : Char} (h : 0x80 ≤ c.toNat) {b : UInt8}
    (hb : b ∈ String.utf8EncodeChar c) : 0x80 ≤ b.toNat := by
  have hlast : ∀ n : Nat, 0x80 ≤ (UInt8.ofNat (n % 64 + 0x80)).toNat := fun n => by
    rw [toNat_ofNat_of_lt (by omega)]
    omega
  by_cases h₂ : c.toNat < 0x800
  · rw [encodeChar_two h h₂] at hb
    simp only [List.mem_cons, List.not_mem_nil, or_false] at hb
    rcases hb with rfl | rfl
    · rw [toNat_ofNat_of_lt (by omega)]
      omega
    · exact hlast _
  by_cases h₃ : c.toNat < 0x10000
  · rw [encodeChar_three (by omega) h₃] at hb
    simp only [List.mem_cons, List.not_mem_nil, or_false] at hb
    rcases hb with rfl | rfl | rfl
    · rw [toNat_ofNat_of_lt (by omega)]
      omega
    · exact hlast _
    · exact hlast _
  · rw [encodeChar_four (by omega)] at hb
    simp only [List.mem_cons, List.not_mem_nil, or_false] at hb
    rcases hb with rfl | rfl | rfl | rfl
    · rw [toNat_ofNat_of_lt (by omega)]
      omega
    · exact hlast _
    · exact hlast _
    · exact hlast _

/-- The byte of an ASCII character stands for nothing else. -/
theorem mem_encode_iff {s : String} {a : Char} (ha : a.toNat < 0x80) :
    UInt8.ofNat a.toNat ∈ encode s ↔ a ∈ s.toList := by
  rw [encode, List.mem_flatMap]
  constructor
  · rintro ⟨c, hc, hb⟩
    by_cases h : c.toNat < 0x80
    · rw [encodeChar_one h, List.mem_singleton, ← UInt8.toNat_inj, toNat_ofNat_of_lt (by omega),
        toNat_ofNat_of_lt (by omega)] at hb
      rwa [Char.toNat_inj.mp hb]
    · have hle := le_of_mem_encodeChar (Nat.not_lt.mp h) hb
      rw [toNat_ofNat_of_lt (by omega)] at hle
      omega
  · intro h
    refine ⟨a, h, ?_⟩
    rw [encodeChar_one ha]
    exact List.mem_singleton.mpr rfl

/-- An ASCII text takes one byte for each character. -/
theorem length_encode {s : String} (h : ∀ a ∈ s.toList, a.toNat < 0x80) :
    (encode s).length = s.length := by
  have hone : ∀ cs : List Char, (∀ a ∈ cs, a.toNat < 0x80) →
      (cs.flatMap String.utf8EncodeChar).length = cs.length := by
    intro cs hcs
    induction cs with
    | nil => rfl
    | cons c cs ih =>
      rw [List.forall_mem_cons] at hcs
      rw [List.flatMap_cons, List.length_append, encodeChar_one hcs.1, ih hcs.2,
        List.length_singleton, List.length_cons, Nat.add_comm]
  exact hone s.toList h

/-! ## Writing what was read -/

/-- Whatever bytes continue the character to its end, it is written with the bytes read. The
count is that of the bytes after the next one. -/
def Begun.Spells : Nat → Begun → Prop
  | 0, p => p.left ≤ 1 ∧ ∀ b, p.low ≤ b ∧ b ≤ p.high →
      String.utf8EncodeChar (Char.ofNat (p.bits * 64 + (b.toNat - 0x80))) =
        p.bytes.reverse ++ [b]
  | n + 1, p => ¬p.left ≤ 1 ∧ ∀ b, p.low ≤ b ∧ b ≤ p.high → (p.push b).Spells n

/-- A code below U+110000 that is no surrogate is that of a character. -/
theorem toNat_charOfNat {n : Nat} (h : n < 0xD800 ∨ 0xDFFF < n ∧ n < 0x110000) :
    (Char.ofNat n).toNat = n := by
  have hvalid : n.isValidChar := h
  rw [Char.ofNat, dif_pos hvalid]
  rfl

/-- The first of two bytes spells every character that the second can make of it. -/
theorem spells_two {b : UInt8} (h : 0xC2 ≤ b.toNat) (h' : b.toNat < 0xE0) :
    Begun.Spells 0 ⟨b.toNat - 0xC0, [b], 1, 0x80, 0xBF⟩ := by
  refine ⟨Nat.le_refl 1, fun b₁ hb₁ => ?_⟩
  have hr := (range_iff b₁).mp hb₁
  have hv := toNat_charOfNat (n := (b.toNat - 0xC0) * 64 + (b₁.toNat - 0x80)) (by omega)
  show String.utf8EncodeChar (Char.ofNat ((b.toNat - 0xC0) * 64 + (b₁.toNat - 0x80))) = [b, b₁]
  rw [encodeChar_two (by omega) (by omega), hv, ofNat_eq_of_toNat (b := b) (by omega),
    ofNat_eq_of_toNat (b := b₁) (by omega)]

/-- The first of three bytes spells every character that the others can make of it. -/
theorem spells_three {b : UInt8} (h : 0xE0 ≤ b.toNat) (h' : b.toNat < 0xF0) :
    Begun.Spells 1 ⟨b.toNat - 0xE0, [b], 2, (rangeOfThree b).1, (rangeOfThree b).2⟩ := by
  refine ⟨by simp, fun b₁ hb₁ => ⟨Nat.le_refl 1, fun b₂ hb₂ => ?_⟩⟩
  have hr := (rangeOfThree_iff b b₁).mp hb₁
  have hr' := (range_iff b₂).mp hb₂
  have hv := toNat_charOfNat (n := ((b.toNat - 0xE0) * 64 + (b₁.toNat - 0x80)) * 64 +
    (b₂.toNat - 0x80)) (by omega)
  show String.utf8EncodeChar (Char.ofNat (((b.toNat - 0xE0) * 64 + (b₁.toNat - 0x80)) * 64 +
    (b₂.toNat - 0x80))) = [b, b₁, b₂]
  rw [encodeChar_three (by omega) (by omega), hv, ofNat_eq_of_toNat (b := b) (by omega),
    ofNat_eq_of_toNat (b := b₁) (by omega), ofNat_eq_of_toNat (b := b₂) (by omega)]

/-- And so does the first of four. -/
theorem spells_four {b : UInt8} (h : 0xF0 ≤ b.toNat) (h' : b.toNat < 0xF5) :
    Begun.Spells 2 ⟨b.toNat - 0xF0, [b], 3, (rangeOfFour b).1, (rangeOfFour b).2⟩ := by
  refine ⟨by simp, fun b₁ hb₁ => ⟨by simp [Begun.push_left], fun b₂ hb₂ =>
    ⟨Nat.le_refl 1, fun b₃ hb₃ => ?_⟩⟩⟩
  have hr := (rangeOfFour_iff b b₁).mp hb₁
  have hr' := (range_iff b₂).mp hb₂
  have hr'' := (range_iff b₃).mp hb₃
  have hv := toNat_charOfNat (n := (((b.toNat - 0xF0) * 64 + (b₁.toNat - 0x80)) * 64 +
    (b₂.toNat - 0x80)) * 64 + (b₃.toNat - 0x80)) (by omega)
  show String.utf8EncodeChar (Char.ofNat ((((b.toNat - 0xF0) * 64 + (b₁.toNat - 0x80)) * 64 +
    (b₂.toNat - 0x80)) * 64 + (b₃.toNat - 0x80))) = [b, b₁, b₂, b₃]
  rw [encodeChar_four (by omega), hv, ofNat_eq_of_toNat (b := b) (by omega),
    ofNat_eq_of_toNat (b := b₁) (by omega), ofNat_eq_of_toNat (b := b₂) (by omega),
    ofNat_eq_of_toNat (b := b₃) (by omega)]

/-- The bytes of a piece. -/
def Piece.bytes : Piece → Bytes
  | .char c => String.utf8EncodeChar c
  | .broken bs => bs

/-- The bytes read so far. -/
def Scan.bytes (s : Scan) : Bytes :=
  s.1.reverse.flatMap Piece.bytes ++ (s.2.elim [] fun p => p.bytes.reverse)

/-- A character under way spells what was read of it. -/
def Scan.Sound (s : Scan) : Prop :=
  ∀ p, s.2 = some p → ∃ n, p.Spells n

/-- A first byte is kept, and if it begins a character, it spells it. -/
theorem first_sound (done : List Piece) (b : UInt8) :
    Scan.Sound (first done b) ∧ Scan.bytes (first done b) = Scan.bytes (done, none) ++ [b] := by
  rcases Nat.lt_or_ge b.toNat 0x80 with h1 | h1
  · rw [first_of_lt done h1]
    have hv := toNat_charOfNat (n := b.toNat) (by omega)
    refine ⟨by simp [Scan.Sound], ?_⟩
    simp [Scan.bytes, Piece.bytes, encodeChar_one (c := Char.ofNat b.toNat) (by omega), hv]
  rcases Nat.lt_or_ge b.toNat 0xC2 with h2 | h2
  · rw [first_broken done h1 (Or.inl h2)]
    exact ⟨by simp [Scan.Sound], by simp [Scan.bytes, Piece.bytes]⟩
  rcases Nat.lt_or_ge b.toNat 0xE0 with h3 | h3
  · rw [first_two done h2 h3]
    refine ⟨?_, by simp [Scan.bytes]⟩
    intro p hp
    exact ⟨0, Option.some.inj hp ▸ spells_two h2 h3⟩
  rcases Nat.lt_or_ge b.toNat 0xF0 with h4 | h4
  · rw [first_three done h3 h4]
    refine ⟨?_, by simp [Scan.bytes]⟩
    intro p hp
    exact ⟨1, Option.some.inj hp ▸ spells_three h3 h4⟩
  rcases Nat.lt_or_ge b.toNat 0xF5 with h5 | h5
  · rw [first_four done h4 h5]
    refine ⟨?_, by simp [Scan.bytes]⟩
    intro p hp
    exact ⟨2, Option.some.inj hp ▸ spells_four h4 h5⟩
  · rw [first_broken done h1 (Or.inr h5)]
    exact ⟨by simp [Scan.Sound], by simp [Scan.bytes, Piece.bytes]⟩

/-- A step keeps the bytes read, with the new one at their end. -/
theorem next_sound {s : Scan} (h : Scan.Sound s) (b : UInt8) :
    Scan.Sound (next s b) ∧ Scan.bytes (next s b) = Scan.bytes s ++ [b] := by
  obtain ⟨done, p⟩ := s
  cases p with
  | none => exact first_sound done b
  | some p =>
    by_cases hr : p.low ≤ b ∧ b ≤ p.high
    · obtain ⟨n, hn⟩ := h p rfl
      cases n with
      | zero =>
        rw [next_last done hr hn.1]
        refine ⟨by simp [Scan.Sound], ?_⟩
        simp [Scan.bytes, Piece.bytes, hn.2 b hr]
      | succ n =>
        rw [next_more done hr hn.1]
        refine ⟨?_, by simp [Scan.bytes, Begun.push_bytes]⟩
        intro q hq
        exact ⟨n, Option.some.inj hq ▸ hn.2 b hr⟩
    · rw [next_broken done hr]
      obtain ⟨hs, hb⟩ := first_sound (.broken p.bytes.reverse :: done) b
      exact ⟨hs, by rw [hb]; simp [Scan.bytes, Piece.bytes]⟩

/-- However many bytes are read, none of them is lost. -/
theorem foldl_next_sound (bs : Bytes) {s : Scan} (h : Scan.Sound s) :
    Scan.bytes (bs.foldl next s) = Scan.bytes s ++ bs := by
  induction bs generalizing s with
  | nil => simp
  | cons b bs ih =>
    obtain ⟨hs, hb⟩ := next_sound h b
    rw [List.foldl_cons, ih hs, hb, List.append_assoc]
    rfl

theorem flatMap_finish (s : Scan) : (finish s).flatMap Piece.bytes = Scan.bytes s := by
  obtain ⟨done, _ | p⟩ := s <;> simp [finish, Scan.bytes, Piece.bytes]

/-- The pieces of a byte string make it up. -/
theorem flatMap_pieces (bs : Bytes) : (pieces bs).flatMap Piece.bytes = bs := by
  have hsound : Scan.Sound ([], none) := by simp [Scan.Sound]
  rw [pieces, flatMap_finish, foldl_next_sound bs hsound]
  rfl

/-- Pieces none of which is broken are the characters of a text. -/
theorem eq_map_of_mapM_char? {ps : List Piece} {cs : List Char}
    (h : ps.mapM Piece.char? = some cs) : ps = cs.map .char := by
  induction ps generalizing cs with
  | nil => simpa using h.symm
  | cons p ps ih =>
    cases p with
    | broken bs => simp [Piece.char?] at h
    | char c =>
      rw [List.mapM_cons] at h
      obtain ⟨d, hd, h⟩ := Option.bind_eq_some_iff.mp h
      obtain ⟨ds, hds, h⟩ := Option.bind_eq_some_iff.mp h
      obtain rfl : c = d := Option.some.inj hd
      obtain rfl := Option.some.inj h
      rw [ih hds, List.map_cons]

/-- A byte string that is read as a text is that text written out. -/
theorem encode_of_decode? {bs : Bytes} {s : String} (h : decode? bs = some s) : encode s = bs := by
  obtain ⟨cs, hcs, rfl⟩ := Option.map_eq_some_iff.mp h
  have hbytes := flatMap_pieces bs
  rw [eq_map_of_mapM_char? hcs, List.flatMap_map] at hbytes
  rw [encode, String.toList_ofList]
  exact hbytes

end ServerLauncher.Utf8
