import ServerLauncher.Json.Record
import ServerLauncher.Proofs.Canonical

/-!
# JSON values and their text

A JSON document without blanks is the text of a `Value`. There are many texts of a string, since any
of its characters may be escaped (`Spelling`) ; an `Escaping` fixes how each character is written,
and `Value.text` is the text of a value under it. `Escaping.keeping` escapes what has to be escaped
and whatever else it is told to.

Numbers are kept as they are written (`Numeral`), so that there is no bound on them, and an object
is a list of members in which a key may occur more than once.
-/

namespace ServerLauncher.Json

/-! ## Characters -/

/-- The characters that have an escape of one letter, behind their letters. -/
def letterEscapes : List (Char × Char) :=
  [('"', '"'), ('\\', '\\'), ('/', '/'), ('b', '\x08'), ('f', '\x0c'), ('n', '\n'), ('r', '\r'),
    ('t', '\t')]

/-- Four hex digits, of either case, that make up the number `n`. -/
def IsHex4 (hs : List Char) (n : Nat) : Prop :=
  hs.length = 4 ∧ numberIn? 16 hs = some n

/-- The first half of the surrogate pair of a code above 0xFFFF. -/
def highHalf (n : Nat) : Nat :=
  0xD800 + (n - 0x10000) / 0x400

/-- The second half of it. -/
def lowHalf (n : Nat) : Nat :=
  0xDC00 + (n - 0x10000) % 0x400

/-- The ways in which a character may be written in a string. -/
inductive Spelling (c : Char) : List Char → Prop
  | plain (hcontrol : 0x20 ≤ c.toNat) (hquote : c ≠ '"') (hescape : c ≠ '\\') : Spelling c [c]
  | letter {x : Char} (h : (x, c) ∈ letterEscapes) : Spelling c ['\\', x]
  | code {hs : List Char} (h : IsHex4 hs c.toNat) : Spelling c ('\\' :: 'u' :: hs)
  | pair {hs ls : List Char} (hlarge : 0x10000 ≤ c.toNat) (hhigh : IsHex4 hs (highHalf c.toNat))
      (hlow : IsHex4 ls (lowHalf c.toNat)) :
      Spelling c ('\\' :: 'u' :: (hs ++ '\\' :: 'u' :: ls))

/-- A way to write the characters of strings. -/
structure Escaping where
  spell : Char → List Char
  spelling : ∀ c, Spelling c (spell c)

/-- The text of a string, with its quotes. -/
def Escaping.quoted (w : Escaping) (s : String) : List Char :=
  '"' :: (s.toList.flatMap w.spell ++ ['"'])

/-! ## Escaping more or less -/

/-- Four hex digits of a number. -/
def hex4 (n : Nat) : List Char :=
  [(n / 4096 % 16).digitChar, (n / 256 % 16).digitChar, (n / 16 % 16).digitChar,
    (n % 16).digitChar]

/-- A digit that is written for a number below 16 is read as this number. -/
theorem hexDigit?_digitChar {d : Nat} (h : d < 16) : hexDigit? d.digitChar = some d := by
  revert d
  decide

/-- Four hex digits are enough for a number below 2^16. -/
theorem isHex4_hex4 {n : Nat} (h : n < 0x10000) : IsHex4 (hex4 n) n := by
  have hlt : ∀ m, m % 16 < 16 := fun m => Nat.mod_lt m (by decide)
  have hvalue : ofDigits 16 [n / 4096 % 16, n / 256 % 16, n / 16 % 16, n % 16] = n := by
    simp only [ofDigits, List.foldl_cons, List.foldl_nil]
    omega
  refine ⟨rfl, ?_⟩
  simp [numberIn?, hex4, hexDigit?_digitChar, hlt, hvalue]

/-- The first half of a pair takes four hex digits, for no character is past U+10FFFF. -/
theorem highHalf_lt (c : Char) : highHalf c.toNat < 0xDC00 := by
  have hvalid : c.toNat.isValidChar := c.valid
  unfold Nat.isValidChar at hvalid
  unfold highHalf
  omega

theorem lowHalf_lt (n : Nat) : lowHalf n < 0xE000 := by
  unfold lowHalf
  omega

/-- A character by its code, or by its surrogate pair. -/
def codeEscape (c : Char) : List Char :=
  if c.toNat < 0x10000 then '\\' :: 'u' :: hex4 c.toNat
  else '\\' :: 'u' :: (hex4 (highHalf c.toNat) ++ '\\' :: 'u' :: hex4 (lowHalf c.toNat))

/-- Every character may be written by its code. -/
theorem spelling_codeEscape (c : Char) : Spelling c (codeEscape c) := by
  unfold codeEscape
  split
  case isTrue h => exact .code (isHex4_hex4 h)
  case isFalse h =>
    have hhigh := highHalf_lt c
    have hlow := lowHalf_lt c.toNat
    exact .pair (by omega) (isHex4_hex4 (by omega)) (isHex4_hex4 (by omega))

/-- The characters that are written as they are, if they may be, and else by a letter or their
code. -/
def Escaping.keeping (keep : Char → Bool) : Escaping where
  spell c :=
    if keep c && 0x20 ≤ c.toNat && c != '"' && c != '\\' then [c]
    else
      match letterEscapes.find? fun e => e.2 = c with
      | some e => ['\\', e.1]
      | none => codeEscape c
  spelling c := by
    split
    case isTrue h =>
      simp only [Bool.and_eq_true, decide_eq_true_eq, bne_iff_ne] at h
      exact .plain h.1.1.2 h.1.2 h.2
    case isFalse =>
      split
      case h_1 e he =>
        have hc : e.2 = c := by simpa using List.find?_some he
        exact .letter (hc ▸ List.mem_of_find?_eq_some he)
      case h_2 => exact spelling_codeEscape c

/-! ## Numbers -/

/-- A nonempty run of decimal digits. -/
structure Digits where
  chars : List Char
  ne_nil : chars ≠ []
  isDigit : ∀ c ∈ chars, c.isDigit = true

/-- An exponent as it is written : the case of its letter, its sign, if there is one, and its
digits. -/
structure Exponent where
  upper : Bool
  sign : Option Bool
  digits : Digits

/-- A number as it is written. The digits before the point have no spare zero. -/
structure Numeral where
  negative : Bool
  whole : Nat
  fraction : Option Digits
  exponent : Option Exponent

/-- The text of an exponent. -/
def Exponent.text (e : Exponent) : List Char :=
  (if e.upper then 'E' else 'e') ::
    ((e.sign.elim [] fun plus => [if plus then '+' else '-']) ++ e.digits.chars)

/-- The text of a number. -/
def Numeral.text (n : Numeral) : List Char :=
  (if n.negative then ['-'] else []) ++ Nat.toDigits 10 n.whole ++
    (n.fraction.elim [] fun ds => '.' :: ds.chars) ++ n.exponent.elim [] Exponent.text

/-! ## Values -/

/-- A JSON value. -/
inductive Value where
  | null
  | bool (b : Bool)
  | number (n : Numeral)
  | string (s : String)
  | list (vs : List Value)
  | object (ms : List (String × Value))

/-- A member of an object. -/
abbrev Member := String × Value

mutual

/-- The text of a value, without blanks. -/
def Value.text (w : Escaping) : Value → List Char
  | .null => "null".toList
  | .bool b => (if b then "true" else "false").toList
  | .number n => n.text
  | .string s => w.quoted s
  | .list vs => '[' :: ([','].intercalate (elementTexts w vs) ++ [']'])
  | .object ms => '\x7b' :: ([','].intercalate (memberTexts w ms) ++ ['\x7d'])

/-- The texts of the elements of a list. -/
def elementTexts (w : Escaping) : List Value → List (List Char)
  | [] => []
  | v :: vs => v.text w :: elementTexts w vs

/-- The texts of the members of an object. -/
def memberTexts (w : Escaping) : List (String × Value) → List (List Char)
  | [] => []
  | (k, v) :: ms => (w.quoted k ++ ':' :: v.text w) :: memberTexts w ms

end

/-- The document that holds a value. -/
def Value.document (w : Escaping) (v : Value) : String :=
  String.ofList (v.text w)

example : (Value.object [("é\n", .list [.number ⟨true, 10, none, none⟩, .bool true])]).document
    (Escaping.keeping fun c => c.toNat < 0x80) = "\x7b\"\\u00e9\\n\":[-10,true]\x7d" := by
  decide +kernel

/-! ## Their shape -/

/-- The elements of a list are written one by one. -/
theorem elementTexts_eq_map (w : Escaping) (vs : List Value) :
    elementTexts w vs = vs.map (Value.text w) := by
  induction vs with
  | nil => rfl
  | cons v vs ih => rw [elementTexts, ih, List.map_cons]

theorem length_elementTexts (w : Escaping) (vs : List Value) :
    (elementTexts w vs).length = vs.length := by
  rw [elementTexts_eq_map, List.length_map]

/-- The text of a member of an object. -/
def memberText (w : Escaping) (m : Member) : List Char :=
  w.quoted m.1 ++ ':' :: m.2.text w

/-- So are the members of an object. -/
theorem memberTexts_eq_map (w : Escaping) (ms : List Member) :
    memberTexts w ms = ms.map (memberText w) := by
  induction ms with
  | nil => rfl
  | cons m ms ih => rw [memberTexts, ih, List.map_cons, memberText]

theorem length_memberTexts (w : Escaping) (ms : List Member) :
    (memberTexts w ms).length = ms.length := by
  rw [memberTexts_eq_map, List.length_map]

/-- A value is a scalar, or put together from smaller values. -/
theorem Value.induct {P : Value → Prop} (null : P .null) (bool : ∀ b, P (.bool b))
    (number : ∀ n, P (.number n)) (string : ∀ s, P (.string s))
    (list : ∀ vs, (∀ v ∈ vs, P v) → P (.list vs))
    (object : ∀ ms : List Member, (∀ m ∈ ms, P m.2) → P (.object ms)) (v : Value) : P v :=
  Value.rec (motive_1 := P) (motive_2 := fun vs => ∀ v ∈ vs, P v)
    (motive_3 := fun ms => ∀ m ∈ ms, P m.2) (motive_4 := fun m => P m.2) null bool number string
    list object (by simp) (fun _ _ hv hvs => List.forall_mem_cons.mpr ⟨hv, hvs⟩) (by simp)
    (fun _ _ hm hms => List.forall_mem_cons.mpr ⟨hm, hms⟩) (fun _ _ hv => hv) v

end ServerLauncher.Json
