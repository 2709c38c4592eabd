import ServerLauncher.Proofs.Reading

/-!
# Records read from objects

A `Layout` of a schema says which part of a record each field fills (`Slot`). The object's members
are put into the parts one after the other (`Layout.put`), and the parts that come of it are known
slot by slot : each holds what the values of its own key give it, whatever else the object holds and
in whichever order (`Layout.putAll_eq_some_iff`). The reader of the schema does just that
(`Layout.reads`).
-/

namespace ServerLauncher.Json

variable {σ α β : Type} {w : Escaping} {ms : List Member} {tail : List Char}

/-! ## Slots -/

/-- The values of a key, in order. -/
def valuesOf (key : String) (ms : List Member) : List Value :=
  (ms.filter fun m => m.1 == key).map Prod.snd

theorem mem_valuesOf {key : String} {v : Value} : v ∈ valuesOf key ms ↔ (key, v) ∈ ms := by
  simp [valuesOf]

theorem valuesOf_cons_of_eq (key : String) (v : Value) (ms : List Member) :
    valuesOf key ((key, v) :: ms) = v :: valuesOf key ms := by
  simp [valuesOf]

theorem valuesOf_cons_of_ne {key : String} {m : Member} (h : key ≠ m.1) (ms : List Member) :
    valuesOf key (m :: ms) = valuesOf key ms := by
  simp [valuesOf, Ne.symm h]

theorem valuesOf_eq_nil_iff {key : String} : valuesOf key ms = [] ↔ ∀ m ∈ ms, m.1 ≠ key := by
  simp [valuesOf, List.filter_eq_nil_iff]

/-- A member that is among others of other keys has the only value of its key. -/
theorem valuesOf_of_perm {key : String} {v : Value} {others : List Member}
    (h : ms.Perm ((key, v) :: others)) (hothers : ∀ m ∈ others, m.1 ≠ key) :
    valuesOf key ms = [v] := by
  have hperm : (valuesOf key ms).Perm (valuesOf key ((key, v) :: others)) := (h.filter _).map _
  rw [valuesOf_cons_of_eq, valuesOf_eq_nil_iff.mpr hothers] at hperm
  exact List.perm_singleton.mp hperm

/-- A part of a record : the key of its values, what a value means, for the values that fit, and
where it is kept. What was put there is there. -/
structure Slot (σ : Type) where
  key : String
  Content : Type
  Fits : Value → Prop
  decode : Value → Option Content
  get : σ → Option Content
  put : Content → σ → σ
  get_put : ∀ c p, get (put c p) = some c

/-- What the values of its key make of a slot. The first one fills it, and there is no room for
another. -/
def Slot.fill (slot : Slot σ) : Option slot.Content → List Value → Option (Option slot.Content)
  | x, [] => some x
  | some _, _ :: _ => none
  | none, v :: vs => (slot.decode v).bind fun c => slot.fill (some c) vs

theorem Slot.fill_none_eq_some_iff (slot : Slot σ) {vs : List Value} {x : Option slot.Content} :
    slot.fill none vs = some x ↔
      (vs = [] ∧ x = none) ∨ ∃ v c, vs = [v] ∧ slot.decode v = some c ∧ x = some c := by
  match vs with
  | [] => simp [fill, eq_comm]
  | [v] => cases h : slot.decode v <;> simp [fill, h, eq_comm]
  | v :: u :: vs => simp [fill]

/-- The parts with a value more, if there is room for it in the slot and it can be understood. -/
def Slot.take (slot : Slot σ) (v : Value) (p : σ) : Option σ :=
  match slot.get p with
  | some _ => none
  | none => (slot.decode v).map (slot.put · p)

theorem Slot.fill_cons (slot : Slot σ) (v : Value) (vs : List Value) (p : σ) :
    slot.fill (slot.get p) (v :: vs) =
      (slot.take v p).bind fun q => slot.fill (slot.get q) vs := by
  cases hget : slot.get p with
  | some c => simp [take, hget, fill]
  | none => cases hdecode : slot.decode v <;> simp [take, hget, hdecode, fill, slot.get_put]

/-- A slot is filled by the only value of its key. -/
theorem Slot.fill_none_eq_some_some_iff (slot : Slot σ) {vs : List Value} {c : slot.Content} :
    slot.fill none vs = some (some c) ↔ ∃ v, vs = [v] ∧ slot.decode v = some c := by
  rw [fill_none_eq_some_iff]
  constructor
  · rintro (⟨-, hc⟩ | ⟨v, c', hvs, hv, hc⟩)
    · cases hc
    · cases hc
      exact ⟨v, hvs, hv⟩
  · rintro ⟨v, hvs, hv⟩
    exact .inr ⟨v, c, hvs, hv, rfl⟩

/-- The field reads the values that fit as the slot understands them, and keeps them there. -/
structure Slot.Fills (slot : Slot σ) (f : Field σ) : Prop where
  key : f.key = slot.key
  isSet : ∀ p, f.isSet p = (slot.get p).isSome
  read : ∀ (w : Escaping) (v : Value), slot.Fits v →
    ∀ p, Reads (f.read p) (v.text w) ((slot.decode v).map (slot.put · p))

/-- The field that reads its values with `r`. -/
theorem Slot.fills (slot : Slot σ) {r : Reader slot.Content}
    (h : ∀ (w : Escaping) (v : Value), slot.Fits v → Reads r (v.text w) (slot.decode v)) :
    slot.Fills ⟨slot.key, fun p => (slot.get p).isSome,
      fun p c => (r c).map fun x => (slot.put x.1 p, x.2)⟩ :=
  ⟨rfl, fun _ => rfl, fun w v hv p => (h w v hv).map (slot.put · p)⟩

/-- A slot of a string. -/
def Slot.text (key : String) (get : σ → Option String) (put : String → σ → σ)
    (get_put : ∀ s p, get (put s p) = some s) : Slot σ :=
  ⟨key, String, fun _ => True, Value.string?, get, put, get_put⟩

theorem Slot.fill_text_iff {key : String} {get : σ → Option String} {put : String → σ → σ}
    {h : ∀ s p, get (put s p) = some s} {vs : List Value} {x : String} :
    (Slot.text key get put h).fill none vs = some (some x) ↔ vs = [.string x] := by
  refine (fill_none_eq_some_some_iff (Slot.text key get put h)).trans ?_
  simp [text, Value.string?_eq_some_iff]

/-! ## Layouts -/

/-- The slots that the fields of a schema fill. They have different keys and do not get in each
other's way, are empty at first, and there is nothing in the parts of the record besides. -/
structure Layout (s : Schema σ α) where
  slots : List (Slot σ)
  fills : List.Forall₂ Slot.Fills slots s.fields
  nodup : (slots.map Slot.key).Nodup
  get_empty : ∀ slot ∈ slots, slot.get s.empty = none
  get_put_of_ne : ∀ slot ∈ slots, ∀ slot' ∈ slots, slot'.key ≠ slot.key →
    ∀ c p, slot'.get (slot.put c p) = slot'.get p
  ext : ∀ p q, (∀ slot ∈ slots, slot.get p = slot.get q) → p = q

namespace Layout

variable {s : Schema σ α} {l : Layout s}

/-- The slot of a key, if it has one. -/
def slot? (l : Layout s) (key : String) : Option (Slot σ) :=
  l.slots.find? fun slot => slot.key == key

/-- The parts with one member more. One of an unknown key changes nothing. -/
def put (l : Layout s) (p : σ) (m : Member) : Option σ :=
  match l.slot? m.1 with
  | none => some p
  | some slot => slot.take m.2 p

/-- The parts with further members. -/
def putAll (l : Layout s) : σ → List Member → Option σ
  | p, [] => some p
  | p, m :: ms => (l.put p m).bind fun p => l.putAll p ms

theorem slot?_eq_none_iff {key : String} :
    l.slot? key = none ↔ ∀ slot ∈ l.slots, slot.key ≠ key := by
  simp [slot?]

theorem mem_of_slot? {key : String} {slot : Slot σ} (h : l.slot? key = some slot) :
    slot ∈ l.slots ∧ slot.key = key :=
  ⟨List.mem_of_find?_eq_some h, by simpa using List.find?_some h⟩

/-- The slot of a key is the only one of that key. -/
theorem key_ne_of_slot? {key : String} {slot slot' : Slot σ} (h : l.slot? key = some slot)
    (hmem : slot' ∈ l.slots) (hne : slot' ≠ slot) : slot'.key ≠ slot.key := by
  intro hkey
  exact hne (List.inj_on_of_nodup_map l.nodup hmem (mem_of_slot? h).1 hkey)

/-- The other slots stay as they are. -/
theorem get_of_take (l : Layout s) {slot slot' : Slot σ} {v : Value} {p q : σ}
    (h : slot.take v p = some q) (hmem : slot ∈ l.slots) (hmem' : slot' ∈ l.slots)
    (hne : slot'.key ≠ slot.key) : slot'.get q = slot'.get p := by
  unfold Slot.take at h
  split at h
  case h_1 => cases h
  case h_2 =>
    obtain ⟨c, -, rfl⟩ := Option.map_eq_some_iff.mp h
    exact l.get_put_of_ne slot hmem slot' hmem' hne c p

/-- Each slot holds in the end what the values of its key make of it. -/
theorem putAll_eq_some_iff {p q : σ} : l.putAll p ms = some q ↔
    ∀ slot ∈ l.slots, slot.fill (slot.get p) (valuesOf slot.key ms) = some (slot.get q) := by
  induction ms generalizing p with
  | nil =>
    have hext : p = q ↔ ∀ slot ∈ l.slots, slot.get p = slot.get q :=
      ⟨fun h slot _ => by rw [h], l.ext p q⟩
    simpa [putAll, valuesOf, Slot.fill] using hext
  | cons m ms ih =>
    obtain ⟨key, v⟩ := m
    cases hslot : l.slot? key with
    | none =>
      have hkeys : ∀ slot ∈ l.slots, valuesOf slot.key ((key, v) :: ms) = valuesOf slot.key ms :=
        fun slot hmem => valuesOf_cons_of_ne (slot?_eq_none_iff.mp hslot slot hmem) ms
      simp only [putAll, put, hslot, Option.bind_some, ih]
      exact forall₂_congr fun slot hmem => by rw [hkeys slot hmem]
    | some slot =>
      obtain ⟨hmem, rfl⟩ := mem_of_slot? hslot
      have hfill := slot.fill_cons v (valuesOf slot.key ms) p
      rw [← valuesOf_cons_of_eq] at hfill
      simp only [putAll, put, hslot]
      cases htake : slot.take v p with
      | none =>
        -- this slot would have to take the value, and cannot
        rw [htake, Option.bind_none] at hfill
        refine ⟨nofun, fun h => ?_⟩
        rw [h slot hmem] at hfill
        cases hfill
      | some r =>
        rw [htake, Option.bind_some] at hfill
        rw [Option.bind_some, ih]
        refine forall₂_congr fun slot' hmem' => ?_
        by_cases hsame : slot' = slot
        · rw [hsame, hfill]
        · have hne := key_ne_of_slot? hslot hmem' hsame
          rw [l.get_of_take htake hmem hmem' hne, valuesOf_cons_of_ne hne]

/-- What an object means. -/
def decodeObject (l : Layout s) (ms : List Member) : Option α :=
  (l.putAll s.empty ms).bind fun p => (s.ofObject p).toOption

/-- What a value means that is no list. -/
def decode (l : Layout s) : Value → Option α
  | .object ms => l.decodeObject ms
  | _ => none

/-- The values of known keys fit their slots. -/
def FitsObject (l : Layout s) (ms : List Member) : Prop :=
  ∀ slot ∈ l.slots, ∀ v, (slot.key, v) ∈ ms → slot.Fits v

/-- The value is no list, and the values of known keys fit, if it is an object. -/
def Fits (l : Layout s) : Value → Prop
  | .list _ => False
  | .object ms => l.FitsObject ms
  | _ => True

/-- An object means a record if its parts make one up. -/
theorem decodeObject_eq_some_iff {a : α} : l.decodeObject ms = some a ↔ ∃ p, s.ofObject p = .ok a ∧
    ∀ slot ∈ l.slots, slot.fill none (valuesOf slot.key ms) = some (slot.get p) := by
  have hempty : ∀ p, (∀ slot ∈ l.slots,
      slot.fill (slot.get s.empty) (valuesOf slot.key ms) = some (slot.get p)) ↔
      ∀ slot ∈ l.slots, slot.fill none (valuesOf slot.key ms) = some (slot.get p) :=
    fun p => forall₂_congr fun slot hmem => by rw [l.get_empty slot hmem]
  have hok : ∀ p, (s.ofObject p).toOption = some a ↔ s.ofObject p = .ok a := fun p => by
    cases s.ofObject p <;> simp [Except.toOption]
  simp only [decodeObject, Option.bind_eq_some_iff, putAll_eq_some_iff, hempty, hok, and_comm]

/-! ## Reading members -/

theorem find_field {slots : List (Slot σ)} {fields : List (Field σ)}
    (h : List.Forall₂ Slot.Fills slots fields) (key : String) :
    match slots.find? fun slot => slot.key == key with
    | none => fields.find? (fun f => f.key == key) = none
    | some slot => ∃ f, fields.find? (fun f => f.key == key) = some f ∧ slot.Fills f := by
  induction h with
  | nil => rfl
  | @cons slot f slots fields hfills _ ih =>
    by_cases hkey : slot.key = key
    · simp [hkey, hfills.key, hfills]
    · simpa [hkey, hfills.key] using ih

theorem nextKey_closing (isFirst : Bool) (cs : List Char) (o : Nat) :
    nextKey isFirst ⟨'\x7d' :: cs, o⟩ = .ok (none, ⟨'\x7d' :: cs, o⟩) := by
  simp [nextKey, Cursor.skipBlanks_cons, Cursor.isBlank]

/-- In front of a member the next key is that of it. -/
theorem nextKey_memberText (w : Escaping) (m : Member) (isFirst : Bool) (cs : List Char)
    (o : Nat) : ∃ o',
    nextKey isFirst ⟨(if isFirst then memberText w m else ',' :: memberText w m) ++ cs, o⟩ =
      .ok (some m.1, ⟨':' :: (m.2.text w ++ cs), o'⟩) := by
  obtain ⟨o', ho⟩ := readString_quoted w m.1 (':' :: (m.2.text w ++ cs))
    ((if isFirst then o else o + ','.utf8Size) + '"'.utf8Size)
  have hcomma : Cursor.isBlank ',' = false := rfl
  have hquote : Cursor.isBlank '"' = false := rfl
  refine ⟨o', ?_⟩
  cases isFirst with
  | true =>
    simp only [if_true] at ho
    simp [nextKey, memberText, Escaping.quoted, Cursor.skipBlanks_cons hquote, ho, Except.map]
  | false =>
    simp only [Bool.false_eq_true, if_false] at ho
    simp [nextKey, memberText, Escaping.quoted, Cursor.skipBlanks_cons hcomma,
      Cursor.skipBlanks_cons hquote, ho, Except.map]

theorem takeColon_cons (cs : List Char) (o : Nat) :
    takeColon ⟨':' :: cs, o⟩ = .ok ⟨cs, o + ':'.utf8Size⟩ := by
  simp [takeColon, Cursor.skipBlanks_cons, Cursor.isBlank]

/-- A member is put into the parts, if it can be, and the reading goes on behind it. -/
theorem gives_readMembers_cons {m : Member} (hfits : l.FitsObject [m]) (isFirst : Bool) (p : σ)
    (z : Char) (fuel : List Char) {cs : List Char} (hcs : IsEnd cs) {y : σ → Option σ}
    (hrest : ∀ q o, Gives (s.readMembers fuel false q ⟨cs, o⟩) (y q) tail) (o : Nat) :
    Gives (s.readMembers (z :: fuel) isFirst p
        ⟨(if isFirst then memberText w m else ',' :: memberText w m) ++ cs, o⟩)
      ((l.put p m).bind y) tail := by
  obtain ⟨o₁, hkey⟩ := nextKey_memberText w m isFirst cs o
  have hfield := find_field l.fills m.1
  simp only [Schema.readMembers, hkey, takeColon_cons]
  cases hslot : l.slot? m.1 with
  | none =>
    obtain ⟨o₂, hskip⟩ := skipValue_text w m.2 hcs (o₁ + ':'.utf8Size)
    rw [slot?] at hslot
    simp only [hslot] at hfield
    simp only [put, slot?, hslot, hfield, hskip]
    exact hrest p o₂
  | some slot =>
    obtain ⟨hmem, hsame⟩ := mem_of_slot? hslot
    rw [slot?] at hslot
    simp only [hslot] at hfield
    obtain ⟨f, hf, hfills⟩ := hfield
    simp only [put, slot?, hslot, hf, hfills.isSet, Slot.take]
    cases slot.get p with
    | some c => exact ⟨_, rfl⟩
    | none =>
      have hread := hfills.read w m.2 (hfits slot hmem m.2 (by simp [hsame])) p cs
        (o₁ + ':'.utf8Size) hcs
      exact Gives.bind hread hrest

/-- The members that are left are put into the parts, by induction on the fuel : it has a character
for each of them, and one for the closing bracket. -/
theorem gives_readMembers (hfits : l.FitsObject ms) (isFirst : Bool) (p : σ) {fuel : List Char}
    (hfuel : ms.length < fuel.length) (tail : List Char) (o : Nat) :
    Gives (s.readMembers fuel isFirst p
        ⟨itemsText isFirst (memberTexts w ms) ++ '\x7d' :: tail, o⟩)
      (l.putAll p ms) ('\x7d' :: tail) := by
  induction fuel generalizing ms isFirst p o with
  | nil => exact absurd hfuel (Nat.not_lt_zero _)
  | cons x fuel ih =>
    cases ms with
    | nil => exact ⟨o, by simp [Schema.readMembers, memberTexts, itemsText, nextKey_closing]⟩
    | cons m ms =>
      have htexts : memberTexts w (m :: ms) = memberText w m :: memberTexts w ms := rfl
      have hm : l.FitsObject [m] := fun slot hmem v hv =>
        hfits slot hmem v (List.mem_cons.mpr (.inl (List.mem_singleton.mp hv)))
      have hms : l.FitsObject ms :=
        fun slot hmem v hv => hfits slot hmem v (List.mem_cons_of_mem m hv)
      rw [htexts, itemsText, List.append_assoc]
      exact gives_readMembers_cons hm isFirst p x fuel
        (isEnd_itemsText .object (memberTexts w ms) tail)
        (fun q o' => ih hms false q (Nat.lt_of_succ_lt_succ hfuel) o') o

/-! ## Reading records -/

theorem reads_object (hfits : l.FitsObject ms) :
    Reads s.readObject (itemsText true (memberTexts w ms) ++ ['\x7d']) (l.decodeObject ms) := by
  intro tail o _
  have hfuel : ms.length <
      (' ' :: (itemsText true (memberTexts w ms) ++ '\x7d' :: tail)).length := by
    have hitems := length_le_itemsText true (memberTexts w ms)
    rw [length_memberTexts, Bool.toNat_true] at hitems
    simp only [List.length_cons, List.length_append]
    omega
  have hread := gives_readMembers (w := w) hfits true s.empty hfuel tail o
  simp only [List.append_assoc, List.singleton_append, decodeObject, Schema.readObject]
  refine Gives.bind hread fun p o' => ?_
  cases s.ofObject p with
  | error r => exact ⟨_, rfl⟩
  | ok a => exact ⟨_, rfl⟩

theorem read_text (s : Schema σ α) (w : Escaping) (v : Value) (tail : List Char) (o : Nat) :
    s.read ⟨v.text w ++ tail, o⟩ =
      if v.opener = some '\x7b' then s.readObject (Cursor.mk (v.text w ++ tail) o).advance
      else if v.opener = some '[' then s.readSequence (Cursor.mk (v.text w ++ tail) o).advance
      else wrongKind s.name ⟨v.text w ++ tail, o⟩ := by
  have hobject := startsWith_text w v tail o (y := '\x7b') (by decide) rfl
  have hlist := startsWith_text w v tail o (y := '[') (by decide) rfl
  simp only [Schema.read, skipBlanks_text, hobject, hlist, decide_eq_true_eq]

theorem reads_scalar {v : Value} (hobject : v.opener ≠ some '\x7b') (hlist : v.opener ≠ some '[') :
    Reads s.read (v.text w) none := by
  intro tail o _
  rw [read_text, if_neg hobject, if_neg hlist]
  exact gives_wrongKind _ _ tail

/-- A value that is no list is read as it is meant. -/
theorem reads {v : Value} (hfits : l.Fits v) : Reads s.read (v.text w) (l.decode v) := by
  cases v with
  | list vs => exact absurd hfits id
  | object ms =>
    intro tail o htail
    have hread := reads_object (w := w) hfits tail (o + '\x7b'.utf8Size) htail
    rw [read_text]
    simpa [Value.opener, Value.text, itemsText_true, decode] using hread
  | bool b => exact reads_scalar (by cases b <;> decide) (by cases b <;> decide)
  | _ => exact reads_scalar (by simp [Value.opener]) (by simp [Value.opener])

end Layout

end ServerLauncher.Json
