import Mathlib.Data.List.TakeWhile
import ServerLauncher.Web

/-!
# What a connection carries

A reader of a message works through its bytes from the front : what it leaves is a suffix of what it
was given (`Head.suffix_of_read?`), and a shorter one, so that a connection of any length is read to
its first answer (`Response.read?_eq_some_iff`) and a body in chunks to its last chunk
(`Chunks.read?_eq_some_iff`). `Response.Complete` says which bytes are the body of an answer, and
that all of them came, as many as were announced or all chunks up to the last ; where they did not,
there is no such body (`Response.body_eq_some_iff`).
-/

namespace ServerLauncher

/-! ## Heads -/

namespace Field

variable {bs rest : Bytes}

theorem suffix_of_afterLineEnd? (h : afterLineEnd? bs = some rest) : rest <:+ bs := by
  unfold afterLineEnd? at h
  split at h
  case h_1 => cases h; exact ⟨[0x0D, 0x0A], rfl⟩
  case h_2 => cases h; exact List.suffix_cons ..
  case h_3 => cases h

theorem suffix_of_read? {f : Field} (h : read? bs = some (f, rest)) : rest <:+ bs := by
  simp only [read?] at h
  split at h
  case h_1 hname hcolon =>
    obtain ⟨rest', hend, heq⟩ := Option.map_eq_some_iff.mp h
    cases heq
    refine (suffix_of_afterLineEnd? hend).trans ((List.drop_suffix ..).trans ?_)
    refine (List.dropWhile_suffix _).trans ((List.suffix_cons 0x3A _).trans ?_)
    exact hcolon ▸ List.drop_suffix ..
  case h_2 => cases h

/-- Fields are read one behind another, up to an empty line. -/
theorem suffix_of_readAll? {n : Nat} {fs : List Field} (h : readAll? n bs = some (fs, rest)) :
    rest <:+ bs := by
  fun_induction readAll? n bs generalizing fs with
  | case1 bs n rest' hend => cases h; exact suffix_of_afterLineEnd? hend
  | case2 => cases h
  | case3 bs n hend ih =>
    obtain ⟨⟨f, rest'⟩, hread, hlater⟩ := Option.bind_eq_some_iff.mp h
    obtain ⟨⟨gs, rest''⟩, hall, heq⟩ := Option.map_eq_some_iff.mp hlater
    cases heq
    exact (ih rest' hall).trans (suffix_of_read? hread)

end Field

namespace Head

variable {bs rest : Bytes}

theorem skipEmpty_suffix (bs : Bytes) : skipEmpty bs <:+ bs := by
  fun_induction skipEmpty bs with
  | case1 bs ih => exact ih.trans ⟨[0x0D, 0x0A], rfl⟩
  | case2 bs ih => exact ih.trans (List.suffix_cons ..)
  | case3 => exact List.suffix_refl _

theorem suffix_of_readVersion? {isOld : Bool} (h : readVersion? bs = some (isOld, rest)) :
    rest <:+ bs := by
  unfold readVersion? at h
  split at h
  case h_1 => cases h; exact ⟨[0x30, 0x20], rfl⟩
  case h_2 => cases h; exact ⟨[0x31, 0x20], rfl⟩
  case h_3 => cases h

theorem suffix_of_readStatus? {status : Nat} (h : readStatus? bs = some (status, rest)) :
    rest <:+ bs := by
  unfold readStatus? at h
  split at h
  case h_1 a b c bs =>
    split at h
    case h_1 =>
      split at h
      case isTrue => cases h
      case isFalse => cases h; exact ⟨[a, b, c], rfl⟩
    case h_2 => cases h
  case h_2 => cases h

theorem suffix_of_skipPhrase? (h : skipPhrase? bs = some rest) : rest <:+ bs := by
  unfold skipPhrase? at h
  split at h
  case h_1 =>
    exact (Field.suffix_of_afterLineEnd? h).trans
      ((List.dropWhile_suffix _).trans (List.suffix_cons ..))
  case h_2 => exact Field.suffix_of_afterLineEnd? h

/-- A head is not empty, and what stands behind it is a suffix of the bytes. -/
theorem suffix_of_read? {h : Head} (hread : read? bs = some (h, rest)) :
    rest <:+ bs ∧ rest.length < bs.length := by
  simp only [read?] at hread
  split at hread
  case isFalse => cases hread
  case isTrue hsign =>
    split at hread
    case h_1 => cases hread
    case h_2 isOld behind hversion =>
      split at hread
      case h_1 => cases hread
      case h_2 status behind' hstatus =>
        split at hread
        case h_1 => cases hread
        case h_2 fields rest' hfields =>
          split at hread
          case isFalse => cases hread
          case isTrue =>
            cases hread
            obtain ⟨lines, hphrase, hall⟩ := Option.bind_eq_some_iff.mp hfields
            have hdrop : rest <:+ (skipEmpty bs).drop versionSign.length :=
              ((Field.suffix_of_readAll? hall).trans (suffix_of_skipPhrase? hphrase)).trans
                ((suffix_of_readStatus? hstatus).trans (suffix_of_readVersion? hversion))
            refine ⟨hdrop.trans ((List.drop_suffix ..).trans (skipEmpty_suffix bs)), ?_⟩
            have hlength : 7 ≤ (skipEmpty bs).length :=
              (List.isPrefixOf_iff_prefix.mp hsign).length_le
            have hrest := hdrop.length_le
            have hskip := (skipEmpty_suffix bs).length_le
            have hseven : versionSign.length = 7 := by decide
            rw [List.length_drop] at hrest
            omega

end Head

/-! ## Chunks -/

namespace Chunks

variable {bs rest data : Bytes} {n room remark : Nat}

/-- From here on, `data` stands in chunks, up to the one of size zero and a proper end behind it.
What is said about the chunks needs less than `room`. -/
inductive Written : Nat → Bytes → Bytes → Prop
  | last {room remark : Nat} {bs rest : Bytes} (hsize : readSize? bs = some (0, remark, rest))
      (hroom : remark < room) (hend : isEnd rest = true) : Written room bs []
  | chunk {room remark : Nat} {bs data more later : Bytes} (hdata : data ≠ [])
      (hsize : readSize? bs = some (data.length, remark, data ++ 0x0D :: 0x0A :: more))
      (hroom : remark < room) (hlater : Written (room - remark) more later) :
      Written room bs (data ++ later)

/-- A chunk ends with a carriage return and a line feed, and with nothing else. -/
theorem afterEnd?_eq_some_iff : afterEnd? bs = some rest ↔ bs = 0x0D :: 0x0A :: rest := by
  constructor
  · intro h
    unfold afterEnd? at h
    split at h
    case h_1 => cases h; rfl
    case h_2 => cases h
  · rintro rfl
    rfl

/-- The line with a size takes some of the bytes away. -/
theorem length_lt_of_readSize? (h : readSize? bs = some (n, remark, rest)) :
    rest.length < bs.length := by
  simp only [readSize?] at h
  split at h
  case isTrue => cases h
  case isFalse =>
    split at h
    case h_1 hend =>
      cases h
      have hline := congrArg List.length (afterEnd?_eq_some_iff.mp hend)
      have hblank := (List.dropWhile_suffix Field.isBlankByte
        (l := bs.drop (bs.takeWhile fun b => (hexDigit? (charOf b)).isSome).length)).length_le
      simp only [List.length_drop, List.length_cons] at hline hblank
      omega
    case h_2 => cases h

/-- What is read as chunks stands in chunks. -/
theorem written_of_readIn? {fuel : Nat} (h : readIn? fuel room bs = some data) :
    Written room bs data := by
  induction fuel generalizing room bs data with
  | zero => cases h
  | succ fuel ih =>
    simp only [readIn?] at h
    split at h
    case h_1 => cases h
    case h_2 n remark rest hsize =>
      split at h
      case isTrue => cases h
      case isFalse hroom =>
        have hroom : remark < room := Nat.not_le.mp hroom
        split at h
        case isTrue hzero =>
          subst hzero
          split at h
          case isTrue hend => cases h; exact .last hsize hroom hend
          case isFalse => cases h
        case isFalse hpos =>
          split at h
          case isTrue => cases h
          case isFalse hlong =>
            split at h
            case h_1 => cases h
            case h_2 more hend =>
              obtain ⟨later, hlater, rfl⟩ := Option.map_eq_some_iff.mp h
              have hlength : (rest.take n).length = n := by
                rw [List.length_take] at hlong ⊢
                omega
              have hrest : rest = rest.take n ++ 0x0D :: 0x0A :: more := by
                rw [← afterEnd?_eq_some_iff.mp hend, List.take_append_drop]
              refine .chunk (fun hnil => hpos ?_) ?_ hroom (ih hlater)
              · rw [← hlength, hnil, List.length_nil]
              · rw [hlength, ← hrest, hsize]

/-- With as much fuel as there are bytes, all chunks are read. -/
theorem readIn?_of_written {fuel : Nat} (h : Written room bs data) (hfuel : bs.length ≤ fuel) :
    readIn? fuel room bs = some data := by
  induction h generalizing fuel with
  | last hsize hroom hend =>
    have hshorter := length_lt_of_readSize? hsize
    obtain ⟨fuel, rfl⟩ := Nat.exists_eq_add_of_lt (Nat.lt_of_lt_of_le hshorter hfuel)
    simp [readIn?, hsize, hroom, hend]
  | @chunk room remark bs data more later hdata hsize hroom hlater ih =>
    have hshorter := length_lt_of_readSize? hsize
    have hpos : data.length ≠ 0 := fun hzero => hdata (List.length_eq_zero_iff.mp hzero)
    cases fuel with
    | zero => omega
    | succ fuel =>
      have hmore : more.length ≤ fuel := by
        simp only [List.length_append, List.length_cons] at hshorter
        omega
      simp [readIn?, hsize, Nat.not_le.mpr hroom, hpos, afterEnd?, ih hmore]

/-- A body in chunks is read exactly where all its chunks came, and their end. -/
theorem read?_eq_some_iff : read? bs = some data ↔ Written maxRemarks bs data :=
  ⟨written_of_readIn?, fun h => readIn?_of_written h (Nat.le_refl _)⟩

end Chunks

/-! ## Answers -/

namespace Response

/-- The first of the messages that is an answer has the head `h`, and `rest` stands behind it. -/
inductive Begins : Bytes → Head → Bytes → Prop
  | answer {bs h rest} (hread : Head.read? bs = some (h, rest))
      (hanswer : isInterim h.status = false) : Begins bs h rest
  | interim {bs h rest h' rest'} (hread : Head.read? bs = some (h, rest))
      (hinterim : isInterim h.status = true) (hlater : Begins rest h' rest') : Begins bs h' rest'

variable {bs rest data : Bytes} {h : Head} {r : Response} {f : Framing} {fuel : Nat}

/-- What is read is an answer that the bytes begin with. -/
theorem begins_of_readIn? (hread : readIn? fuel bs = some r) :
    ∃ h rest, Begins bs h rest ∧ ofHead? h rest = some r := by
  induction fuel generalizing bs with
  | zero => cases hread
  | succ fuel ih =>
    rw [readIn?] at hread
    cases hhead : Head.read? bs with
    | none => simp [hhead] at hread
    | some p =>
      obtain ⟨h, rest⟩ := p
      by_cases hinterim : isInterim h.status = true
      · simp only [hhead, if_pos hinterim] at hread
        obtain ⟨h', rest', hlater, hof⟩ := ih hread
        exact ⟨h', rest', .interim hhead hinterim hlater, hof⟩
      · simp only [hhead, if_neg hinterim] at hread
        exact ⟨h, rest, .answer hhead (Bool.eq_false_iff.mpr hinterim), hread⟩

/-- With as much fuel as there are bytes, the first answer is read : every head takes some of the
bytes away. -/
theorem readIn?_of_begins (hbegins : Begins bs h rest) (hfuel : bs.length ≤ fuel) :
    readIn? fuel bs = ofHead? h rest := by
  induction hbegins generalizing fuel with
  | answer hread hanswer =>
    obtain ⟨-, hshorter⟩ := Head.suffix_of_read? hread
    obtain ⟨fuel, rfl⟩ := Nat.exists_eq_add_of_lt (Nat.lt_of_lt_of_le hshorter hfuel)
    simp [readIn?, hread, hanswer]
  | interim hread hinterim hlater ih =>
    obtain ⟨-, hshorter⟩ := Head.suffix_of_read? hread
    cases fuel with
    | zero => omega
    | succ fuel =>
      rw [readIn?, hread]
      simp only [if_pos hinterim]
      exact ih (by omega)

/-- An answer is read exactly where a connection begins with one, after any number of messages that
only announce it. -/
theorem read?_eq_some_iff :
    read? bs = some r ↔ ∃ h rest, Begins bs h rest ∧ ofHead? h rest = some r := by
  constructor
  · exact begins_of_readIn?
  · rintro ⟨h, rest, hbegins, hof⟩
    rw [read?, readIn?_of_begins hbegins (Nat.le_refl _), hof]

/-! ## Bodies -/

/-- The bytes behind a head carry `data` as a body in this framing, and all of it came. -/
inductive Framing.Carries : Framing → Bytes → Bytes → Prop
  | length {n : Nat} {data more : Bytes} (hlength : data.length = n) :
      Carries (.length n) (data ++ more) data
  | chunks {bs data : Bytes} (hwritten : Chunks.Written Chunks.maxRemarks bs data) :
      Carries .chunks bs data
  | toEnd {bs : Bytes} : Carries .toEnd bs bs

/-- Behind the head, `data` is the body and all of it came : none where the status allows none,
whatever the fields announce, and else all that they announce. -/
inductive Complete (h : Head) (rest : Bytes) : Bytes → Prop
  | bodiless (hstatus : isBodiless h.status = true) : Complete h rest []
  | framed {f : Framing} {data : Bytes} (hstatus : isBodiless h.status = false)
      (hframing : framing? h = some f) (hcarries : f.Carries rest data) : Complete h rest data

/-- A body is read exactly where the framing carries it. -/
theorem Framing.body?_eq_some_iff : f.body? rest = some data ↔ f.Carries rest data := by
  cases f with
  | chunks =>
    rw [Framing.body?, Chunks.read?_eq_some_iff]
    exact ⟨.chunks, fun h => by cases h; assumption⟩
  | toEnd =>
    rw [Framing.body?, Option.some.injEq]
    exact ⟨fun h => h ▸ .toEnd, fun h => by cases h; rfl⟩
  | length n =>
    rw [Framing.body?]
    constructor
    · intro hbody
      split at hbody
      case isTrue => cases hbody
      case isFalse hlong =>
        obtain rfl := Option.some.inj hbody
        have hcarries : (Framing.length n).Carries (rest.take n ++ rest.drop n) (rest.take n) :=
          .length (List.length_take_of_le (Nat.not_lt.mp hlong))
        rwa [List.take_append_drop] at hcarries
    · rintro ⟨hlength⟩
      rw [if_neg (by simp [hlength]), ← hlength, List.take_left']
      rfl

/-- The body of an answer is there exactly where it came in full. -/
theorem body_eq_some_iff (hof : ofHead? h rest = some r) :
    r.body = some data ↔ Complete h rest data := by
  unfold ofHead? at hof
  split at hof
  case isTrue hstatus =>
    obtain rfl := Option.some.inj hof
    constructor
    · intro hbody
      obtain rfl := Option.some.inj hbody
      exact .bodiless hstatus
    · rintro (- | ⟨hframed, -, -⟩)
      · rfl
      · rw [hstatus] at hframed; cases hframed
  case isFalse hstatus =>
    obtain ⟨f, hframing, rfl⟩ := Option.map_eq_some_iff.mp hof
    have hstatus : isBodiless h.status = false := Bool.eq_false_iff.mpr hstatus
    constructor
    · exact fun hbody => .framed hstatus hframing (Framing.body?_eq_some_iff.mp hbody)
    · rintro (hbodiless | ⟨-, hframing', hcarries⟩)
      · rw [hstatus] at hbodiless; cases hbodiless
      · obtain rfl := Option.some.inj (hframing.symm.trans hframing')
        exact Framing.body?_eq_some_iff.mpr hcarries

/-- An answer has the status of its head. -/
theorem status_of_ofHead? (hof : ofHead? h rest = some r) : r.status = h.status := by
  unfold ofHead? at hof
  split at hof
  case isTrue => obtain rfl := Option.some.inj hof; rfl
  case isFalse => obtain ⟨f, -, rfl⟩ := Option.map_eq_some_iff.mp hof; rfl

end Response

end ServerLauncher
