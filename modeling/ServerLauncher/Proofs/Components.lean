import ServerLauncher.Proofs.Listing

/-!
# New directories are empty

A path and the path that its components spell lead to the same directory (`find_ofComponents`), and
where the components lead down only, all that a path leads to lies in the directory that the
components before the last lead to (`exists_names_of_find`). So if a directory is there after it was
made that was not there before, it is empty (`names_of_createDirs`). With `..` among the components
this is not so : a directory that is made on the way can open the way to one that was there.
-/

namespace ServerLauncher

/-! ## Steps that stay -/

/-- A step that leads somewhere else. -/
def PathStep.moves (s : PathStep) : Bool :=
  decide (s ≠ .stay)

namespace FileTree

variable {t : FileTree} {followLast : Bool} {k : Nat} {d e : Place} {x : Spot}
  {front ss ss' : List PathStep}

theorem leads_append_of_stay (hfront : ∀ s ∈ front, ¬s.moves = true)
    (h : t.Leads followLast k d ss x) : t.Leads followLast k d (front ++ ss) x := by
  induction front with
  | nil => exact h
  | cons s front ih =>
    obtain rfl : s = .stay := by simpa [PathStep.moves] using hfront s List.mem_cons_self
    exact .stay (ih fun s hs => hfront s (List.mem_cons_of_mem _ hs))

/-- Steps that stay make no difference for a walk to a directory. -/
theorem Leads.of_filter (h : t.Leads true k d ss (.taken e .dir))
    (hsame : ss'.filter PathStep.moves = ss.filter PathStep.moves) :
    t.Leads true k d ss' (.taken e .dir) := by
  generalize hx : Spot.taken e .dir = x at h
  induction h generalizing ss' with
  | nil =>
    obtain ⟨rfl, -⟩ := Spot.taken.inj hx
    have hstay := List.filter_eq_nil_iff.mp (hsame.trans List.filter_nil)
    simpa using leads_append_of_stay hstay .nil
  | stay _ ih => exact ih hsame hx
  | up _ ih =>
    obtain ⟨front, rest, rfl, hfront, -, hrest⟩ := List.filter_eq_cons_iff.mp hsame
    exact leads_append_of_stay hfront (.up (ih hrest hx))
  | free => cases hx
  | dir hn hat _ ih =>
    obtain ⟨front, rest, rfl, hfront, -, hrest⟩ := List.filter_eq_cons_iff.mp hsame
    exact leads_append_of_stay hfront (.dir hn hat (ih hrest hx))
  | file => cases (Spot.taken.inj hx).2
  | link _ hlast => cases hlast
  | follow hn _ hat hts _ ih =>
    obtain ⟨front, rest, rfl, hfront, -, hrest⟩ := List.filter_eq_cons_iff.mp hsame
    refine leads_append_of_stay hfront (.follow hn (Or.inr rfl) hat hts (ih ?_ hx))
    rw [List.filter_append, List.filter_append, hrest]

end FileTree

/-! ## The stretches of a path -/

theorem not_mem_of_mem_splitOn {a : UInt8} {xs : Bytes} : ∀ s ∈ xs.splitOn a, a ∉ s := by
  induction xs with
  | nil => simp
  | cons x xs ih =>
    rw [List.splitOn_cons_eq_if_modifyHead]
    split
    case isTrue => simpa using ih
    case isFalse hx =>
      cases hsplit : xs.splitOn a with
      | nil => simp
      | cons s ss =>
        rw [hsplit] at ih
        have hne : ¬a = x := fun h => hx (by simp [h])
        simpa [hne] using ih

namespace Path

/-- A stretch between slashes that counts as a component, if it is not the first. -/
def counts (s : Bytes) : Bool :=
  !s.isEmpty && s != [dot]

/-- The stretches between the slashes of a path that is put together from components. -/
def stretches (absolute : Bool) (cs : List Bytes) : List Bytes :=
  (if absolute then [[]] else []) ++ cs

variable {p : Path} {absolute : Bool} {cs : List Bytes} {c : Bytes} {ss : List PathStep}

theorem ofComponents_eq (hcs : cs ≠ []) :
    ofComponents absolute cs = ⟨[slash].intercalate (stretches absolute cs)⟩ := by
  obtain ⟨c, cs, rfl⟩ := List.exists_cons_of_ne_nil hcs
  cases absolute <;> simp [ofComponents, stretches, List.intercalate_cons_cons]

/-- The first stretch tells whether the path is absolute, and of the others those that count are
components. -/
theorem exists_stretches (hp : p.bytes ≠ []) : ∃ s ss, p.bytes.splitOn slash = s :: ss ∧
    stretches p.isAbsolute p.components = s :: ss.filter counts ∧
    p.components = (if s.isEmpty then [] else [s]) ++ ss.filter counts := by
  obtain ⟨b, bs, hbs⟩ := List.exists_cons_of_ne_nil hp
  obtain ⟨s, ss, hsplit⟩ := List.exists_cons_of_ne_nil (List.splitOn_ne_nil slash p.bytes)
  have hcomponents : p.components = (if s.isEmpty then [] else [s]) ++ ss.filter counts := by
    rw [components, hsplit]
    rfl
  refine ⟨s, ss, hsplit, ?_, hcomponents⟩
  rw [hbs, List.splitOn_cons_eq_if_modifyHead] at hsplit
  by_cases hb : b = slash
  · simp only [hb, beq_self_eq_true, if_true, List.cons.injEq] at hsplit
    obtain ⟨rfl, -⟩ := hsplit
    simp [stretches, hcomponents, isAbsolute, hbs, hb]
  · obtain ⟨s', ss', hsplit'⟩ := List.exists_cons_of_ne_nil (List.splitOn_ne_nil slash bs)
    have hs : b :: s' = s ∧ ss' = ss := by simpa [hb, hsplit'] using hsplit
    obtain ⟨rfl, -⟩ := hs
    simp [stretches, hcomponents, isAbsolute, hbs, hb]

/-- The components that do not count are steps that stay. -/
theorem mapM_filter_counts : ∀ {as : List Bytes} {ss : List PathStep},
    as.mapM PathStep.ofBytes? = some ss →
    ∃ ss', (as.filter counts).mapM PathStep.ofBytes? = some ss' ∧
      ss'.filter PathStep.moves = ss.filter PathStep.moves
  | [], ss, h => ⟨[], rfl, by simp at h; simp [h]⟩
  | a :: as, ss, h => by
    rw [List.mapM_cons] at h
    cases hstep : PathStep.ofBytes? a with
    | none => simp [hstep] at h
    | some s =>
      cases hrest : as.mapM PathStep.ofBytes? with
      | none => simp [hstep, hrest] at h
      | some rest =>
        obtain rfl : s :: rest = ss := by simpa [hstep, hrest] using h
        obtain ⟨rest', hrest', hsame⟩ := mapM_filter_counts hrest
        by_cases ha : counts a = true
        · refine ⟨s :: rest', ?_, by simp [List.filter_cons, hsame]⟩
          simp [ha, List.mapM_cons, hstep, hrest']
        · refine ⟨rest', by simpa [List.filter_cons, ha] using hrest', ?_⟩
          have hstay : s = .stay := by
            have hor : a = [] ∨ a = [dot] := by
              simp [counts] at ha
              tauto
            rw [PathStep.ofBytes?, if_pos hor] at hstep
            exact (Option.some.inj hstep).symm
          simp [hstay, PathStep.moves, hsame]

theorem length_intercalate (s : Bytes) (ss : List Bytes) :
    ([slash].intercalate (s :: ss)).length = s.length + (ss.flatten.length + ss.length) := by
  induction ss generalizing s with
  | nil => simp
  | cons s' ss ih =>
    rw [List.intercalate_cons_cons, List.length_append, List.length_append, ih]
    simp
    omega

theorem length_intercalate_filter_le (s : Bytes) (ss : List Bytes) :
    ([slash].intercalate (s :: ss.filter counts)).length ≤
      ([slash].intercalate (s :: ss)).length := by
  rw [length_intercalate, length_intercalate]
  refine Nat.add_le_add_left ?_ s.length
  induction ss with
  | nil => exact Nat.le_refl _
  | cons s' ss ih =>
    rw [List.filter_cons]
    split
    case isTrue =>
      simp only [List.flatten_cons, List.length_append, List.length_cons]
      omega
    case isFalse =>
      simp only [List.flatten_cons, List.length_append, List.length_cons]
      omega

theorem length_intercalate_append_le (as bs : List Bytes) :
    ([slash].intercalate as).length ≤ ([slash].intercalate (as ++ bs)).length := by
  cases as with
  | nil => exact Nat.zero_le _
  | cons a as =>
    rw [List.cons_append, length_intercalate, length_intercalate, List.flatten_append,
      List.length_append, List.length_append]
    omega

theorem mem_components (h : c ∈ p.components) : c ≠ [] ∧ slash ∉ c := by
  by_cases hp : p.bytes = []
  · simp [components, hp] at h
  obtain ⟨s, ss, hsplit, -, hcomponents⟩ := exists_stretches hp
  have hslash : ∀ s ∈ p.bytes.splitOn slash, slash ∉ s := not_mem_of_mem_splitOn
  rw [hsplit] at hslash
  rw [hcomponents, List.mem_append] at h
  rcases h with h | h
  · split at h
    case isTrue => simp at h
    case isFalse hs =>
      obtain rfl := List.mem_singleton.mp h
      exact ⟨by simpa using hs, hslash c List.mem_cons_self⟩
  · obtain ⟨hmem, hcounts⟩ := List.mem_filter.mp h
    refine ⟨?_, hslash c (List.mem_cons_of_mem s hmem)⟩
    rintro rfl
    simp [counts] at hcounts

theorem isAbsolute_ofComponents (hcs : cs ≠ []) (h : ∀ c ∈ cs, c ≠ [] ∧ slash ∉ c) :
    (ofComponents absolute cs).isAbsolute = absolute := by
  rw [ofComponents_eq hcs]
  obtain ⟨c, cs, rfl⟩ := List.exists_cons_of_ne_nil hcs
  cases absolute with
  | true => simp [isAbsolute, stretches, List.intercalate_cons_cons]
  | false =>
    obtain ⟨hne, hslash⟩ := h c List.mem_cons_self
    obtain ⟨b, bs, rfl⟩ := List.exists_cons_of_ne_nil hne
    have hb : b ≠ slash := fun hb => hslash (by simp [hb])
    cases cs <;> simp [isAbsolute, stretches, List.intercalate_cons_cons, hb]

theorem steps_ofComponents (hcs : cs ≠ []) (h : ∀ c ∈ cs, c ≠ [] ∧ slash ∉ c) :
    (ofComponents absolute cs).steps = .ok ss ↔
      (stretches absolute cs).mapM PathStep.ofBytes? = some ss ∧
        ([slash].intercalate (stretches absolute cs)).length ≤ maxPathBytes := by
  have hslash : ∀ s ∈ stretches absolute cs, slash ∉ s := by
    intro s hs
    rcases List.mem_append.mp hs with hs | hs
    · cases absolute <;> simp at hs
      simp [hs]
    · exact (h s hs).2
  have hne : stretches absolute cs ≠ [] := by simp [stretches, hcs]
  have hbytes : [slash].intercalate (stretches absolute cs) ≠ [] := by
    intro hnil
    have hsplit := List.splitOn_intercalate slash hslash hne
    rw [hnil, List.splitOn_nil] at hsplit
    obtain ⟨c, cs, rfl⟩ := List.exists_cons_of_ne_nil hcs
    cases absolute with
    | true => simp [stretches] at hsplit
    | false =>
      have hnil : [[]] = c :: cs := hsplit
      exact (h c List.mem_cons_self).1 (List.cons.inj hnil).1.symm
  rw [steps_eq_ok_iff, ofComponents_eq hcs, List.splitOn_intercalate slash hslash hne]
  simp [hbytes]

end Path

/-- Components that lead down only, except that the first may be `.` or `..`. -/
structure LeadDown (cs : List Bytes) : Prop where
  stretch : ∀ c ∈ cs, c ≠ [] ∧ slash ∉ c
  down : ∀ c ∈ cs.tail, c ≠ [dot] ∧ c ≠ [dot, dot]

namespace LeadDown

variable {cs : List Bytes} {c : Bytes}

theorem front (h : LeadDown (cs ++ [c])) : LeadDown cs := by
  refine ⟨fun c' hc' => h.stretch c' (List.mem_append_left _ hc'), fun c' hc' => ?_⟩
  have hcs : cs ≠ [] := by
    rintro rfl
    simp at hc'
  refine h.down c' ?_
  rw [List.tail_append_of_ne_nil hcs]
  exact List.mem_append_left _ hc'

theorem last (h : LeadDown (cs ++ [c])) (hcs : cs ≠ []) : c ≠ [dot] ∧ c ≠ [dot, dot] := by
  refine h.down c ?_
  rw [List.tail_append_of_ne_nil hcs]
  simp

end LeadDown

theorem leadDown_components {p : Path} (hup : [dot, dot] ∉ p.components) :
    LeadDown p.components := by
  refine ⟨fun c hc => Path.mem_components hc, fun c hc => ⟨?_, ?_⟩⟩
  · by_cases hp : p.bytes = []
    · simp [Path.components, hp] at hc
    · obtain ⟨s, ss, -, -, hcomponents⟩ := Path.exists_stretches hp
      have hmem : c ∈ ss.filter Path.counts := by
        rw [hcomponents] at hc
        split at hc
        case isTrue => exact List.mem_of_mem_tail hc
        case isFalse => exact hc
      rintro rfl
      simp [Path.counts] at hmem
  · rintro rfl
    exact hup (List.mem_of_mem_tail hc)

namespace FileTree

variable {t : FileTree} {p : Path} {d e : Place} {absolute : Bool} {cs : List Bytes} {c : Bytes}

/-! ## Directories and the components of their paths -/

/-- A path to a directory and the path that its components spell lead to the same place. -/
theorem find_ofComponents (h : t.find p = .ok (d, .dir)) (hcs : p.components ≠ []) :
    t.find (Path.ofComponents p.isAbsolute p.components) = .ok (d, .dir) := by
  obtain ⟨ss, hss, hl⟩ := walk_eq_ok_iff.mp (find_eq_ok_iff.mp h)
  obtain ⟨hsteps, hnil, hlong⟩ := Path.steps_eq_ok_iff.mp hss
  obtain ⟨s, as, hsplit, hstretches, -⟩ := Path.exists_stretches hnil
  have hmem : ∀ c ∈ p.components, c ≠ [] ∧ slash ∉ c := fun c hc => Path.mem_components hc
  rw [hsplit, List.mapM_cons] at hsteps
  cases hs : PathStep.ofBytes? s with
  | none => simp [hs] at hsteps
  | some s' =>
    cases has : as.mapM PathStep.ofBytes? with
    | none => simp [hs, has] at hsteps
    | some rest =>
      obtain rfl : s' :: rest = ss := by simpa [hs, has] using hsteps
      obtain ⟨rest', hrest', hsame⟩ := Path.mapM_filter_counts has
      refine find_eq_ok_iff.mpr (walk_eq_ok_iff.mpr ⟨s' :: rest', ?_, ?_⟩)
      · rw [Path.steps_ofComponents hcs hmem, hstretches]
        refine ⟨by simp [List.mapM_cons, hs, hrest'], ?_⟩
        have hjoined : [slash].intercalate (p.bytes.splitOn slash) = p.bytes :=
          List.intercalate_splitOn slash
        rw [← hjoined, hsplit] at hlong
        exact Nat.le_trans (Path.length_intercalate_filter_le s as) hlong
      · rw [startOf, Path.isAbsolute_ofComponents hcs hmem]
        exact hl.of_filter (by simp [List.filter_cons, hsame])

/-- What a path leads to lies in the directory that the components before the last lead to. -/
theorem exists_names_of_find {node : Node} (hcs : cs ≠ [])
    (hmem : ∀ c' ∈ cs ++ [c], c' ≠ [] ∧ slash ∉ c') (hdot : c ≠ [dot]) (hup : c ≠ [dot, dot])
    (h : t.find (Path.ofComponents absolute (cs ++ [c])) = .ok (d, node)) :
    ∃ e n, t.find (Path.ofComponents absolute cs) = .ok (e, .dir) ∧ n ∈ t.names e := by
  obtain ⟨ss, hss, hl⟩ := walk_eq_ok_iff.mp (find_eq_ok_iff.mp h)
  have hmem' : ∀ c' ∈ cs, c' ≠ [] ∧ slash ∉ c' := fun c' hc' => hmem c' (List.mem_append_left _ hc')
  obtain ⟨hsteps, hlong⟩ := (Path.steps_ofComponents (by simp) hmem).mp hss
  have hstretches : Path.stretches absolute (cs ++ [c]) = Path.stretches absolute cs ++ [c] :=
    (List.append_assoc ..).symm
  rw [hstretches, List.mapM_append] at hsteps
  cases hfront : (Path.stretches absolute cs).mapM PathStep.ofBytes? with
  | none => simp [hfront] at hsteps
  | some front =>
    cases hlast : PathStep.ofBytes? c with
    | none => simp [hfront, hlast] at hsteps
    | some s =>
      obtain rfl : front ++ [s] = ss := by simpa [hfront, hlast] using hsteps
      have hfront' : (Path.ofComponents absolute cs).steps = .ok front := by
        rw [Path.steps_ofComponents hcs hmem']
        rw [hstretches] at hlong
        exact ⟨hfront, Nat.le_trans (Path.length_intercalate_append_le _ _) hlong⟩
      rw [startOf, Path.isAbsolute_ofComponents (by simp) hmem] at hl
      obtain ⟨e, he⟩ := exists_leads_of_append hl (by simp)
      obtain ⟨n, rfl⟩ : ∃ n, s = .down n := by
        rw [PathStep.ofBytes?, if_neg (by simp [(hmem c (by simp)).1, hdot]), if_neg hup] at hlast
        split at hlast
        case isTrue => exact ⟨_, (Option.some.inj hlast).symm⟩
        case isFalse => cases hlast
      obtain ⟨j, hj⟩ := walkLinks_append he
      have hdown : t.walkLinks true j e [.down n] = .ok (.taken d node) := by
        rw [← hj true _ (by simp), hl.walkLinks]
      refine ⟨e, n, find_eq_ok_iff.mpr (walk_eq_ok_iff.mpr ⟨front, hfront', ?_⟩), ?_⟩
      · rwa [startOf, Path.isAbsolute_ofComponents hcs hmem']
      · rw [mem_names]
        cases hat : t.at? (n :: e) with
        | some node' => exact ⟨node', rfl⟩
        | none =>
          rw [walkLinks_down, hat] at hdown
          split at hdown
          case isTrue => cases hdown
          case isFalse => cases hdown

/-! ## Making directories -/

/-- Of the later tree : if the path leads to a directory, either nothing has been done or it is
empty. -/
def MakesEmpty (t : FileTree) (p : Path) (t' : FileTree) : Prop :=
  ∀ d, t'.find p = .ok (d, .dir) → t' = t ∨ t'.names d = []

theorem names_of_makeDir {t' : FileTree} (h : t.makeDir p = .ok t')
    (hd : t'.find p = .ok (d, .dir)) : t'.names d = [] := by
  obtain ⟨e, n, hadd, hfind⟩ := makeDir_eq_ok h
  obtain ⟨rfl, -⟩ := Prod.mk.inj (Except.ok.inj (hd.symm.trans hfind))
  refine List.eq_nil_iff_forall_not_mem.mpr fun m hm => ?_
  obtain ⟨node, hnode⟩ := (mem_names m _).mp hm
  obtain ⟨⟨-, hfree⟩, -⟩ := add?_eq_some_iff.mp hadd
  have hne : m :: n :: e ≠ n :: e := by simp
  rw [at?_add? hadd, if_neg hne] at hnode
  have hdir := at?_tail hnode
  simp [hfree] at hdir

/-- If the path leads nowhere new once the directories above it have been made, what is made is
empty. -/
theorem makesEmpty_makeDirWith {parent : FileTree → FileTree × Except SystemError Unit}
    (hparent : ∀ d, (parent t).1.find p = .ok (d, .dir) → (parent t).1 = t) :
    t.MakesEmpty p (t.makeDirWith parent p).1 := by
  unfold makeDirWith
  split
  case h_1 t₁ h => exact fun d hd => Or.inr (names_of_makeDir h hd)
  case h_2 =>
    split
    case h_1 t₁ e hp =>
      rw [hp] at hparent
      exact fun d hd => Or.inl (hparent d hd)
    case h_2 t₁ hp =>
      rw [hp] at hparent
      split
      case h_1 t₂ h => exact fun d hd => Or.inr (names_of_makeDir h hd)
      case h_2 => split <;> exact fun d hd => Or.inl (hparent d hd)
  case h_3 => split <;> exact fun d _ => Or.inl rfl

/-- Where the directory before the last component is empty, or nothing has been done, the whole path
leads to a directory only in the second case. -/
theorem eq_of_find_append (hcs : cs ≠ []) (h : LeadDown (cs ++ [c])) {t' : FileTree}
    (hempty : t.MakesEmpty (Path.ofComponents absolute cs) t')
    (hd : t'.find (Path.ofComponents absolute (cs ++ [c])) = .ok (d, .dir)) : t' = t := by
  obtain ⟨hdot, hup⟩ := h.last hcs
  obtain ⟨e, n, he, hn⟩ := exists_names_of_find hcs h.stretch hdot hup hd
  refine (hempty e he).resolve_right fun hnil => ?_
  simp [hnil] at hn

theorem makesEmpty_createDirsOf (absolute : Bool) : ∀ {cs : List Bytes}, cs ≠ [] →
    LeadDown cs.reverse → ∀ t : FileTree,
      t.MakesEmpty (Path.ofComponents absolute cs.reverse) (createDirsOf absolute cs t).1
  | [], hcs, _, _ => absurd rfl hcs
  | c :: cs, _, h, t => by
    refine makesEmpty_makeDirWith fun d hd => ?_
    by_cases hcs : cs = []
    · rw [hcs]
      rfl
    · rw [List.reverse_cons] at h hd
      have hempty := makesEmpty_createDirsOf absolute hcs h.front t
      exact eq_of_find_append (by simpa using hcs) h hempty hd

/-- A directory that is there after it was made either was there and nothing has been done, or it
is empty. -/
theorem names_of_createDirs (hup : [dot, dot] ∉ p.components)
    (h : (t.createDirs p).1.find p = .ok (d, .dir)) :
    (t.createDirs p).1 = t ∨ (t.createDirs p).1.names d = [] := by
  suffices hempty : t.MakesEmpty p (t.createDirs p).1 from hempty d h
  unfold createDirs
  split
  case isTrue => exact fun _ _ => Or.inl rfl
  case isFalse =>
    refine makesEmpty_makeDirWith fun d hd => ?_
    rcases List.eq_nil_or_concat p.components with hnil | ⟨cs, c, hcs⟩
    · rw [hnil]
      rfl
    · have hdown := leadDown_components hup
      have hfind := find_ofComponents hd (by simp [hcs])
      have htail : p.components.reverse.tail = cs.reverse := by simp [hcs]
      rw [htail] at hd hfind ⊢
      by_cases hnil : cs = []
      · rw [hnil]
        rfl
      · rw [hcs, List.concat_eq_append] at hdown hfind
        have hne : cs.reverse ≠ [] := by simpa using hnil
        have hempty := makesEmpty_createDirsOf p.isAbsolute hne (by simpa using hdown.front) t
        rw [List.reverse_reverse] at hempty
        exact eq_of_find_append hnil hdown hempty hfind

end FileTree

end ServerLauncher
