import ServerLauncher.FileTree.Access
import ServerLauncher.Proofs.Tree

/-!
# Where a walk leads

`FileTree.Leads` tells the walks that end at a spot, one rule for each thing that can lie on the
way ; `walkLinks_eq_ok_iff` says that these are the walks that do not fail. All that is said of
walks here goes by induction on `Leads` : a walk is cut in two (`walkLinks_append`,
`exists_leads_of_append`), it is the same in a later tree that keeps its directories and links
(`Leads.of_keeps`), and a slash at the end makes no difference where a directory lies
(`Leads.of_append_stay`, `Leads.append_stay`).
-/

namespace ServerLauncher

/-- The spot is so in the tree. -/
def Spot.IsIn (t : FileTree) : Spot → Prop
  | .taken p node => t.at? p = some node
  | .free d n => t.at? (n :: d) = none

/-- Something on its way keeps the system from following a path to the end. -/
def SystemError.blocksWalk : SystemError → Bool
  | .notADirectory | .nameTooLong | .tooManyLinks | .nulInPath => true
  | _ => false

theorem Path.error_of_steps {p : Path} {err : SystemError} (h : p.steps = .error err) :
    err = .notFound ∨ err.blocksWalk = true := by
  unfold steps at h
  split at h
  case h_1 =>
    cases h
    exact .inr rfl
  case h_2 =>
    split_ifs at h <;> cases h
    · exact .inl rfl
    · exact .inr rfl

namespace FileTree

/-! ## The walks that do not fail -/

/-- The walk down from a directory, over at most so many links and along these steps, ends at a
spot. -/
inductive Leads (t : FileTree) (followLast : Bool) :
    Nat → Place → List PathStep → Spot → Prop
  | nil {k d} : Leads t followLast k d [] (.taken d .dir)
  | stay {k d ss x} (h : Leads t followLast k d ss x) : Leads t followLast k d (.stay :: ss) x
  | up {k d ss x} (h : Leads t followLast k d.tail ss x) : Leads t followLast k d (.up :: ss) x
  | free {k d n} (hn : n.bytes.length ≤ maxNameBytes) (hat : t.at? (n :: d) = none) :
      Leads t followLast k d [.down n] (.free d n)
  | dir {k d n ss x} (hn : n.bytes.length ≤ maxNameBytes) (hat : t.at? (n :: d) = some .dir)
      (h : Leads t followLast k (n :: d) ss x) : Leads t followLast k d (.down n :: ss) x
  | file {k d n mode content} (hn : n.bytes.length ≤ maxNameBytes)
      (hat : t.at? (n :: d) = some (.file mode content)) :
      Leads t followLast k d [.down n] (.taken (n :: d) (.file mode content))
  | link {k d n target} (hn : n.bytes.length ≤ maxNameBytes) (hlast : followLast = false)
      (hat : t.at? (n :: d) = some (.link target)) :
      Leads t followLast k d [.down n] (.taken (n :: d) (.link target))
  | follow {k d n target ts ss x} (hn : n.bytes.length ≤ maxNameBytes)
      (hlast : ss ≠ [] ∨ followLast = true) (hat : t.at? (n :: d) = some (.link target))
      (hts : target.steps = .ok ts) (h : Leads t followLast k (startOf d target) (ts ++ ss) x) :
      Leads t followLast (k + 1) d (.down n :: ss) x

variable {t t' : FileTree} {followLast : Bool} {k : Nat} {d e : Place} {n : Name} {x : Spot}
  {ss : List PathStep}

/-! ## One step -/

@[simp] theorem walkLinks_nil : t.walkLinks followLast k d [] = .ok (.taken d .dir) := by
  cases k <;> rfl

@[simp] theorem walkLinks_stay :
    t.walkLinks followLast k d (.stay :: ss) = t.walkLinks followLast k d ss := by
  cases k <;> rfl

@[simp] theorem walkLinks_up :
    t.walkLinks followLast k d (.up :: ss) = t.walkLinks followLast k d.tail ss := by
  cases k <;> rfl

/-- The walk on from a link that is followed. -/
def walkOn (t : FileTree) (followLast : Bool) :
    Nat → Place → List PathStep → Except SystemError Spot
  | 0, _, _ => .error .tooManyLinks
  | k + 1, d, ss => t.walkLinks followLast k d ss

theorem walkLinks_down : t.walkLinks followLast k d (.down n :: ss) =
    if maxNameBytes < n.bytes.length then .error .nameTooLong
    else
      match t.at? (n :: d) with
      | none => if ss.isEmpty then .ok (.free d n) else .error .notFound
      | some .dir => t.walkLinks followLast k (n :: d) ss
      | some (.file mode content) =>
        if ss.isEmpty then .ok (.taken (n :: d) (.file mode content)) else .error .notADirectory
      | some (.link target) =>
        if ss.isEmpty && !followLast then .ok (.taken (n :: d) (.link target))
        else
          match target.steps with
          | .error e => .error e
          | .ok ts => t.walkOn followLast k (startOf d target) (ts ++ ss) := by
  cases k <;> rfl

/-! ## The walks that fail -/

/-- A walk fails because nothing is there, or because something is in its way. -/
theorem error_of_walkLinks {k : Nat} {d : Place} {err : SystemError} :
    ∀ {ss : List PathStep}, t.walkLinks followLast k d ss = .error err →
      err = .notFound ∨ err.blocksWalk = true
  | [], h => by simp at h
  | .stay :: ss, h => error_of_walkLinks (walkLinks_stay.symm.trans h)
  | .up :: ss, h => error_of_walkLinks (walkLinks_up.symm.trans h)
  | .down n :: ss, h => by
    rw [walkLinks_down] at h
    split at h
    case isTrue =>
      cases h
      exact .inr rfl
    case isFalse =>
      split at h
      case h_1 =>
        split_ifs at h
        cases h
        exact .inl rfl
      case h_2 => exact error_of_walkLinks h
      case h_3 =>
        split_ifs at h
        cases h
        exact .inr rfl
      case h_4 target _ =>
        split_ifs at h
        split at h
        case h_1 hsteps =>
          cases h
          exact Path.error_of_steps hsteps
        case h_2 =>
          cases k with
          | zero =>
            cases h
            exact .inr rfl
          | succ k => exact error_of_walkLinks h
termination_by ss => (k, ss.length)

theorem error_of_walk {p : Path} {err : SystemError} (h : t.walk followLast p = .error err) :
    err = .notFound ∨ err.blocksWalk = true := by
  unfold walk at h
  split at h
  case h_1 hsteps =>
    cases h
    exact Path.error_of_steps hsteps
  case h_2 => exact error_of_walkLinks h

/-! ## Walks and what they lead to -/

theorem Leads.walkLinks (h : t.Leads followLast k d ss x) :
    t.walkLinks followLast k d ss = .ok x := by
  induction h with
  | nil => exact walkLinks_nil
  | stay _ ih => rw [walkLinks_stay, ih]
  | up _ ih => rw [walkLinks_up, ih]
  | free hn hat => simp [walkLinks_down, Nat.not_lt.mpr hn, hat]
  | dir hn hat _ ih => simp [walkLinks_down, Nat.not_lt.mpr hn, hat, ih]
  | file hn hat => simp [walkLinks_down, Nat.not_lt.mpr hn, hat]
  | link hn hlast hat => simp [walkLinks_down, Nat.not_lt.mpr hn, hat, hlast]
  | @follow k d n target ts ss x hn hlast hat hts _ ih =>
    have hfollow : ¬(ss = [] ∧ followLast = false) := by
      rintro ⟨rfl, rfl⟩
      simp at hlast
    simp [walkLinks_down, Nat.not_lt.mpr hn, hat, hts, walkOn, ih, hfollow]

theorem leads_of_walkLinks {k : Nat} {d : Place} :
    ∀ {ss : List PathStep}, t.walkLinks followLast k d ss = .ok x → t.Leads followLast k d ss x
  | [], h => by
    obtain rfl := Except.ok.inj (walkLinks_nil.symm.trans h)
    exact .nil
  | .stay :: ss, h => .stay (leads_of_walkLinks (walkLinks_stay.symm.trans h))
  | .up :: ss, h => .up (leads_of_walkLinks (walkLinks_up.symm.trans h))
  | .down n :: ss, h => by
    rw [walkLinks_down] at h
    split at h
    case isTrue => simp at h
    case isFalse hn =>
      have hn := Nat.not_lt.mp hn
      split at h
      case h_1 hat =>
        split at h
        case isTrue hs =>
          obtain rfl := Except.ok.inj h
          obtain rfl := List.isEmpty_iff.mp hs
          exact .free hn hat
        case isFalse => simp at h
      case h_2 hat => exact .dir hn hat (leads_of_walkLinks h)
      case h_3 hat =>
        split at h
        case isTrue hs =>
          obtain rfl := Except.ok.inj h
          obtain rfl := List.isEmpty_iff.mp hs
          exact .file hn hat
        case isFalse => simp at h
      case h_4 target hat =>
        split at h
        case isTrue hs =>
          rw [Bool.and_eq_true, List.isEmpty_iff, Bool.not_eq_true'] at hs
          obtain rfl := Except.ok.inj h
          obtain ⟨rfl, hlast⟩ := hs
          exact .link hn hlast hat
        case isFalse hs =>
          have hlast : ss ≠ [] ∨ followLast = true := by
            rw [Bool.and_eq_true, List.isEmpty_iff, Bool.not_eq_true', not_and_or] at hs
            simpa using hs
          split at h
          case h_1 => simp at h
          case h_2 ts hts =>
            cases k with
            | zero => simp [walkOn] at h
            | succ k => exact .follow hn hlast hat hts (leads_of_walkLinks h)
termination_by ss => (k, ss.length)

theorem walkLinks_eq_ok_iff :
    t.walkLinks followLast k d ss = .ok x ↔ t.Leads followLast k d ss x :=
  ⟨leads_of_walkLinks, Leads.walkLinks⟩

theorem Leads.unique {y : Spot} (h : t.Leads followLast k d ss x)
    (h' : t.Leads followLast k d ss y) : x = y :=
  Except.ok.inj (h.walkLinks.symm.trans h'.walkLinks)

/-! ## Cutting a walk in two -/

/-- Behind a walk that leads to a directory, the rest is walked from there. How many links are
left does not depend on the rest. -/
theorem walkLinks_append (h : t.Leads true k d ss (.taken e .dir)) :
    ∃ j, ∀ (followLast : Bool) (rest : List PathStep), rest ≠ [] →
      t.walkLinks followLast k d (ss ++ rest) = t.walkLinks followLast j e rest := by
  generalize hx : Spot.taken e .dir = x at h
  induction h with
  | @nil k d =>
    obtain ⟨rfl, -⟩ := Spot.taken.inj hx
    exact ⟨k, fun _ _ _ => rfl⟩
  | stay _ ih => simpa using ih hx
  | up _ ih => simpa using ih hx
  | free => cases hx
  | dir hn hat _ ih =>
    obtain ⟨j, hj⟩ := ih hx
    refine ⟨j, fun followLast rest hrest => ?_⟩
    rw [← hj followLast rest hrest, List.cons_append, walkLinks_down,
      if_neg (Nat.not_lt.mpr hn), hat]
  | file => cases (Spot.taken.inj hx).2
  | link _ hlast => cases hlast
  | follow hn _ hat hts _ ih =>
    obtain ⟨j, hj⟩ := ih hx
    refine ⟨j, fun followLast rest hrest => ?_⟩
    rw [← hj followLast rest hrest, List.append_assoc, List.cons_append, walkLinks_down,
      if_neg (Nat.not_lt.mpr hn), hat]
    simp [hts, walkOn, hrest]

/-- A walk that does not fail passes through a directory between any two of its steps. -/
theorem exists_leads_of_append {rest : List PathStep}
    (h : t.Leads followLast k d (ss ++ rest) x) (hrest : rest ≠ []) :
    ∃ e, t.Leads true k d ss (.taken e .dir) := by
  generalize hl : ss ++ rest = l at h
  induction h generalizing ss with
  | nil => simp [hrest] at hl
  | stay _ ih =>
    cases ss with
    | nil => exact ⟨_, .nil⟩
    | cons s ss =>
      obtain ⟨rfl, htail⟩ := List.cons.inj hl
      exact (ih htail).imp fun _ => .stay
  | up _ ih =>
    cases ss with
    | nil => exact ⟨_, .nil⟩
    | cons s ss =>
      obtain ⟨rfl, htail⟩ := List.cons.inj hl
      exact (ih htail).imp fun _ => .up
  | free | file | link =>
    cases ss with
    | nil => exact ⟨_, .nil⟩
    | cons s ss => simp [hrest] at hl
  | dir hn hat _ ih =>
    cases ss with
    | nil => exact ⟨_, .nil⟩
    | cons s ss =>
      obtain ⟨rfl, htail⟩ := List.cons.inj hl
      exact (ih htail).imp fun _ => .dir hn hat
  | @follow k d n target ts _ _ hn _ hat hts _ ih =>
    cases ss with
    | nil => exact ⟨_, .nil⟩
    | cons s ss =>
      obtain ⟨rfl, rfl⟩ := List.cons.inj hl
      exact (ih (List.append_assoc ts ss rest)).imp fun _ => .follow hn (Or.inr rfl) hat hts

/-! ## Later trees -/

/-- A walk leads to the same spot in a later tree, if the spot is still so. -/
theorem Leads.of_keeps (h : t.Leads followLast k d ss x) (hk : t.Keeps t')
    (hx : x.IsIn t → x.IsIn t') : t'.Leads followLast k d ss x := by
  induction h with
  | nil => exact .nil
  | stay _ ih => exact .stay (ih hx)
  | up _ ih => exact .up (ih hx)
  | free hn hat => exact .free hn (hx hat)
  | dir hn hat _ ih => exact .dir hn (hk.dir _ hat) (ih hx)
  | file hn hat => exact .file hn (hx hat)
  | link hn hlast hat => exact .link hn hlast (hk.link _ _ hat)
  | follow hn hlast hat hts _ ih => exact .follow hn hlast (hk.link _ _ hat) hts (ih hx)

/-! ## Slashes at the end -/

theorem leads_replicate_stay (i : Nat) :
    t.Leads followLast k d (List.replicate i .stay) (.taken d .dir) := by
  induction i with
  | zero => exact .nil
  | succ i ih => exact .stay ih

/-- Where a walk that follows the last link ends at a node, one that does not does so too. -/
theorem Leads.exists_taken {p : Place} {node : Node} (h : t.Leads true k d ss (.taken p node)) :
    ∃ q node', t.Leads false k d ss (.taken q node') := by
  generalize hx : Spot.taken p node = x at h
  induction h with
  | nil => exact ⟨_, _, .nil⟩
  | stay _ ih =>
    obtain ⟨q, node', h⟩ := ih hx
    exact ⟨q, node', .stay h⟩
  | up _ ih =>
    obtain ⟨q, node', h⟩ := ih hx
    exact ⟨q, node', .up h⟩
  | free => cases hx
  | dir hn hat _ ih =>
    obtain ⟨q, node', h⟩ := ih hx
    exact ⟨q, node', .dir hn hat h⟩
  | file hn hat => exact ⟨_, _, .file hn hat⟩
  | link _ hlast => cases hlast
  | @follow k d n target ts ss x hn _ hat hts _ ih =>
    by_cases hs : ss = []
    · subst hs
      exact ⟨_, _, .link hn rfl hat⟩
    · obtain ⟨q, node', h⟩ := ih hx
      exact ⟨q, node', .follow hn (Or.inl hs) hat hts h⟩

/-- Without the slashes at the end, the walk to a directory ends at a node. -/
theorem Leads.of_append_stay {i : Nat}
    (h : t.Leads true k d (ss ++ List.replicate i .stay) (.taken e .dir)) :
    ∃ q node, t.Leads false k d ss (.taken q node) := by
  cases i with
  | zero =>
    rw [List.replicate_zero, List.append_nil] at h
    exact h.exists_taken
  | succ i =>
    obtain ⟨e', h'⟩ := exists_leads_of_append h (by simp)
    exact h'.exists_taken

/-- Where a name was free and a directory now lies, the walk ends there, also with slashes at the
end. -/
theorem Leads.append_stay {i : Nat} (h : t.Leads false k d ss (.free e n)) (hk : t.Keeps t')
    (hat : t'.at? (n :: e) = some .dir) :
    t'.Leads true k d (ss ++ List.replicate i .stay) (.taken (n :: e) .dir) := by
  generalize hx : Spot.free e n = x at h
  induction h with
  | nil => cases hx
  | stay _ ih => exact .stay (ih hx)
  | up _ ih => exact .up (ih hx)
  | free hn _ =>
    obtain ⟨rfl, rfl⟩ := Spot.free.inj hx
    exact .dir hn hat (leads_replicate_stay i)
  | dir hn hat' _ ih => exact .dir hn (hk.dir _ hat') (ih hx)
  | file => cases hx
  | link => cases hx
  | follow hn hlast hat' hts _ ih =>
    refine .follow hn (Or.inr rfl) (hk.link _ _ hat') hts ?_
    rw [List.append_eq, ← List.append_assoc]
    exact ih hx

/-! ## The last step -/

/-- What lies under a name of a directory, as a walk of one step that does not follow it. -/
def lookUp (t : FileTree) (d : Place) (n : Name) : Except SystemError Spot :=
  if maxNameBytes < n.bytes.length then .error .nameTooLong
  else
    match t.at? (n :: d) with
    | none => .ok (.free d n)
    | some node => .ok (.taken (n :: d) node)

theorem walkLinks_false_down : t.walkLinks false k d [.down n] = t.lookUp d n := by
  rw [walkLinks_down, lookUp]
  congr 1
  rcases t.at? (n :: d) with _ | _ | _ | _ <;> simp

theorem walkLinks_true_down (hat : ∀ target, t.at? (n :: d) ≠ some (.link target)) :
    t.walkLinks true k d [.down n] = t.lookUp d n := by
  rw [walkLinks_down, lookUp]
  congr 1
  rcases h : t.at? (n :: d) with _ | _ | _ | target
  · simp
  · simp
  · simp
  · exact absurd h (hat target)

/-- A walk that does not end at a directory ends with a look under a name, and in a later tree the
same look tells where it ends. -/
theorem Leads.exists_lookUp (h : t.Leads false k d ss x) (hx : ∀ p, x ≠ .taken p .dir) :
    ∃ e n, t.lookUp e n = .ok x ∧ ∀ {t' : FileTree} {y : Spot}, t.Keeps t' →
      t'.lookUp e n = .ok y → t'.Leads false k d ss y := by
  have hlast : ∀ {k d n x}, t.Leads false k d [.down n] x → ∃ e n', t.lookUp e n' = .ok x ∧
      ∀ {t' : FileTree} {y : Spot}, t.Keeps t' → t'.lookUp e n' = .ok y →
        t'.Leads false k d [.down n] y := by
    intro k d n x hl
    refine ⟨d, n, walkLinks_false_down ▸ hl.walkLinks, fun _ hy => leads_of_walkLinks ?_⟩
    rw [walkLinks_false_down, hy]
  induction h with
  | nil => exact absurd rfl (hx _)
  | stay _ ih =>
    obtain ⟨e, n, hlook, hlater⟩ := ih hx
    exact ⟨e, n, hlook, fun hk hy => .stay (hlater hk hy)⟩
  | up _ ih =>
    obtain ⟨e, n, hlook, hlater⟩ := ih hx
    exact ⟨e, n, hlook, fun hk hy => .up (hlater hk hy)⟩
  | dir hn hat _ ih =>
    obtain ⟨e, n, hlook, hlater⟩ := ih hx
    exact ⟨e, n, hlook, fun hk hy => .dir hn (hk.dir _ hat) (hlater hk hy)⟩
  | free hn hat => exact hlast (.free hn hat)
  | file hn hat => exact hlast (.file hn hat)
  | link hn h hat => exact hlast (.link hn h hat)
  | follow hn hs hat hts _ ih =>
    obtain ⟨e, n, hlook, hlater⟩ := ih hx
    exact ⟨e, n, hlook, fun hk hy => .follow hn hs (hk.link _ _ hat) hts (hlater hk hy)⟩

/-- It makes no difference for a walk to a file whether a link at the end is followed. -/
theorem Leads.of_file {p : Place} {mode : Nat} {content : Bytes}
    (h : t.Leads false k d ss (.taken p (.file mode content))) :
    t.Leads true k d ss (.taken p (.file mode content)) := by
  generalize hx : Spot.taken p (.file mode content) = x at h
  induction h with
  | nil => cases hx
  | stay _ ih => exact .stay (ih hx)
  | up _ ih => exact .up (ih hx)
  | free => cases hx
  | dir hn hat _ ih => exact .dir hn hat (ih hx)
  | file hn hat => exact .file hn hat
  | link => cases hx
  | follow hn _ hat hts _ ih => exact .follow hn (Or.inr rfl) hat hts (ih hx)

/-- Where a name was free and a file now lies, the walk ends there. -/
theorem Leads.of_free {mode : Nat} {content : Bytes} (h : t.Leads followLast k d ss (.free e n))
    (hk : t.Keeps t') (hat : t'.at? (n :: e) = some (.file mode content)) :
    t'.Leads followLast k d ss (.taken (n :: e) (.file mode content)) := by
  generalize hx : Spot.free e n = x at h
  induction h with
  | nil => cases hx
  | stay _ ih => exact .stay (ih hx)
  | up _ ih => exact .up (ih hx)
  | free hn _ =>
    obtain ⟨rfl, rfl⟩ := Spot.free.inj hx
    exact .file hn hat
  | dir hn hat' _ ih => exact .dir hn (hk.dir _ hat') (ih hx)
  | file => cases hx
  | link => cases hx
  | follow hn hlast hat' hts _ ih => exact .follow hn hlast (hk.link _ _ hat') hts (ih hx)

end FileTree

end ServerLauncher
