import ServerLauncher.FileTree.Change
import ServerLauncher.Proofs.Walk

/-!
# The steps of a path

The paths of a directory and of its entries are told by the same steps up to the last
(`Path.steps_join`), and so are a path and the path without the slashes at its end
(`Path.steps_dropTrailingSlashes`). With that, the path of an entry leads to what the directory
holds under its name (`FileTree.walk_join`), whatever stands in front : links, `..` or slashes in a
row.
-/

namespace ServerLauncher

/-! ## Names -/

theorem isName_iff (bs : Bytes) : isName bs = true ↔
    bs ≠ [] ∧ bs ≠ [dot] ∧ bs ≠ [dot, dot] ∧ slash ∉ bs ∧ 0 ∉ bs := by
  simp [isName, and_assoc]

theorem Name.slash_not_mem (n : Name) : slash ∉ n.bytes :=
  ((isName_iff _).mp n.isName_bytes).2.2.2.1

theorem Name.ext_bytes {n m : Name} (h : n.bytes = m.bytes) : n = m := by
  obtain ⟨a, _⟩ := n
  obtain ⟨b, _⟩ := m
  obtain rfl : a = b := h
  rfl

namespace PathStep

theorem ofBytes?_bytes (n : Name) : ofBytes? n.bytes = some (.down n) := by
  obtain ⟨hnil, hdot, hdots, -, -⟩ := (isName_iff _).mp n.isName_bytes
  rw [ofBytes?, if_neg (by simp [hnil, hdot]), if_neg hdots, dif_pos n.isName_bytes]

theorem mapM_replicate_nil (i : Nat) :
    (List.replicate i []).mapM ofBytes? = some (List.replicate i .stay) := by
  induction i with
  | zero => rfl
  | succ i ih =>
    rw [List.replicate_succ, List.replicate_succ, List.mapM_cons, ih]
    rfl

/-- Empty stretches at the end are steps that stay. -/
theorem of_mapM_append_replicate {as : List Bytes} {i : Nat} {ss : List PathStep}
    (h : (as ++ List.replicate i []).mapM ofBytes? = some ss) :
    ∃ front, as.mapM ofBytes? = some front ∧ ss = front ++ List.replicate i .stay := by
  rw [List.mapM_append, mapM_replicate_nil] at h
  cases hf : as.mapM ofBytes? with
  | none => simp [hf] at h
  | some front => exact ⟨front, rfl, by simpa [hf] using h.symm⟩

end PathStep

namespace Path

/-! ## Slashes at the end -/

theorem splitOn_append_replicate (xs : Bytes) (i : Nat) :
    (xs ++ List.replicate i slash).splitOn slash =
      xs.splitOn slash ++ List.replicate i [] := by
  induction i with
  | zero => simp
  | succ i ih =>
    rw [List.replicate_succ', ← List.append_assoc, List.splitOn_append_cons_self, ih,
      List.splitOn_nil, List.append_assoc, ← List.replicate_succ']

theorem steps_eq_ok_iff {p : Path} {ss : List PathStep} : p.steps = .ok ss ↔
    (p.bytes.splitOn slash).mapM PathStep.ofBytes? = some ss ∧ p.bytes ≠ [] ∧
      p.bytes.length ≤ maxPathBytes := by
  unfold steps
  split
  case h_1 hs => simp [hs]
  case h_2 ss' hs =>
    simp only [hs, List.isEmpty_iff, Option.some.injEq]
    split
    case isTrue hnil => simp [hnil]
    case isFalse hnil =>
      split
      case isTrue hlong =>
        simp only [reduceCtorEq, false_iff, not_and, Nat.not_le]
        exact fun _ _ => hlong
      case isFalse hlong => simp [hnil, Nat.not_lt.mp hlong]

theorem exists_dropTrailingSlashes (p : Path) :
    ∃ i, p.bytes = p.dropTrailingSlashes.bytes ++ List.replicate i slash := by
  have hslashes : ∀ bs : Bytes, ∃ i, bs.takeWhile (· == slash) = List.replicate i slash := by
    intro bs
    refine ⟨_, List.eq_replicate_of_mem fun b hb => ?_⟩
    simpa using List.all_eq_true.mp List.all_takeWhile b hb
  obtain ⟨i, hi⟩ := hslashes p.bytes.reverse
  have hsplit : p.bytes = (p.bytes.reverse.dropWhile (· == slash)).reverse ++
      List.replicate i slash := by
    rw [← List.reverse_replicate, ← hi, ← List.reverse_append, List.takeWhile_append_dropWhile,
      List.reverse_reverse]
  unfold dropTrailingSlashes
  split
  case h_1 hnil =>
    split
    case isTrue habs =>
      rw [hnil, List.reverse_nil, List.nil_append] at hsplit
      cases i with
      | zero => simp [isAbsolute, hsplit] at habs
      | succ i => exact ⟨i, hsplit⟩
    case isFalse => exact ⟨0, by simp⟩
  case h_2 => exact ⟨i, hsplit⟩

theorem dropTrailingSlashes_ne_nil {p : Path} (hp : p.bytes ≠ []) :
    p.dropTrailingSlashes.bytes ≠ [] := by
  unfold dropTrailingSlashes
  split
  case h_1 =>
    split
    case isTrue => simp
    case isFalse => exact hp
  case h_2 hbs => simpa using hbs

theorem isAbsolute_dropTrailingSlashes {p : Path} (hp : p.bytes ≠ []) :
    p.dropTrailingSlashes.isAbsolute = p.isAbsolute := by
  obtain ⟨i, hi⟩ := exists_dropTrailingSlashes p
  rw [isAbsolute, isAbsolute, hi, List.head?_append_of_ne_nil _ (dropTrailingSlashes_ne_nil hp)]

/-- Without the slashes at its end, a path has the same steps up to those that stay at the end. -/
theorem steps_dropTrailingSlashes {p : Path} {ss : List PathStep} (h : p.steps = .ok ss) :
    ∃ front i, p.dropTrailingSlashes.steps = .ok front ∧
      ss = front ++ List.replicate i .stay := by
  obtain ⟨hss, hnil, hlong⟩ := steps_eq_ok_iff.mp h
  obtain ⟨i, hi⟩ := exists_dropTrailingSlashes p
  rw [hi, splitOn_append_replicate] at hss
  obtain ⟨front, hfront, rfl⟩ := PathStep.of_mapM_append_replicate hss
  refine ⟨front, i, steps_eq_ok_iff.mpr ⟨hfront, dropTrailingSlashes_ne_nil hnil, ?_⟩, rfl⟩
  rw [hi, List.length_append] at hlong
  omega

/-! ## A name behind a path -/

variable {p : Path} {bs : Bytes}

theorem isAbsolute_of_slash_not_mem (h : slash ∉ bs) : isAbsolute ⟨bs⟩ = false := by
  cases bs with
  | nil => rfl
  | cons b bs =>
    have hb : b ≠ slash := fun hb => h (by simp [hb])
    simpa [isAbsolute] using hb

/-- A path and what is put behind it have a beginning in common, up to one slash. -/
theorem exists_join (hp : p.bytes ≠ []) : ∃ xs i, p.bytes = xs ++ List.replicate i slash ∧
    ∀ bs, slash ∉ bs → (p.join ⟨bs⟩).bytes = xs ++ slash :: bs := by
  have hjoin : ∀ bs, slash ∉ bs → p.join ⟨bs⟩ =
      if p.bytes.getLast? == some slash then ⟨p.bytes ++ bs⟩ else ⟨p.bytes ++ slash :: bs⟩ := by
    intro bs hbs
    rw [join, isAbsolute_of_slash_not_mem hbs, Bool.false_or, if_neg (by simpa using hp)]
  by_cases hlast : p.bytes.getLast? = some slash
  · obtain ⟨xs, hxs⟩ := List.getLast?_eq_some_iff.mp hlast
    refine ⟨xs, 1, hxs, fun bs hbs => ?_⟩
    rw [hjoin bs hbs, if_pos (by simp [hlast]), hxs, List.append_assoc]
    rfl
  · refine ⟨p.bytes, 0, by simp, fun bs hbs => ?_⟩
    rw [hjoin bs hbs, if_neg (by simpa using hlast)]

/-- To join two paths takes one byte at most. -/
theorem length_join_le (p q : Path) :
    (p.join q).bytes.length ≤ p.bytes.length + 1 + q.bytes.length := by
  unfold join
  split_ifs
  · exact Nat.le_add_left _ _
  · rw [List.length_append]
    omega
  · rw [List.length_append, List.length_cons]
    omega

theorem isAbsolute_join (hp : p.bytes ≠ []) (hbs : slash ∉ bs) :
    (p.join ⟨bs⟩).isAbsolute = p.isAbsolute := by
  obtain ⟨xs, i, hxs, hjoin⟩ := exists_join hp
  rw [isAbsolute, isAbsolute, hjoin bs hbs, hxs]
  cases xs with
  | nil =>
    cases i with
    | zero => simp [hxs] at hp
    | succ i => rfl
  | cons x xs => rfl

theorem join_of_nil (hp : p.bytes = []) (q : Path) : p.join q = q := by
  simp [join, hp]

/-- Different names behind one path give different paths. -/
theorem join_inj {cs : Bytes} (hbs : slash ∉ bs) (hcs : slash ∉ cs) :
    p.join ⟨bs⟩ = p.join ⟨cs⟩ ↔ bs = cs := by
  refine ⟨fun h => ?_, fun h => by rw [h]⟩
  by_cases hp : p.bytes = []
  · rw [join_of_nil hp, join_of_nil hp] at h
    exact Path.mk.inj h
  · obtain ⟨xs, i, -, hjoin⟩ := exists_join hp
    have hbytes : xs ++ slash :: bs = xs ++ slash :: cs := by
      rw [← hjoin bs hbs, ← hjoin cs hcs, h]
    exact (List.cons.inj (List.append_cancel_left hbytes)).2

/-- The steps of a path with one stretch behind it. -/
theorem steps_join {ss : List PathStep} (h : p.steps = .ok ss) :
    ∃ front i, ss = front ++ List.replicate i .stay ∧ ∀ bs, slash ∉ bs →
      (p.join ⟨bs⟩).steps =
        match PathStep.ofBytes? bs with
        | none => .error .nulInPath
        | some s =>
          if maxPathBytes < (p.join ⟨bs⟩).bytes.length then .error .nameTooLong
          else .ok (front ++ [s]) := by
  obtain ⟨hss, hnil, -⟩ := steps_eq_ok_iff.mp h
  obtain ⟨xs, i, hxs, hjoin⟩ := exists_join hnil
  rw [hxs, splitOn_append_replicate] at hss
  obtain ⟨front, hfront, rfl⟩ := PathStep.of_mapM_append_replicate hss
  refine ⟨front, i, rfl, fun bs hbs => ?_⟩
  have hmap : ((p.join ⟨bs⟩).bytes.splitOn slash).mapM PathStep.ofBytes? =
      (PathStep.ofBytes? bs).map fun s => front ++ [s] := by
    rw [hjoin bs hbs, List.splitOn_append_cons_self, List.splitOn_eq_singleton hbs,
      List.mapM_append, hfront]
    cases hs : PathStep.ofBytes? bs <;> simp [hs]
  have hne : (p.join ⟨bs⟩).bytes.isEmpty = false := by simp [hjoin bs hbs]
  unfold steps
  rw [hmap]
  cases PathStep.ofBytes? bs with
  | none => rfl
  | some s => simp [hne]

end Path

/-! ## The entries of a directory -/

namespace FileTree

variable {t t' : FileTree} {p : Path} {d e : Place} {n : Name}

theorem walk_eq_ok_iff {followLast : Bool} {x : Spot} : t.walk followLast p = .ok x ↔
    ∃ ss, p.steps = .ok ss ∧ t.Leads followLast maxLinks (startOf t.workDir p) ss x := by
  unfold walk
  split
  case h_1 hs => simp [hs]
  case h_2 hs => simp [hs, walkLinks_eq_ok_iff]

theorem find_eq_ok_iff {node : Node} :
    t.find p = .ok (d, node) ↔ t.walk true p = .ok (.taken d node) := by
  unfold find
  split
  case h_1 hw => simp [hw]
  case h_2 hw => simp [hw]
  case h_3 hw => simp [hw]

theorem exists_find_of_isDir (h : t.isDir p = true) : ∃ d, t.find p = .ok (d, .dir) := by
  unfold isDir at h
  split at h
  case h_1 d hd => exact ⟨d, hd⟩
  case h_2 => simp at h

theorem isFile_eq_true_iff :
    t.isFile p = true ↔ ∃ q mode content, t.find p = .ok (q, .file mode content) := by
  unfold isFile
  split
  case h_1 h => simp [h]
  case h_2 hnot =>
    refine ⟨fun h => by simp at h, ?_⟩
    rintro ⟨q, mode, content, h⟩
    exact (hnot q mode content h).elim

theorem exists?_of_isFile (h : t.isFile p = true) : t.exists? p = true := by
  obtain ⟨q, mode, content, hfind⟩ := isFile_eq_true_iff.mp h
  rw [exists?, hfind]

/-- A path that leads somewhere still does so in a later tree, if what is there is the same. -/
theorem walk_of_keeps {followLast : Bool} {x : Spot} (h : t.walk followLast p = .ok x)
    (hk : t.Keeps t') (hx : x.IsIn t → x.IsIn t') : t'.walk followLast p = .ok x := by
  obtain ⟨ss, hss, hl⟩ := walk_eq_ok_iff.mp h
  exact walk_eq_ok_iff.mpr ⟨ss, hss, hk.workDir ▸ hl.of_keeps hk hx⟩

theorem find_dir_of_keeps (h : t.find p = .ok (d, .dir)) (hk : t.Keeps t') :
    t'.find p = .ok (d, .dir) :=
  find_eq_ok_iff.mpr (walk_of_keeps (find_eq_ok_iff.mp h) hk fun hd => hk.dir d hd)

/-- What a path leads to is still there in a tree that has all that was there. -/
theorem find_of_extends {node : Node} (h : t.find p = .ok (d, node)) (hext : t.Extends t') :
    t'.find p = .ok (d, node) :=
  find_eq_ok_iff.mpr (walk_of_keeps (find_eq_ok_iff.mp h) hext.keeps (hext.at? d node))

theorem isFile_of_extends (h : t.isFile p = true) (hext : t.Extends t') : t'.isFile p = true := by
  obtain ⟨q, mode, content, hfind⟩ := isFile_eq_true_iff.mp h
  exact isFile_eq_true_iff.mpr ⟨q, mode, content, find_of_extends hfind hext⟩

/-- What is no name of an entry is no path of one either. -/
theorem walk_join_of_none {followLast : Bool} {node : Node} {bs : Bytes}
    (h : t.find p = .ok (d, node)) (hbs : slash ∉ bs) (hnone : PathStep.ofBytes? bs = none) :
    t.walk followLast (p.join ⟨bs⟩) = .error .nulInPath := by
  obtain ⟨ss, hss, -⟩ := walk_eq_ok_iff.mp (find_eq_ok_iff.mp h)
  obtain ⟨front, i, -, hjoin⟩ := Path.steps_join hss
  rw [walk, hjoin bs hbs, hnone]

/-- The path of an entry leads to what the directory holds under its name. -/
theorem walk_join (h : t.find p = .ok (d, .dir)) : ∃ j, ∀ (followLast : Bool) (n : Name),
    t.walk followLast (p.join ⟨n.bytes⟩) =
      if maxPathBytes < (p.join ⟨n.bytes⟩).bytes.length then .error .nameTooLong
      else t.walkLinks followLast j d [.down n] := by
  obtain ⟨ss, hss, hl⟩ := walk_eq_ok_iff.mp (find_eq_ok_iff.mp h)
  obtain ⟨hsplit, hnil, hlong⟩ := Path.steps_eq_ok_iff.mp hss
  obtain ⟨front, i, rfl, hjoin⟩ := Path.steps_join hss
  have hfront : t.Leads true maxLinks (startOf t.workDir p) front (.taken d .dir) := by
    cases i with
    | zero => simpa using hl
    | succ i =>
      obtain ⟨e, he⟩ := exists_leads_of_append hl (by simp)
      obtain ⟨j, hj⟩ := walkLinks_append he
      have hstay : t.walkLinks true j e (List.replicate (i + 1) .stay) =
          .ok (.taken d .dir) := by
        rw [← hj true _ (by simp), hl.walkLinks]
      obtain ⟨rfl, -⟩ := Spot.taken.inj
        (Leads.unique (walkLinks_eq_ok_iff.mp hstay) (leads_replicate_stay _))
      exact he
  obtain ⟨j, hj⟩ := walkLinks_append hfront
  refine ⟨j, fun followLast n => ?_⟩
  have hstart : startOf t.workDir (p.join ⟨n.bytes⟩) = startOf t.workDir p := by
    rw [startOf, startOf, Path.isAbsolute_join hnil n.slash_not_mem]
  rw [walk, hjoin n.bytes n.slash_not_mem, PathStep.ofBytes?_bytes]
  simp only
  split
  case h_1 herr =>
    split at herr
    case isTrue hlong' => rw [if_pos hlong', Except.error.inj herr]
    case isFalse => simp at herr
  case h_2 ss' hok =>
    split at hok
    case isTrue => simp at hok
    case isFalse hshort =>
      obtain rfl := Except.ok.inj hok
      rw [if_neg hshort, hstart, hj followLast [.down n] (by simp)]

theorem lookUp_eq_taken_iff {q : Place} {node : Node} : t.lookUp d n = .ok (.taken q node) ↔
    n.bytes.length ≤ maxNameBytes ∧ q = n :: d ∧ t.at? (n :: d) = some node := by
  unfold lookUp
  split
  case isTrue hlong => simp [Nat.not_le.mpr hlong]
  case isFalse hlong => cases t.at? (n :: d) <;> simp [Nat.not_lt.mp hlong, eq_comm]

theorem lookUp_eq_free_iff {m : Name} : t.lookUp d n = .ok (.free e m) ↔
    n.bytes.length ≤ maxNameBytes ∧ (e = d ∧ m = n) ∧ t.at? (n :: d) = none := by
  unfold lookUp
  split
  case isTrue hlong => simp [Nat.not_le.mpr hlong]
  case isFalse hlong => cases t.at? (n :: d) <;> simp [Nat.not_lt.mp hlong, eq_comm]

theorem walk_false_join (h : t.find p = .ok (d, .dir)) (n : Name) :
    t.walk false (p.join ⟨n.bytes⟩) =
      if maxPathBytes < (p.join ⟨n.bytes⟩).bytes.length then .error .nameTooLong
      else t.lookUp d n := by
  obtain ⟨j, hj⟩ := walk_join h
  rw [hj false n, walkLinks_false_down]

/-- The path of an entry leads to what the directory holds under its name, if it is not too long. -/
theorem walk_join_eq_ok_iff (h : t.find p = .ok (d, .dir)) {x : Spot} :
    t.walk false (p.join ⟨n.bytes⟩) = .ok x ↔
      (p.join ⟨n.bytes⟩).bytes.length ≤ maxPathBytes ∧ t.lookUp d n = .ok x := by
  rw [walk_false_join h]
  split
  case isTrue hlong => simp [Nat.not_le.mpr hlong]
  case isFalse hlong => simp [Nat.not_lt.mp hlong]

theorem walk_join_eq_taken_iff {node : Node} (h : t.find p = .ok (d, .dir)) :
    t.walk false (p.join ⟨n.bytes⟩) = .ok (.taken (n :: d) node) ↔
      (p.join ⟨n.bytes⟩).bytes.length ≤ maxPathBytes ∧ n.bytes.length ≤ maxNameBytes ∧
        t.at? (n :: d) = some node := by
  rw [walk_join_eq_ok_iff h, lookUp_eq_taken_iff]
  simp

theorem walk_join_eq_free_iff (h : t.find p = .ok (d, .dir)) :
    t.walk false (p.join ⟨n.bytes⟩) = .ok (.free d n) ↔
      (p.join ⟨n.bytes⟩).bytes.length ≤ maxPathBytes ∧ n.bytes.length ≤ maxNameBytes ∧
        t.at? (n :: d) = none := by
  rw [walk_join_eq_ok_iff h, lookUp_eq_free_iff]
  simp

/-- It makes no difference for the path of what is no link whether a link at the end is followed. -/
theorem walk_true_join (h : t.find p = .ok (d, .dir))
    (hat : ∀ target, t.at? (n :: d) ≠ some (.link target)) :
    t.walk true (p.join ⟨n.bytes⟩) = t.walk false (p.join ⟨n.bytes⟩) := by
  obtain ⟨j, hj⟩ := walk_join h
  rw [hj true n, hj false n, walkLinks_true_down hat, walkLinks_false_down]

theorem walk_true_join_of_file {mode : Nat} {content : Bytes} (h : t.find p = .ok (d, .dir))
    (hat : t.at? (n :: d) = some (.file mode content)) :
    t.walk true (p.join ⟨n.bytes⟩) = t.walk false (p.join ⟨n.bytes⟩) :=
  walk_true_join h (by simp [hat])

/-- The path of what is no link leads to the same in two trees that both have it. -/
theorem find_join_congr (h : t.find p = .ok (d, .dir)) (h' : t'.find p = .ok (d, .dir))
    (hlink : ∀ target, t.at? (n :: d) ≠ some (.link target))
    (hat : t'.at? (n :: d) = t.at? (n :: d)) :
    t'.find (p.join ⟨n.bytes⟩) = t.find (p.join ⟨n.bytes⟩) := by
  rw [find, find, walk_true_join h hlink, walk_true_join h' (hat ▸ hlink), walk_false_join h,
    walk_false_join h', lookUp, lookUp, hat]

/-- Where a walk that follows the last link ends at a node, one that does not does so too. -/
theorem exists_taken_of_find {node : Node} (h : t.find p = .ok (d, node)) :
    ∃ q node', t.walk false p = .ok (.taken q node') := by
  obtain ⟨ss, hss, hl⟩ := walk_eq_ok_iff.mp (find_eq_ok_iff.mp h)
  obtain ⟨q, node', hq⟩ := hl.exists_taken
  exact ⟨q, node', walk_eq_ok_iff.mpr ⟨ss, hss, hq⟩⟩

/-- A file is made exactly where the path leads to a name that is free. -/
theorem createNew_eq_ok_iff {mode : Nat} : t.createNew p mode = .ok t' ↔
    ∃ d n, t.walk false p = .ok (.free d n) ∧ t.add? d n (.file mode []) = some t' := by
  unfold createNew
  split
  case h_1 hw => simp [hw]
  case h_2 hw => simp [hw]
  case h_3 d n hw =>
    cases hadd : t.add? d n (.file mode []) <;> simp [hw, hadd, orNotFound]

end FileTree

end ServerLauncher
