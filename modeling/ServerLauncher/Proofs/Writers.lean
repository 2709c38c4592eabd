import ServerLauncher.Proofs.StoreStep

/-!
# Stores that run at the same time

`Writers` are calls of `Cache.store` that work on one tree, each at a stage of its own.
`Writers.step` lets one of them do its next step, with any suffix for a temporary file and any size
of a write, or stops it for good ; `Writers.run` follows a schedule of such turns.

What is so after every turn is `Writers.Sound` : each call has a temporary file of its own with the
bytes that it has written (`StoreStage.Sound`), and a server in the directory is an old one or a
complete new one. The calls do not get into each other's way because their temporary files have
different names, which are no names of servers (`StoreStage.Sound.of_kept`). So a schedule never
shows half a server, and never touches one that is there (`Writers.servers_of_run`).
-/

namespace ServerLauncher

open FileTree

/-! ## Schedules -/

/-- A call of a store under way. -/
structure Writer where
  version : Version
  data : Bytes
  stage : StoreStage
  crashed : Bool

/-- Calls of a store that work on one tree. -/
structure Writers where
  tree : FileTree
  calls : List Writer

/-- A turn of a schedule : the `i`-th call does its next step, or crashes. -/
inductive Turn where
  | advance (i : Nat) (suffix : { s : String // Cache.IsSuffix s }) (portion : Nat)
  | crash (i : Nat)

namespace Writers

/-- Calls that have not begun. -/
def start (t : FileTree) (calls : List (Version × Bytes)) : Writers :=
  ⟨t, calls.map fun call => ⟨call.1, call.2, .ensureDir, false⟩⟩

/-- One turn. A call that has crashed does nothing any more. -/
def step (c : Cache) (s : Writers) : Turn → Writers
  | .advance i suffix portion =>
    match s.calls[i]? with
    | none => s
    | some w =>
      if w.crashed then s
      else
        let o := (c.storeStep w.version w.data (fun _ => suffix.val) portion w.stage).run s.tree
        ⟨o.tree, s.calls.set i { w with stage := o.result }⟩
  | .crash i => { s with calls := s.calls.modify i fun w => { w with crashed := true } }

/-- The turns of a schedule, one after the other. -/
def run (c : Cache) (s : Writers) (turns : List Turn) : Writers :=
  turns.foldl (step c) s

end Writers

variable {c : Cache} {v : Version} {data : Bytes} {d : Place} {t t' : FileTree}
  {s s' : StoreStage} {portion : Nat}

/-! ## One call -/

/-- The servers in the directory are still there as they were. -/
def KeepsServers (c : Cache) (d : Place) (t t' : FileTree) : Prop :=
  ∀ (n : Name) (node : Node) (v : Version), c.versionOf? n.bytes = some v →
    t.at? (n :: d) = some node → t'.at? (n :: d) = some node

namespace StoreStage

/-- A path that a store gives back is that of its version, and something lies there. -/
def Shown (c : Cache) (v : Version) (d : Place) (t : FileTree) (r : Except CacheError Path) :
    Prop :=
  ∀ p, r = .ok p → p = c.pathFor v ∧
    ∃ n node, n.bytes = Utf8.encode (c.fileName v) ∧ t.at? (n :: d) = some node

/-- What a store has done so far, told by what is left to do. -/
def Sound (c : Cache) (v : Version) (data : Bytes) (d : Place) (t : FileTree) : StoreStage → Prop
  | .ensureDir | .check | .createTemporary => True
  | .write p left => ∃ m mode content, Temporary c d t p m mode content ∧ content ++ left = data
  | .makeExecutable p => ∃ m mode, Temporary c d t p m mode data
  | .rename p => ∃ m, Temporary c d t p m serverMode data
  | .discard p r => (∃ m mode content, Temporary c d t p m mode content) ∧ Shown c v d t r
  | .done r => Shown c v d t r

theorem Sound.ready (h : s.Sound c v data d t) : s.Ready c d t := by
  intro p hp
  cases s with
  | ensureDir | check | createTemporary | done => simp [temporary?] at hp
  | write =>
    obtain rfl := Option.some.inj hp
    obtain ⟨m, mode, content, htemp, -⟩ := h
    exact ⟨m, mode, content, htemp⟩
  | makeExecutable =>
    obtain rfl := Option.some.inj hp
    obtain ⟨m, mode, htemp⟩ := h
    exact ⟨m, mode, data, htemp⟩
  | rename =>
    obtain rfl := Option.some.inj hp
    obtain ⟨m, htemp⟩ := h
    exact ⟨m, serverMode, data, htemp⟩
  | discard =>
    obtain rfl := Option.some.inj hp
    exact h.1

theorem Shown.of_keepsServers {r : Except CacheError Path} (h : Shown c v d t r)
    (hk : KeepsServers c d t t') : Shown c v d t' r := by
  intro p hp
  obtain ⟨hpath, n, node, hn, hat⟩ := h p hp
  exact ⟨hpath, n, node, hn, hk n node v (hn ▸ c.versionOf?_fileName v) hat⟩

theorem shown_error (e : CacheError) : Shown c v d t (.error e) := by
  intro p hp
  cases hp

/-- The name of the temporary file of a stage is not that of a server. -/
theorem Ready.hidden (h : s.Ready c d t) {m : Name}
    (hm : s.temporary? = some (c.dir.join ⟨m.bytes⟩)) : c.versionOf? m.bytes = none := by
  obtain ⟨m', mode, content, htemp⟩ := h _ hm
  rw [(Path.join_inj m.slash_not_mem m'.slash_not_mem).mp htemp.path]
  exact htemp.hidden

variable (hdir : t.find c.dir = .ok (d, .dir))
include hdir

/-- The temporary file of a stage is in the tree. -/
theorem Ready.exists_at? (h : s.Ready c d t) {m : Name}
    (hm : s.temporary? = some (c.dir.join ⟨m.bytes⟩)) : ∃ node, t.at? (m :: d) = some node := by
  obtain ⟨m', mode, content, htemp⟩ := h _ hm
  rw [Name.ext_bytes ((Path.join_inj m.slash_not_mem m'.slash_not_mem).mp htemp.path)]
  exact ⟨_, htemp.at? hdir⟩

/-- A call is where it was after another one's step, if that has left its temporary file and the
servers alone. -/
theorem Sound.of_kept (h : s.Sound c v data d t) (hdir' : t'.find c.dir = .ok (d, .dir))
    (hown : ∀ (m : Name) (node : Node), s.temporary? = some (c.dir.join ⟨m.bytes⟩) →
      t.at? (m :: d) = some node → t'.at? (m :: d) = some node)
    (hk : KeepsServers c d t t') : s.Sound c v data d t' := by
  have hkept : ∀ {p m mode content}, s.temporary? = some p → Temporary c d t p m mode content →
      Temporary c d t' p m mode content := by
    intro p m mode content hp htemp
    exact htemp.of_at? hdir hdir' (hown m _ (hp.trans (congrArg some htemp.path)) (htemp.at? hdir))
  cases s with
  | ensureDir | check | createTemporary => trivial
  | write =>
    obtain ⟨m, mode, content, htemp, hdata⟩ := h
    exact ⟨m, mode, content, hkept rfl htemp, hdata⟩
  | makeExecutable =>
    obtain ⟨m, mode, htemp⟩ := h
    exact ⟨m, mode, hkept rfl htemp⟩
  | rename =>
    obtain ⟨m, htemp⟩ := h
    exact ⟨m, hkept rfl htemp⟩
  | discard =>
    obtain ⟨⟨m, mode, content, htemp⟩, hshown⟩ := h
    exact ⟨⟨m, mode, content, hkept rfl htemp⟩, hshown.of_keepsServers hk⟩
  | done => exact Shown.of_keepsServers h hk

end StoreStage

namespace StoreMove

variable (hdir : t.find c.dir = .ok (d, .dir))
include hdir

/-- No step takes away or changes a server. -/
theorem keepsServers (h : StoreMove c v data d portion s t s' t') (hs : s.Ready c d t) :
    KeepsServers c d t t' := by
  intro n node w hw hat
  rcases h.at?_old hdir hat with hkept | ⟨m, hm, htemp⟩
  · exact hkept
  · obtain rfl := (List.cons.inj hm).1
    rw [hs.hidden htemp] at hw
    simp at hw

/-- A step of a store leads from one stage to the next as it should. -/
theorem sound (hbin : '/' ∉ c.binaryName.toList) (h : StoreMove c v data d portion s t s' t')
    (hs : s.Sound c v data d t) : s'.Sound c v data d t' := by
  have hdir' := find_dir_of_keeps hdir (h.keeps hdir)
  have hk := h.keepsServers hdir hs.ready
  cases h with
  | ensured | missing => trivial
  | found hexists =>
    intro p hp
    obtain rfl := Except.ok.inj hp
    obtain ⟨n, hn, node, hat⟩ := Cache.exists_at?_of_exists? hdir hbin hexists
    exact ⟨rfl, n, node, hn, hat⟩
  | created _ htemp => exact ⟨_, _, [], htemp, rfl⟩
  | notCreated => exact StoreStage.shown_error _
  | written =>
    obtain ⟨m, mode, content, htemp, hdata⟩ := hs
    rw [List.append_nil] at hdata
    exact ⟨m, mode, hdata ▸ htemp⟩
  | @wrote _ p m mode content left htemp =>
    obtain ⟨_, _, _, htemp', hdata⟩ := hs
    obtain ⟨rfl, rfl, rfl⟩ := htemp.unique htemp'
    refine ⟨m, mode, content ++ left.take portion, htemp.of_at? hdir hdir' ?_, ?_⟩
    · rw [at?_modify, if_pos rfl, htemp.at? hdir]
      rfl
    · rw [List.append_assoc, List.take_append_drop, hdata]
  | @madeExecutable _ p m mode content htemp =>
    obtain ⟨_, _, htemp'⟩ := hs
    obtain ⟨rfl, rfl, rfl⟩ := htemp.unique htemp'
    refine ⟨m, htemp.of_at? hdir hdir' ?_⟩
    rw [at?_modify, if_pos rfl, htemp.at? hdir]
    rfl
  | renamed _ hn _ hadd =>
    intro p hp
    obtain rfl := Except.ok.inj hp
    exact ⟨rfl, _, _, hn, by rw [at?_add? hadd, if_pos rfl]⟩
  | taken hn hat =>
    obtain ⟨m, htemp⟩ := hs
    refine ⟨⟨m, _, _, htemp⟩, fun p hp => ?_⟩
    obtain rfl := Except.ok.inj hp
    exact ⟨rfl, _, _, hn, hat⟩
  | notRenamed =>
    obtain ⟨m, htemp⟩ := hs
    exact ⟨⟨m, _, _, htemp⟩, StoreStage.shown_error _⟩
  | discarded => exact hs.2.of_keepsServers hk
  | done => exact hs

/-- A server that a step puts into the directory is complete. -/
theorem at?_server (h : StoreMove c v data d portion s t s' t') (hs : s.Sound c v data d t)
    {n : Name} {node : Node} {w : Version} (hw : c.versionOf? n.bytes = some w)
    (hat : t'.at? (n :: d) = some node) :
    t.at? (n :: d) = some node ∨ w = v ∧ node = .file serverMode data := by
  rcases h.at?_new hdir hat with hold | ⟨m, hm, hhidden⟩ |
    ⟨l, p, m, mode, content, hl, hbytes, rfl, htemp, rfl⟩
  · exact Or.inl hold
  · obtain rfl := (List.cons.inj hm).1
    rw [hhidden] at hw
    simp at hw
  · obtain rfl := (List.cons.inj hl).1
    obtain ⟨m', htemp'⟩ := hs
    obtain ⟨-, rfl, rfl⟩ := htemp.unique htemp'
    rw [hbytes, Cache.versionOf?_fileName] at hw
    exact Or.inr ⟨(Option.some.inj hw).symm, rfl⟩

end StoreMove

/-! ## All calls -/

namespace Writers

/-- What is so after every turn, for calls that began on the tree `t`. -/
structure Sound (c : Cache) (d : Place) (t : FileTree) (calls : List (Version × Bytes))
    (s : Writers) : Prop where
  dir : s.tree.find c.dir = .ok (d, .dir)
  call : ∀ i : Nat, s.calls[i]?.map (fun w => (w.version, w.data)) = calls[i]?
  stage : ∀ {i : Nat} {w : Writer}, s.calls[i]? = some w →
    w.stage.Sound c w.version w.data d s.tree
  apart : ∀ {i j : Nat} {w w' : Writer}, s.calls[i]? = some w → s.calls[j]? = some w' → i ≠ j →
    ∀ p, w.stage.temporary? = some p → w'.stage.temporary? ≠ some p
  servers : ∀ {n : Name} {node : Node} {v : Version}, c.versionOf? n.bytes = some v →
    s.tree.at? (n :: d) = some node →
      t.at? (n :: d) = some node ∨ ∃ data, (v, data) ∈ calls ∧ node = .file serverMode data

variable {calls : List (Version × Bytes)} {s : Writers}

theorem sound_start (hdir : t.find c.dir = .ok (d, .dir)) (calls : List (Version × Bytes)) :
    (start t calls).Sound c d t calls where
  dir := hdir
  call i := by
    rw [start, List.getElem?_map, Option.map_map]
    exact Option.map_id'
  stage hw := by
    rw [start, List.getElem?_map] at hw
    obtain ⟨call, -, rfl⟩ := Option.map_eq_some_iff.mp hw
    trivial
  apart hw _ _ p hp := by
    rw [start, List.getElem?_map] at hw
    obtain ⟨call, -, rfl⟩ := Option.map_eq_some_iff.mp hw
    simp [StoreStage.temporary?] at hp
  servers _ hat := Or.inl hat

theorem getElem?_set_eq_some {ws : List Writer} {i j : Nat} {w w' : Writer}
    (h : (ws.set i w)[j]? = some w') : i = j ∧ w' = w ∨ i ≠ j ∧ ws[j]? = some w' := by
  rw [List.getElem?_set] at h
  by_cases hij : i = j
  · rw [if_pos hij] at h
    split at h
    case isTrue => exact Or.inl ⟨hij, (Option.some.inj h).symm⟩
    case isFalse => simp at h
  · exact Or.inr ⟨hij, by rwa [if_neg hij] at h⟩

/-- The temporary file of a call after a move is its old one, or was not there and so is nobody
else's. -/
theorem Sound.apart_of_move (h : s.Sound c d t calls) {i j : Nat} {w w' : Writer}
    (hw : s.calls[i]? = some w)
    (hmove : StoreMove c w.version w.data d portion w.stage s.tree s' t')
    (hw' : s.calls[j]? = some w') (hij : i ≠ j) :
    ∀ p, s'.temporary? = some p → w'.stage.temporary? ≠ some p := by
  intro p hp hp'
  rcases hmove.temporary?_new hp with hold | ⟨m, rfl, hnone⟩
  · exact h.apart hw hw' hij p hold hp'
  · obtain ⟨node, hnode⟩ := (h.stage hw').ready.exists_at? h.dir hp'
    simp [hnone] at hnode

/-- A step of one call leaves all of them sound. -/
theorem Sound.advance (hbin : '/' ∉ c.binaryName.toList) (h : s.Sound c d t calls) {i : Nat}
    {w : Writer} (hw : s.calls[i]? = some w)
    (hmove : StoreMove c w.version w.data d portion w.stage s.tree s' t') :
    Sound c d t calls ⟨t', s.calls.set i { w with stage := s' }⟩ := by
  have hready := (h.stage hw).ready
  have hdir' := find_dir_of_keeps h.dir (hmove.keeps h.dir)
  refine ⟨hdir', fun j => ?_, fun {j w'} hw' => ?_, fun {j k w₁ w₂} hw₁ hw₂ hjk => ?_,
    fun {n node v} hv hat => ?_⟩
  · rw [← h.call j, List.getElem?_set]
    by_cases hij : i = j
    · subst hij
      have hlt := (List.getElem?_eq_some_iff.mp hw).1
      rw [if_pos rfl, if_pos hlt, hw]
      rfl
    · rw [if_neg hij]
  · rcases getElem?_set_eq_some hw' with ⟨-, rfl⟩ | ⟨hij, hw'⟩
    · exact hmove.sound h.dir hbin (h.stage hw)
    · refine (h.stage hw').of_kept h.dir hdir' (fun m node hm hat => ?_)
        (hmove.keepsServers h.dir hready)
      rcases hmove.at?_old h.dir hat with hkept | ⟨m', hm', hown⟩
      · exact hkept
      · obtain rfl := (List.cons.inj hm').1
        exact absurd hm (h.apart hw hw' hij _ hown)
  · rcases getElem?_set_eq_some hw₁ with ⟨rfl, rfl⟩ | ⟨hij, hw₁⟩
    · rcases getElem?_set_eq_some hw₂ with ⟨hik, -⟩ | ⟨hik, hw₂⟩
      · exact absurd hik hjk
      · exact h.apart_of_move hw hmove hw₂ hik
    · rcases getElem?_set_eq_some hw₂ with ⟨rfl, rfl⟩ | ⟨hik, hw₂⟩
      · exact fun p hp hp' => h.apart_of_move hw hmove hw₁ hij p hp' hp
      · exact h.apart hw₁ hw₂ hjk
  · rcases hmove.at?_server h.dir (h.stage hw) hv hat with hold | ⟨rfl, rfl⟩
    · exact h.servers hv hold
    · refine Or.inr ⟨w.data, ?_, rfl⟩
      have hcall := h.call i
      rw [hw] at hcall
      exact List.mem_of_getElem? hcall.symm

theorem Sound.crash (h : s.Sound c d t calls) (i : Nat) :
    Sound c d t calls
      { s with calls := s.calls.modify i fun w => { w with crashed := true } } := by
  have hget : ∀ {j : Nat} {w' : Writer},
      (s.calls.modify i fun w => { w with crashed := true })[j]? = some w' →
        ∃ w, s.calls[j]? = some w ∧ w'.version = w.version ∧ w'.data = w.data ∧
          w'.stage = w.stage := by
    intro j w' hw'
    rw [List.getElem?_modify] at hw'
    obtain ⟨w, hw, rfl⟩ := Option.map_eq_some_iff.mp hw'
    refine ⟨w, hw, ?_⟩
    split <;> exact ⟨rfl, rfl, rfl⟩
  refine ⟨h.dir, fun j => ?_, fun {j w'} hw' => ?_, fun {j k w₁ w₂} hw₁ hw₂ hjk => ?_, h.servers⟩
  · rw [← h.call j, List.getElem?_modify]
    cases s.calls[j]? with
    | none => rfl
    | some w => by_cases hij : i = j <;> simp [hij]
  · obtain ⟨w, hw, hversion, hdata, hstage⟩ := hget hw'
    rw [hversion, hdata, hstage]
    exact h.stage hw
  · obtain ⟨w₁', hw₁', -, -, hstage₁⟩ := hget hw₁
    obtain ⟨w₂', hw₂', -, -, hstage₂⟩ := hget hw₂
    rw [hstage₁, hstage₂]
    exact h.apart hw₁' hw₂' hjk

/-- A turn leaves the calls sound, and the servers as they are. -/
theorem Sound.step (hbin : '/' ∉ c.binaryName.toList) (h : s.Sound c d t calls) (turn : Turn) :
    (s.step c turn).Sound c d t calls ∧ KeepsServers c d s.tree (s.step c turn).tree := by
  have hsame : KeepsServers c d s.tree s.tree := fun _ _ _ _ hat => hat
  cases turn with
  | crash i => exact ⟨h.crash i, hsame⟩
  | advance i suffix portion =>
    simp only [Writers.step]
    split
    case h_1 => exact ⟨h, hsame⟩
    case h_2 w hw =>
      split
      case isTrue => exact ⟨h, hsame⟩
      case isFalse =>
        have hready := (h.stage hw).ready
        have hmove := Cache.storeMove_storeStep h.dir hbin w.version w.data
          (fun _ => suffix.val) portion suffix.property hready
        exact ⟨h.advance hbin hw hmove, hmove.keepsServers h.dir hready⟩

/-- Every schedule leaves the calls sound, and the servers as they are. -/
theorem Sound.run (hbin : '/' ∉ c.binaryName.toList) (turns : List Turn) :
    ∀ {s : Writers}, s.Sound c d t calls →
      (s.run c turns).Sound c d t calls ∧ KeepsServers c d s.tree (s.run c turns).tree := by
  induction turns with
  | nil => exact fun h => ⟨h, fun _ _ _ _ hat => hat⟩
  | cons turn turns ih =>
    intro s h
    obtain ⟨hstep, hkept⟩ := h.step hbin turn
    obtain ⟨hrun, hkept'⟩ := ih hstep
    exact ⟨hrun, fun n node v hv hat => hkept' n node v hv (hkept n node v hv hat)⟩

/-- Whatever the schedule of stores in a directory, and whichever of them crash : a server that is
there is the one that was there at the start or a complete new one, it stays so whatever comes
after, and a store that gives back a path has a server there. -/
theorem servers_of_run (c : Cache) (d : Place) (t : FileTree) (calls : List (Version × Bytes))
    (hbin : '/' ∉ c.binaryName.toList) (hdir : t.find c.dir = .ok (d, .dir))
    (hfiles : ∀ n node v, c.versionOf? n.bytes = some v → t.at? (n :: d) = some node →
      ∃ mode content, node = .file mode content) (turns : List Turn) :
    let s := (start t calls).run c turns
    s.tree.find c.dir = .ok (d, .dir) ∧
      (∀ n node v, c.versionOf? n.bytes = some v → s.tree.at? (n :: d) = some node →
        (∃ mode content, node = .file mode content) ∧
          (t.at? (n :: d) = some node ∨
            ∃ data, (v, data) ∈ calls ∧ node = .file 0o755 data)) ∧
      (∀ n node v, c.versionOf? n.bytes = some v → s.tree.at? (n :: d) = some node →
        ∀ more : List Turn, (s.run c more).tree.at? (n :: d) = some node) ∧
      ∀ w p, w ∈ s.calls → w.stage = .done (.ok p) → p = c.pathFor w.version ∧
        ∃ n mode content, n.bytes = Utf8.encode (c.fileName w.version) ∧
          s.tree.at? (n :: d) = some (.file mode content) := by
  intro s
  have hs : s.Sound c d t calls := ((sound_start hdir calls).run hbin turns).1
  have hregular : ∀ n node v, c.versionOf? n.bytes = some v → s.tree.at? (n :: d) = some node →
      ∃ mode content, node = .file mode content := by
    intro n node v hv hat
    rcases hs.servers hv hat with hold | ⟨data, -, rfl⟩
    · exact hfiles n node v hv hold
    · exact ⟨serverMode, data, rfl⟩
  refine ⟨hs.dir, fun n node v hv hat => ⟨hregular n node v hv hat, hs.servers hv hat⟩, ?_, ?_⟩
  · intro n node v hv hat more
    exact (hs.run hbin more).2 n node v hv hat
  · intro w p hw hstage
    obtain ⟨i, hi⟩ := List.mem_iff_getElem?.mp hw
    have hsound := hs.stage hi
    rw [hstage] at hsound
    obtain ⟨hp, n, node, hn, hat⟩ := hsound p rfl
    obtain ⟨mode, content, rfl⟩ :=
      hregular n node w.version (hn ▸ c.versionOf?_fileName w.version) hat
    exact ⟨hp, n, mode, content, hn, hat⟩

/-- Two calls take turns, eight each. -/
def inTurn : List Turn :=
  (List.replicate 8 [.advance 0 ⟨"a", by decide⟩ 1, .advance 1 ⟨"b", by decide⟩ 1]).flatten

/-- Two stores of one version in turn : the first to rename its file has its bytes stay, also when
the other one crashes. -/
theorem server_of_inTurn :
    let s := (start (Cache.sampleTree [7]) [(⟨2, 0, 0⟩, [1]), (⟨2, 0, 0⟩, [2, 3])]).run
      Cache.sample inTurn
    '/' ∉ Cache.sample.binaryName.toList ∧
      (Cache.sampleTree [7]).find Cache.sample.dir = .ok (Cache.samplePlace, .dir) ∧
      (s.run Cache.sample [.crash 1]).tree.at?
        (⟨Utf8.encode "server.v2.0.0", by decide⟩ :: Cache.samplePlace) =
          some (.file 0o755 [1]) := by
  intro s
  have hdir : (Cache.sampleTree [7]).find Cache.sample.dir = .ok (Cache.samplePlace, .dir) := by
    decide +kernel
  have hentries : (Cache.sampleTree [7]).entries =
      [⟨[], ⟨Utf8.encode "bin", by decide⟩, .dir⟩,
        ⟨Cache.samplePlace, ⟨Utf8.encode "server.v1.0.0", by decide⟩, .file serverMode [7]⟩] := by
    decide +kernel
  have hfiles : ∀ n node v, Cache.sample.versionOf? n.bytes = some v →
      (Cache.sampleTree [7]).at? (n :: Cache.samplePlace) = some node →
        ∃ mode content, node = .file mode content := by
    intro n node v _ hat
    rw [← mem_entries_iff, hentries] at hat
    rcases List.mem_cons.mp hat with hbin | hserver
    · simp [Cache.samplePlace] at hbin
    · obtain ⟨-, -, rfl⟩ := Entry.mk.inj (List.mem_singleton.mp hserver)
      exact ⟨serverMode, [7], rfl⟩
  have hs : s.tree.at? (⟨Utf8.encode "server.v2.0.0", by decide⟩ :: Cache.samplePlace) =
      some (.file 0o755 [1]) := by decide +kernel
  obtain ⟨-, -, hstays, -⟩ := servers_of_run Cache.sample Cache.samplePlace (Cache.sampleTree [7])
    [(⟨2, 0, 0⟩, [1]), (⟨2, 0, 0⟩, [2, 3])] (by decide) hdir hfiles inTurn
  exact ⟨by decide, hdir, hstays _ _ ⟨2, 0, 0⟩ (by decide +kernel) hs [.crash 1]⟩

end Writers

end ServerLauncher
