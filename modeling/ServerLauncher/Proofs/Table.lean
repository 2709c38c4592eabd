import ServerLauncher.Proofs.Agreement
import ServerLauncher.Proofs.Components
import ServerLauncher.Proofs.Settling

/-!
# The cache as a table

A cache directory is a table with one row for each server in it : the name of the entry, the version
that the name stands for, and the content of the file (`Cache.table`). The calls of the cache answer
as that table does (`Table.Answers`) : a listing shows the rows, the newest server is a row with the
greatest version, and a store puts a row in if there is none of the name (`Table.put`). A call that
fails leaves the table as it was.

This holds over any run of calls (`Cache.runs_table`), if the entries that are named like a server
are files to begin with (`Cache.HoldsFiles`).
-/

namespace ServerLauncher

open FileTree

/-! ## Tables -/

/-- A server as a table holds it. -/
structure Row where
  name : Bytes
  version : Version
  content : Bytes
  deriving Repr, DecidableEq

/-- The server that a listing shows for a row. -/
def Row.server (c : Cache) (row : Row) : CachedServer :=
  ⟨row.version, c.dir.join ⟨row.name⟩⟩

namespace Table

variable {rows : List Row} {row row' : Row}

/-- Put a row into a table, unless there is one of its name. -/
def put (rows : List Row) (row : Row) : List Row :=
  if ∃ r ∈ rows, r.name = row.name then rows else rows ++ [row]

/-- In which order two rows are put in makes no difference for what is in the table. -/
theorem put_comm (hname : row.name ≠ row'.name) :
    (put (put rows row) row').Perm (put (put rows row') row) := by
  have hother : ∀ {row row' : Row}, row.name ≠ row'.name →
      ((∃ r ∈ rows ++ [row], r.name = row'.name) ↔ ∃ r ∈ rows, r.name = row'.name) := by
    intro row row' hname
    simp [or_and_right, exists_or, hname]
  by_cases h : ∃ r ∈ rows, r.name = row.name
  · by_cases h' : ∃ r ∈ rows, r.name = row'.name
    · simp [put, h, h']
    · simp [put, h, h']
  · by_cases h' : ∃ r ∈ rows, r.name = row'.name
    · simp [put, h, h']
    · simp only [put, h, h', hother hname, hother hname.symm, if_false, List.append_assoc]
      exact List.Perm.append_left rows (List.Perm.swap ..)

end Table

namespace Cache

/-! ## Calls -/

/-- A call of the cache. -/
inductive Call where
  | list
  | latest
  | pathFor (v : Version)
  | store (v : Version) (data : Bytes)
  deriving Repr, DecidableEq

/-- What a call of the cache gives back. -/
inductive Answer where
  | listed (result : Except CacheError (List CachedServer))
  | newest (result : Except CacheError (Option CachedServer))
  | path (p : Path)
  | stored (result : Except CacheError Path)
  deriving Repr, DecidableEq

/-- A call, with what it gives back and the tree that it leaves. -/
def call (c : Cache) (t : FileTree) : Call → Answer × FileTree
  | .list => (.listed (c.list.run t).result, (c.list.run t).tree)
  | .latest => (.newest (c.latest.run t).result, (c.latest.run t).tree)
  | .pathFor v => (.path (c.pathFor v), t)
  | .store v data => (.stored ((c.store v data).run t).result, ((c.store v data).run t).tree)

/-- The tree after calls, one after the other. -/
def after (c : Cache) (t : FileTree) (calls : List Call) : FileTree :=
  calls.foldl (fun t call => (c.call t call).2) t

/-- The row that a store puts in. -/
def row (c : Cache) (v : Version) (data : Bytes) : Row :=
  ⟨Utf8.encode (c.fileName v), v, data⟩

end Cache

/-- The answers that a table gives to the calls of the cache, and the table afterwards. A call may
fail, and then the table stays as it was. -/
inductive Table.Answers (c : Cache) (rows : List Row) : Cache.Call → Cache.Answer → List Row → Prop
  | list : Answers c rows .list (.listed (.ok (rows.map (Row.server c)))) rows
  | none (h : rows = []) : Answers c rows .latest (.newest (.ok none)) rows
  | latest {row} (hmem : row ∈ rows) (hmax : ∀ row' ∈ rows, ¬row.version.OlderThan row'.version) :
      Answers c rows .latest (.newest (.ok (some (row.server c)))) rows
  | pathFor {v} : Answers c rows (.pathFor v) (.path (c.pathFor v)) rows
  | store {v data} :
      Answers c rows (.store v data) (.stored (.ok (c.pathFor v))) (Table.put rows (c.row v data))
  | listFailed {e} : Answers c rows .list (.listed (.error e)) rows
  | latestFailed {e} : Answers c rows .latest (.newest (.error e)) rows
  | storeFailed {v data e} : Answers c rows (.store v data) (.stored (.error e)) rows

namespace Cache

variable {c : Cache} {v : Version} {data : Bytes} {d : Place} {t t' u : FileTree} {n m : Name}

/-! ## The table of a directory -/

/-- The row for an entry of the directory, if it is a server. An entry whose path is too long to be
walked is none. -/
def rowAt? (c : Cache) (t : FileTree) (n : Name) : Option Row :=
  match c.versionOf? n.bytes with
  | none => none
  | some v =>
    match t.find (c.dir.join ⟨n.bytes⟩) with
    | .ok (_, .file _ content) => some ⟨n.bytes, v, content⟩
    | _ => none

/-- The rows for the entries of the directory at `d`. -/
def rowsIn (c : Cache) (t : FileTree) (d : Place) : List Row :=
  (t.names d).filterMap (c.rowAt? t)

/-- The table that the cache directory is. If it is not there, the table is empty. -/
def table (c : Cache) (t : FileTree) : List Row :=
  match t.find c.dir with
  | .ok (d, .dir) => c.rowsIn t d
  | _ => []

/-- Each entry of the directory that is named like a server is a regular file, or a link that leads
to one. -/
def HoldsFiles (c : Cache) (t : FileTree) : Prop :=
  ∀ d, t.find c.dir = .ok (d, .dir) → ∀ n ∈ t.names d, c.versionOf? n.bytes ≠ none →
    (∃ mode content, t.at? (n :: d) = some (.file mode content)) ∨
      t.isFile (c.dir.join ⟨n.bytes⟩) = true

theorem table_of_find (hdir : t.find c.dir = .ok (d, .dir)) : c.table t = c.rowsIn t d := by
  rw [table, hdir]

theorem rowAt?_eq_some_iff {row : Row} : c.rowAt? t n = some row ↔
    c.versionOf? n.bytes = some row.version ∧ row.name = n.bytes ∧
      ∃ q mode, t.find (c.dir.join ⟨n.bytes⟩) = .ok (q, .file mode row.content) := by
  obtain ⟨name, v, content⟩ := row
  unfold rowAt?
  cases c.versionOf? n.bytes with
  | none => simp
  | some w =>
    rcases t.find (c.dir.join ⟨n.bytes⟩) with e | ⟨q, _ | ⟨mode, content'⟩ | target⟩
    · simp
    · simp
    · simp only [Option.some.injEq, Row.mk.injEq, Except.ok.injEq, Prod.mk.injEq, Node.file.injEq]
      constructor
      · rintro ⟨rfl, rfl, rfl⟩
        exact ⟨rfl, rfl, q, mode, rfl, rfl, rfl⟩
      · rintro ⟨rfl, rfl, -, -, -, -, rfl⟩
        exact ⟨rfl, rfl, rfl⟩
    · simp

theorem serverAt?_eq (c : Cache) (t : FileTree) (n : Name) :
    c.serverAt? t n = (c.rowAt? t n).map (Row.server c) := by
  unfold serverAt? rowAt?
  cases c.versionOf? n.bytes with
  | none => rfl
  | some v =>
    rcases hfind : t.find (c.dir.join ⟨n.bytes⟩) with e | ⟨q, _ | ⟨mode, content⟩ | target⟩ <;>
      simp [isFile, hfind, Row.server]

theorem serversIn_eq (c : Cache) (t : FileTree) (d : Place) :
    c.serversIn t d = (c.rowsIn t d).map (Row.server c) := by
  rw [serversIn, rowsIn, List.map_filterMap]
  exact List.filterMap_congr fun n _ => c.serverAt?_eq t n

theorem mem_rowsIn_iff {row : Row} : row ∈ c.rowsIn t d ↔
    ∃ n ∈ t.names d, c.versionOf? n.bytes = some row.version ∧ row.name = n.bytes ∧
      ∃ q mode, t.find (c.dir.join ⟨n.bytes⟩) = .ok (q, .file mode row.content) := by
  simp only [rowsIn, List.mem_filterMap, rowAt?_eq_some_iff]

/-- The name of a row says its version. -/
theorem versionOf?_of_row {row : Row} (hmem : row ∈ c.table t) :
    c.versionOf? row.name = some row.version := by
  unfold table at hmem
  split at hmem
  case h_1 =>
    obtain ⟨n, -, hv, hn, -⟩ := mem_rowsIn_iff.mp hmem
    rw [hn, hv]
  case h_2 => cases hmem

/-- No two entries of a directory have one name, and so no two rows. -/
theorem nodup_table (c : Cache) (t : FileTree) : ((c.table t).map Row.name).Nodup := by
  unfold table
  split
  case h_1 d hd =>
    rw [rowsIn, List.map_filterMap]
    refine (t.nodup_names d).filterMap fun n n' name h h' => ?_
    obtain ⟨row, hrow, rfl⟩ := Option.map_eq_some_iff.mp h
    obtain ⟨row', hrow', hname⟩ := Option.map_eq_some_iff.mp h'
    obtain ⟨-, hn, -⟩ := rowAt?_eq_some_iff.mp hrow
    obtain ⟨-, hn', -⟩ := rowAt?_eq_some_iff.mp hrow'
    exact Name.ext_bytes (by rw [← hn, ← hn', hname])
  case h_2 => exact List.nodup_nil

/-! ## Making the directory -/

/-- Making the directory changes nothing in the table. -/
theorem table_ensureDir (hup : [dot, dot] ∉ c.dir.components) (t : FileTree) :
    c.table (c.ensureDir.run t).tree = c.table t ∧
      (c.HoldsFiles t → c.HoldsFiles (c.ensureDir.run t).tree) := by
  rw [tree_ensureDir]
  have hsame : ∀ {d}, t.find c.dir = .ok (d, .dir) → (t.createDirs c.dir).1 = t :=
    fun hd => by rw [createDirs_of_find hd]
  by_cases hthere : ∃ d, t.find c.dir = .ok (d, .dir)
  · obtain ⟨d, hd⟩ := hthere
    rw [hsame hd]
    exact ⟨rfl, id⟩
  · have hempty : ∀ {d}, (t.createDirs c.dir).1.find c.dir = .ok (d, .dir) →
        (t.createDirs c.dir).1.names d = [] := by
      intro d hd
      refine (names_of_createDirs hup hd).resolve_left fun heq => ?_
      rw [heq] at hd
      exact hthere ⟨d, hd⟩
    have hnone : ∀ {t : FileTree}, (∀ d, t.find c.dir = .ok (d, .dir) → t.names d = []) →
        c.table t = [] := by
      intro t hnil
      unfold table
      split
      case h_1 d hd => rw [rowsIn, hnil d hd, List.filterMap_nil]
      case h_2 => rfl
    refine ⟨?_, fun _ d hd n hn => ?_⟩
    · rw [hnone fun d hd => hempty hd, hnone fun d hd => (hthere ⟨d, hd⟩).elim]
    · rw [hempty hd] at hn
      cases hn

/-! ## A server more -/

/-- What is added to a tree makes no difference for the rows that were there. -/
theorem rowAt?_of_extends (hdir : u.find c.dir = .ok (d, .dir)) (hfiles : c.HoldsFiles u)
    (hext : u.Extends t') (hn : n ∈ u.names d) : c.rowAt? t' n = c.rowAt? u n := by
  unfold rowAt?
  cases hv : c.versionOf? n.bytes with
  | none => rfl
  | some v =>
    have hfind : t'.find (c.dir.join ⟨n.bytes⟩) = u.find (c.dir.join ⟨n.bytes⟩) := by
      rcases hfiles d hdir n hn (by simp [hv]) with ⟨mode, content, hat⟩ | hfile
      · exact find_join_congr hdir (find_dir_of_keeps hdir hext.keeps) (by simp [hat])
          (by rw [hat, hext.at? _ _ hat])
      · obtain ⟨q, mode, content, hfind⟩ := isFile_eq_true_iff.mp hfile
        rw [hfind, find_of_extends hfind hext]
    simp only [hfind]

theorem names_add? {node : Node} (h : u.add? d n node = some t') :
    t'.names d = u.names d ++ [n] := by
  obtain ⟨-, hentries, -⟩ := add?_eq_some_iff.mp h
  simp [names, hentries]

/-- Where a walk to the path of an entry does not fail, a file there is found. -/
theorem find_join_of_walk {mode : Nat} {content : Bytes} {x : Spot}
    (hdir : u.find c.dir = .ok (d, .dir)) (hat : u.at? (n :: d) = some (.file mode content))
    (hx : u.walk false (c.dir.join ⟨n.bytes⟩) = .ok x) :
    u.find (c.dir.join ⟨n.bytes⟩) = .ok (n :: d, .file mode content) := by
  rw [find_eq_ok_iff, walk_true_join_of_file hdir hat, hx]
  obtain ⟨-, hlook⟩ := (walk_join_eq_ok_iff hdir).mp hx
  rw [lookUp, hat] at hlook
  split at hlook
  case isTrue => cases hlook
  case isFalse => rw [← Except.ok.inj hlook]

/-- An entry that is named like a server and can be walked to is one. -/
theorem exists_row (data : Bytes) (hdir : u.find c.dir = .ok (d, .dir)) (hfiles : c.HoldsFiles u)
    (hn : n.bytes = Utf8.encode (c.fileName v)) (hmem : n ∈ u.names d) {x : Spot}
    (hx : u.walk false (c.pathFor v) = .ok x) :
    u.isFile (c.pathFor v) = true ∧ ∃ row ∈ c.table u, row.name = (c.row v data).name := by
  have hpath : c.pathFor v = c.dir.join ⟨n.bytes⟩ := by rw [hn]; rfl
  have hv : c.versionOf? n.bytes = some v := by rw [hn, versionOf?_fileName]
  rw [hpath] at hx ⊢
  have hfile : u.isFile (c.dir.join ⟨n.bytes⟩) = true := by
    rcases hfiles d hdir n hmem (by simp [hv]) with ⟨mode, content, hat⟩ | hfile
    · exact isFile_eq_true_iff.mpr ⟨_, _, _, find_join_of_walk hdir hat hx⟩
    · exact hfile
  obtain ⟨q, mode, content, hfind⟩ := isFile_eq_true_iff.mp hfile
  refine ⟨hfile, ⟨n.bytes, v, content⟩, ?_, hn⟩
  rw [table_of_find hdir]
  exact mem_rowsIn_iff.mpr ⟨n, hmem, hv, rfl, q, mode, hfind⟩

/-- A store puts the row in, or fails and leaves the tree alone. -/
theorem table_of_stored {result : Except CacheError Path} (hdir : u.find c.dir = .ok (d, .dir))
    (hfiles : c.HoldsFiles u) (hbin : '/' ∉ c.binaryName.toList)
    (hstored : Stored c v data d u result t') (hsettled : Settled c v data u result t') :
    c.HoldsFiles t' ∧ ((∃ e, result = .error e ∧ t' = u) ∨
      result = .ok (c.pathFor v) ∧ c.table t' = Table.put (c.table u) (c.row v data)) := by
  cases hstored with
  | failed e => exact ⟨hfiles, Or.inl ⟨_, rfl, rfl⟩⟩
  | present hexists =>
    obtain ⟨n, hn, node, hat⟩ := exists_at?_of_exists? hdir hbin hexists
    obtain ⟨x, hx⟩ := hsettled.exists_walk
    have hmem := (mem_names n d).mpr ⟨node, hat⟩
    obtain ⟨-, hrow⟩ := exists_row data hdir hfiles hn hmem hx
    exact ⟨hfiles, Or.inr ⟨rfl, (if_pos hrow).symm⟩⟩
  | blocked hn hat hnot =>
    obtain ⟨x, hx⟩ := hsettled.exists_walk
    obtain ⟨hfile, -⟩ := exists_row data hdir hfiles hn ((mem_names _ d).mpr ⟨_, hat⟩) hx
    simp [exists?_of_isFile hfile] at hnot
  | @new n _ hn hfree hadd =>
    have hext := extends_of_add? hadd
    have hdir' := find_dir_of_keeps hdir hext.keeps
    have hnames := names_add? hadd
    have hat : t'.at? (n :: d) = some (.file serverMode data) := by rw [at?_add? hadd, if_pos rfl]
    have hv : c.versionOf? n.bytes = some v := by rw [hn, versionOf?_fileName]
    have hpath : c.pathFor v = c.dir.join ⟨n.bytes⟩ := by rw [hn]; rfl
    have hfind : t'.find (c.dir.join ⟨n.bytes⟩) = .ok (n :: d, .file serverMode data) := by
      rw [hpath] at hfree
      obtain ⟨hlong, hname, -⟩ := (walk_join_eq_free_iff hdir).mp hfree
      rw [find_eq_ok_iff, walk_true_join_of_file hdir' hat]
      exact (walk_join_eq_taken_iff hdir').mpr ⟨hlong, hname, hat⟩
    have hrow : c.rowAt? t' n = some (c.row v data) :=
      rowAt?_eq_some_iff.mpr ⟨hv, hn.symm, n :: d, serverMode, hfind⟩
    refine ⟨?_, Or.inr ⟨rfl, ?_⟩⟩
    · intro d' hd' m hm hversion
      obtain ⟨rfl, -⟩ := Prod.mk.inj (Except.ok.inj (hdir'.symm.trans hd'))
      rw [hnames, List.mem_append, List.mem_singleton] at hm
      rcases hm with hm | rfl
      · exact (hfiles d hdir m hm hversion).imp
          (fun ⟨mode, content, hat⟩ => ⟨mode, content, hext.at? _ _ hat⟩)
          fun hfile => isFile_of_extends hfile hext
      · exact Or.inl ⟨_, _, hat⟩
    · have hnew : ¬∃ row ∈ c.table u, row.name = (c.row v data).name := by
        rw [table_of_find hdir]
        rintro ⟨row, hmem, hname⟩
        obtain ⟨m, hm, -, hrow, -⟩ := mem_rowsIn_iff.mp hmem
        obtain rfl : m = n := Name.ext_bytes (by rw [← hrow, hname, hn]; rfl)
        obtain ⟨node, hnode⟩ := (mem_names m d).mp hm
        simp [(add?_eq_some_iff.mp hadd).1.2] at hnode
      rw [Table.put, if_neg hnew, table_of_find hdir, table_of_find hdir', rowsIn, hnames,
        List.filterMap_append, List.filterMap_cons_some hrow, rowsIn]
      congr 1
      exact List.filterMap_congr fun m hm => rowAt?_of_extends hdir hfiles hext hm

/-! ## One call -/

/-- Listing does to the table what making the directory does, that is nothing. -/
theorem table_list (hup : [dot, dot] ∉ c.dir.components) (t : FileTree) :
    c.table (c.list.run t).tree = c.table t ∧
      (c.HoldsFiles t → c.HoldsFiles (c.list.run t).tree) := by
  rw [tree_list]
  exact table_ensureDir hup t

/-- A listing shows the rows. -/
theorem listed_of_list (hup : [dot, dot] ∉ c.dir.components) {ss : List CachedServer}
    (h : (c.list.run t).result = .ok ss) : ss = (c.table t).map (Row.server c) := by
  obtain ⟨-, d, hd, rfl⟩ := result_list_eq_ok_iff.mp h
  rw [serversIn_eq, ← table_of_find hd, (table_list hup t).1]

theorem answers_list (hup : [dot, dot] ∉ c.dir.components) (t : FileTree) :
    Table.Answers c (c.table t) .list (.listed (c.list.run t).result) (c.table t) := by
  cases h : (c.list.run t).result with
  | error e => exact .listFailed
  | ok ss =>
    rw [listed_of_list hup h]
    exact .list

theorem answers_latest (hup : [dot, dot] ∉ c.dir.components) (t : FileTree) :
    Table.Answers c (c.table t) .latest (.newest (c.latest.run t).result) (c.table t) := by
  rw [(Resolver.latest_of_list c t).1]
  cases h : (c.list.run t).result with
  | error e => exact .latestFailed
  | ok ss =>
    have hss := listed_of_list hup h
    cases hs : newest? ss with
    | none =>
      have hnil := (Version.newestBy?_eq_none_iff CachedServer.version ss).mp hs
      simp only [Except.map, hs]
      refine .none (List.map_eq_nil_iff.mp (hss.symm.trans hnil))
    | some s =>
      obtain ⟨hmem, hmax⟩ := Version.newestBy?_spec hs
      rw [hss] at hmem hmax
      obtain ⟨row, hrow, rfl⟩ := List.mem_map.mp hmem
      simp only [Except.map, hs]
      exact .latest hrow fun row' hrow' => hmax _ (List.mem_map_of_mem hrow')

/-- A cache of a program without a slash in its name, in a directory with a name and no `..` in
it. -/
structure Plain (c : Cache) : Prop where
  binaryName : '/' ∉ c.binaryName.toList
  dir : c.dir.bytes ≠ []
  components : [dot, dot] ∉ c.dir.components

theorem answers_store (hplain : c.Plain) (hfiles : c.HoldsFiles t) (v : Version) (data : Bytes) :
    c.HoldsFiles ((c.store v data).run t).tree ∧
      Table.Answers c (c.table t) (.store v data) (.stored ((c.store v data).run t).result)
        (c.table ((c.store v data).run t).tree) := by
  obtain ⟨htable, hholds⟩ := table_ensureDir hplain.components t
  cases hens : (c.ensureDir.run t).result with
  | error e =>
    obtain ⟨hresult, htree⟩ := store_of_error v data hens
    rw [hresult, htree, htable]
    exact ⟨hholds hfiles, .storeFailed⟩
  | ok =>
    obtain ⟨d, hd⟩ := find_of_ensureDir hens hplain.dir
    obtain ⟨hresult, htree⟩ : _ = ((c.store v data).run _).result ∧ _ := store_of_ensureDir hens
    have hstored := stored_store hd hplain.binaryName v data
    rw [← hresult, ← htree] at hstored
    obtain ⟨hfiles', hrow⟩ := table_of_stored hd (hholds hfiles) hplain.binaryName hstored
      (settled_store v data hens)
    refine ⟨hfiles', ?_⟩
    rcases hrow with ⟨e, herror, hsame⟩ | ⟨hok, hput⟩
    · rw [herror, hsame, htable]
      exact .storeFailed
    · rw [hok, hput, htable]
      exact .store

/-- Whatever is called, the answer is one that the table gives, and the tree afterwards is the table
afterwards. -/
theorem answers_call (hplain : c.Plain) (hfiles : c.HoldsFiles t) (call : Call) :
    c.HoldsFiles (c.call t call).2 ∧
      Table.Answers c (c.table t) call (c.call t call).1 (c.table (c.call t call).2) := by
  obtain ⟨htable, hholds⟩ := table_list hplain.components t
  cases call with
  | list =>
    refine ⟨hholds hfiles, ?_⟩
    rw [call, htable]
    exact answers_list hplain.components t
  | latest =>
    have htree := (Resolver.latest_of_list c t).2
    rw [call, htree, htable]
    exact ⟨hholds hfiles, answers_latest hplain.components t⟩
  | pathFor v => exact ⟨hfiles, .pathFor⟩
  | store v data => exact answers_store hplain hfiles v data

/-- A row tells that there is a file at its path. -/
theorem exists?_of_row {row : Row} (hmem : row ∈ c.table t)
    (hname : row.name = (c.row v data).name) :
    ∃ d, t.find c.dir = .ok (d, .dir) ∧ t.exists? (c.pathFor v) = true := by
  unfold table at hmem
  split at hmem
  case h_1 d hd =>
    obtain ⟨n, -, -, hn, q, mode, hfind⟩ := mem_rowsIn_iff.mp hmem
    refine ⟨d, hd, ?_⟩
    rw [← hn, hname] at hfind
    rw [exists?, show c.pathFor v = c.dir.join ⟨(c.row v data).name⟩ from rfl, hfind]
  case h_2 => cases hmem

/-- A second store of a version does nothing, whatever it is given. -/
theorem store_again (hplain : c.Plain) (hfiles : c.HoldsFiles t) {p : Path} (data' : Bytes)
    (h : ((c.store v data).run t).result = .ok p) :
    let u := ((c.store v data).run t).tree
    ((c.store v data').run u).result = .ok p ∧ ((c.store v data').run u).tree = u := by
  intro u
  obtain rfl := path_of_store h
  have hanswer := (answers_store hplain hfiles v data).2
  rw [h] at hanswer
  obtain ⟨row, hmem, hname⟩ : ∃ row ∈ c.table u, row.name = (c.row v data).name := by
    generalize hrows : c.table ((c.store v data).run t).tree = rows at hanswer
    cases hanswer
    rw [Table.put]
    split
    case isTrue hold => exact hold
    case isFalse => exact ⟨c.row v data, by simp, rfl⟩
  obtain ⟨d, hd, hexists⟩ := exists?_of_row hmem hname
  have hens := run_ensureDir hd
  have hstore := store_of_exists? (v := v) data' (by rw [hens]) (by rwa [hens])
  rw [hens] at hstore
  exact hstore

/-! ## Runs of calls -/

/-- Calls one after the other, each with what it gives back. -/
def trace (c : Cache) (t : FileTree) : List Call → List (Call × Answer)
  | [] => []
  | call :: calls => (call, (c.call t call).1) :: c.trace (c.call t call).2 calls

end Cache

/-- A table gives these answers to these calls, one after the other, and becomes another. -/
inductive Table.Runs (c : Cache) : List Row → List (Cache.Call × Cache.Answer) → List Row → Prop
  | nil {rows} : Runs c rows [] rows
  | cons {rows rows' rows'' call answer rest} (h : Table.Answers c rows call answer rows')
      (hrest : Runs c rows' rest rows'') : Runs c rows ((call, answer) :: rest) rows''

namespace Cache

variable {c : Cache} {v : Version} {t : FileTree}

theorem runs_trace (hplain : c.Plain) (calls : List Call) : ∀ {t : FileTree}, c.HoldsFiles t →
    c.HoldsFiles (c.after t calls) ∧
      Table.Runs c (c.table t) (c.trace t calls) (c.table (c.after t calls)) := by
  induction calls with
  | nil => exact fun hfiles => ⟨hfiles, .nil⟩
  | cons call calls ih =>
    intro t hfiles
    obtain ⟨hfiles', hanswers⟩ := answers_call hplain hfiles call
    obtain ⟨hafter, hruns⟩ := ih hfiles'
    exact ⟨hafter, .cons hanswers hruns⟩

theorem row_name_ne {w : Version} (h : v ≠ w) (data data' : Bytes) :
    (c.row v data).name ≠ (c.row w data').name := by
  intro hname
  have hv := c.versionOf?_fileName v
  rw [show Utf8.encode (c.fileName v) = Utf8.encode (c.fileName w) from hname,
    versionOf?_fileName] at hv
  exact h (Option.some.inj hv).symm

/-- A cache is a table in which rows are only put, each name once. If the entries of its directory
that are named like a server are files to begin with, any run of calls is answered as the table
answers it, and leaves the table that the answers leave. Wherever a run has got to, no two rows have
one name, a second store of a version leaves the tree alone, and stores of different versions can
change places. -/
theorem runs_table (hplain : c.Plain) (hfiles : c.HoldsFiles t) (calls : List Call) :
    let u := c.after t calls
    Table.Runs c (c.table t) (c.trace t calls) (c.table u) ∧
    ((c.table u).map Row.name).Nodup ∧
    (∀ v data data' p, ((c.store v data).run u).result = .ok p →
      let w := ((c.store v data).run u).tree
      ((c.store v data').run w).result = .ok p ∧ ((c.store v data').run w).tree = w) ∧
    (∀ v w data data', v ≠ w →
      (Table.put (Table.put (c.table u) (c.row v data)) (c.row w data')).Perm
        (Table.put (Table.put (c.table u) (c.row w data')) (c.row v data))) := by
  intro u
  obtain ⟨hafter, hruns⟩ := runs_trace hplain calls hfiles
  exact ⟨hruns, c.nodup_table u, fun v data data' p h => store_again hplain hafter data' h,
    fun v w data data' hne => Table.put_comm (row_name_ne hne data data')⟩

/-- A store and a look for the newest : a table with one row becomes one with two. -/
theorem runs_sample :
    let t := sampleTree [7]
    let calls : List Call := [.store ⟨2, 0, 0⟩ [8], .latest]
    sample.Plain ∧ sample.HoldsFiles t ∧
      Table.Runs sample (sample.table t) (sample.trace t calls)
        (sample.table (sample.after t calls)) ∧
      sample.table t = [sample.row ⟨1, 0, 0⟩ [7]] ∧
      sample.trace t calls =
        [(.store ⟨2, 0, 0⟩ [8], .stored (.ok (.ofString "bin/server.v2.0.0"))),
          (.latest, .newest (.ok (some ⟨⟨2, 0, 0⟩, .ofString "bin/server.v2.0.0"⟩)))] ∧
      sample.table (sample.after t calls) =
        [sample.row ⟨1, 0, 0⟩ [7], sample.row ⟨2, 0, 0⟩ [8]] := by
  intro t calls
  have hplain : sample.Plain := ⟨by decide, by decide, by decide⟩
  have hfiles : sample.HoldsFiles t := by
    intro d hd n hn _
    have hdir : t.find sample.dir = .ok (samplePlace, .dir) := by decide +kernel
    obtain ⟨rfl, -⟩ := Prod.mk.inj (Except.ok.inj (hdir.symm.trans hd))
    have hall : ∀ n ∈ t.names samplePlace, t.isFile (sample.dir.join ⟨n.bytes⟩) = true := by
      decide +kernel
    exact Or.inr (hall n hn)
  obtain ⟨hruns, -⟩ := runs_table hplain hfiles calls
  exact ⟨hplain, hfiles, hruns, by decide +kernel, by decide +kernel, by decide +kernel⟩

end Cache

end ServerLauncher
