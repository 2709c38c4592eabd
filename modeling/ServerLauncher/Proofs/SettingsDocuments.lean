import ServerLauncher.Settings.Document
import ServerLauncher.Proofs.Records

/-!
# Settings documents laid over the usual settings

An object is read as settings in which each field has the value of its own key, or the usual value
of that field if the key is not there (`Settings.Overlays`) ; the other members of the object make
no difference to it. Such settings are read from an object exactly if each known key is there once
at most, with a value of its kind (`Settings.Allowed`). Inside of `feed` it is the same.
-/

namespace ServerLauncher

open Json

variable {α σ : Type} {ms : List Member} {key : String}

/-! ## One field -/

namespace Json

/-- What the value of a key means, or the usual value if the key is not there. -/
def IsOverlay (key : String) (ms : List Member) (means : Value → α → Prop) (usual x : α) : Prop :=
  (valuesOf key ms = [] ∧ x = usual) ∨ ∃ v, valuesOf key ms = [v] ∧ means v x

/-- The key is there once at most, with a value of the kind. -/
structure AtMostOnce (key : String) (ms : List Member) (kind : Value → Prop) : Prop where
  once : (valuesOf key ms).length ≤ 1
  kind : ∀ v, (key, v) ∈ ms → kind v

/-- There is a value for the field if what is there for it can be understood. -/
theorem exists_isOverlay_iff {means : Value → α → Prop} {usual : α} :
    (∃ x, IsOverlay key ms means usual x) ↔ AtMostOnce key ms fun v => ∃ x, means v x := by
  constructor
  · rintro ⟨x, ⟨hnil, -⟩ | ⟨v, hone, hv⟩⟩
    · exact ⟨by simp [hnil], fun v hv => by simp [← mem_valuesOf, hnil] at hv⟩
    · refine ⟨by simp [hone], fun u hu => ?_⟩
      obtain rfl : u = v := by simpa [← mem_valuesOf, hone] using hu
      exact ⟨x, hv⟩
  · rintro ⟨honce, hkind⟩
    match h : valuesOf key ms with
    | [] => exact ⟨usual, .inl ⟨h, rfl⟩⟩
    | [v] =>
      obtain ⟨x, hx⟩ := hkind v (mem_valuesOf.mp (by simp [h]))
      exact ⟨x, .inr ⟨v, h, hx⟩⟩
    | _ :: _ :: _ => simp [h] at honce

/-- A slot with a usual value for when it is left empty. -/
theorem Slot.getD_fill_iff (slot : Slot σ) {means : Value → slot.Content → Prop}
    (h : ∀ v c, slot.decode v = some c ↔ means v c) {usual y : slot.Content} :
    (∃ x, slot.fill none (valuesOf slot.key ms) = some x ∧ x.getD usual = y) ↔
      IsOverlay slot.key ms means usual y := by
  simp only [fill_none_eq_some_iff]
  constructor
  · rintro ⟨x, ⟨hnil, rfl⟩ | ⟨v, c, hone, hv, rfl⟩, rfl⟩
    · exact .inl ⟨hnil, rfl⟩
    · exact .inr ⟨v, hone, (h v c).mp hv⟩
  · rintro (⟨hnil, rfl⟩ | ⟨v, hone, hv⟩)
    · exact ⟨none, .inl ⟨hnil, rfl⟩, rfl⟩
    · exact ⟨some y, .inr ⟨v, y, hone, (h v y).mpr hv, rfl⟩, rfl⟩

/-- The value is the string `s`. -/
def IsText (v : Value) (s : String) : Prop :=
  v = .string s

theorem decode_text_iff (v : Value) (s : String) : v.string? = some s ↔ IsText v s :=
  Value.string?_eq_some_iff

/-- The value is a string that spells the path. -/
def IsPath (v : Value) (p : Path) : Prop :=
  ∃ s, v = .string s ∧ p = Path.ofString s

/-- The value is `null`, for no path, or spells one. -/
def IsPath? (v : Value) (p : Option Path) : Prop :=
  (v = .null ∧ p = none) ∨ ∃ q, IsPath v q ∧ p = some q

end Json

/-! ## The feed -/

namespace FeedSettings

/-- Each field has the value of its key, or the usual one. -/
structure Overlays (f : FeedSettings) (ms : List Member) : Prop where
  apiUrl : IsOverlay "apiUrl" ms IsText standard.apiUrl f.apiUrl
  repoOwner : IsOverlay "repoOwner" ms IsText standard.repoOwner f.repoOwner
  repoName : IsOverlay "repoName" ms IsText standard.repoName f.repoName
  userAgent : IsOverlay "userAgent" ms IsText standard.userAgent f.userAgent

/-- The known keys are there once at most, with strings. -/
structure Allowed (ms : List Member) : Prop where
  apiUrl : AtMostOnce "apiUrl" ms fun v => ∃ s, v = .string s
  repoOwner : AtMostOnce "repoOwner" ms fun v => ∃ s, v = .string s
  repoName : AtMostOnce "repoName" ms fun v => ∃ s, v = .string s
  userAgent : AtMostOnce "userAgent" ms fun v => ∃ s, v = .string s

theorem exists_overlays_iff : (∃ f : FeedSettings, f.Overlays ms) ↔ Allowed ms := by
  constructor
  · rintro ⟨f, h⟩
    exact ⟨exists_isOverlay_iff.mp ⟨_, h.apiUrl⟩, exists_isOverlay_iff.mp ⟨_, h.repoOwner⟩,
      exists_isOverlay_iff.mp ⟨_, h.repoName⟩, exists_isOverlay_iff.mp ⟨_, h.userAgent⟩⟩
  · rintro ⟨hapiUrl, hrepoOwner, hrepoName, huserAgent⟩
    obtain ⟨apiUrl, hapiUrl⟩ := exists_isOverlay_iff.mpr hapiUrl
    obtain ⟨repoOwner, hrepoOwner⟩ := exists_isOverlay_iff.mpr hrepoOwner
    obtain ⟨repoName, hrepoName⟩ := exists_isOverlay_iff.mpr hrepoName
    obtain ⟨userAgent, huserAgent⟩ := exists_isOverlay_iff.mpr huserAgent
    exact ⟨⟨apiUrl, repoOwner, repoName, userAgent⟩, hapiUrl, hrepoOwner, hrepoName, huserAgent⟩

/-- The address of the web interface, a string. -/
def apiUrlSlot : Slot Parts :=
  Slot.text "apiUrl" Parts.apiUrl (fun s p => { p with apiUrl := some s }) fun _ _ => rfl

/-- Whose repository the releases are in, a string. -/
def repoOwnerSlot : Slot Parts :=
  Slot.text "repoOwner" Parts.repoOwner (fun s p => { p with repoOwner := some s }) fun _ _ => rfl

/-- The name of the repository with the releases, a string. -/
def repoNameSlot : Slot Parts :=
  Slot.text "repoName" Parts.repoName (fun s p => { p with repoName := some s }) fun _ _ => rfl

/-- What requests say of the one who asks, a string. -/
def userAgentSlot : Slot Parts :=
  Slot.text "userAgent" Parts.userAgent (fun s p => { p with userAgent := some s }) fun _ _ => rfl

/-- Where the feed's settings keep their values. -/
def layout : Layout schema where
  slots := [apiUrlSlot, repoOwnerSlot, repoNameSlot, userAgentSlot]
  fills :=
    .cons (apiUrlSlot.fills fun w v _ => reads_text "a string" w v) <|
    .cons (repoOwnerSlot.fills fun w v _ => reads_text "a string" w v) <|
    .cons (repoNameSlot.fills fun w v _ => reads_text "a string" w v) <|
    .cons (userAgentSlot.fills fun w v _ => reads_text "a string" w v) .nil
  nodup := by decide
  get_empty := by
    simp only [List.forall_mem_cons]
    exact ⟨rfl, rfl, rfl, rfl, nofun⟩
  get_put_of_ne := by
    simp only [List.forall_mem_cons]
    refine ⟨⟨?_, ?_, ?_, ?_, nofun⟩, ⟨?_, ?_, ?_, ?_, nofun⟩, ⟨?_, ?_, ?_, ?_, nofun⟩,
      ⟨?_, ?_, ?_, ?_, nofun⟩, nofun⟩ <;>
      first | exact fun _ _ _ => rfl | exact fun hne => absurd rfl hne
  ext p q h := by
    have hapiUrl : p.apiUrl = q.apiUrl := h apiUrlSlot (by simp)
    have hrepoOwner : p.repoOwner = q.repoOwner := h repoOwnerSlot (by simp)
    have hrepoName : p.repoName = q.repoName := h repoNameSlot (by simp)
    have huserAgent : p.userAgent = q.userAgent := h userAgentSlot (by simp)
    cases p
    cases q
    simp_all

/-- A value fits the feed's settings unless it is a list. -/
theorem layout_fits {v : Value} (h : ∀ us, v ≠ .list us) : layout.Fits v := by
  cases v with
  | list us => exact h us rfl
  | object ns =>
    simp only [Layout.Fits, Layout.FitsObject, layout, List.forall_mem_cons]
    exact ⟨fun _ _ => trivial, fun _ _ => trivial, fun _ _ => trivial, fun _ _ => trivial, nofun⟩
  | _ => trivial

/-- The settings that an object means are those that are laid over the usual ones. -/
theorem decodeObject_eq_some_iff {f : FeedSettings} :
    layout.decodeObject ms = some f ↔ f.Overlays ms := by
  simp only [Layout.decodeObject_eq_some_iff, layout, List.forall_mem_cons]
  constructor
  · rintro ⟨p, hp, h₁, h₂, h₃, h₄, -⟩
    obtain rfl : ofParts p = f := Except.ok.inj hp
    exact ⟨(apiUrlSlot.getD_fill_iff decode_text_iff).mp ⟨_, h₁, rfl⟩,
      (repoOwnerSlot.getD_fill_iff decode_text_iff).mp ⟨_, h₂, rfl⟩,
      (repoNameSlot.getD_fill_iff decode_text_iff).mp ⟨_, h₃, rfl⟩,
      (userAgentSlot.getD_fill_iff decode_text_iff).mp ⟨_, h₄, rfl⟩⟩
  · rintro ⟨h₁, h₂, h₃, h₄⟩
    obtain ⟨x₁, h₁, e₁⟩ := (apiUrlSlot.getD_fill_iff decode_text_iff).mpr h₁
    obtain ⟨x₂, h₂, e₂⟩ := (repoOwnerSlot.getD_fill_iff decode_text_iff).mpr h₂
    obtain ⟨x₃, h₃, e₃⟩ := (repoNameSlot.getD_fill_iff decode_text_iff).mpr h₃
    obtain ⟨x₄, h₄, e₄⟩ := (userAgentSlot.getD_fill_iff decode_text_iff).mpr h₄
    have hparts : ofParts ⟨x₁, x₂, x₃, x₄⟩ = f :=
      (FeedSettings.mk.injEq ..).mpr ⟨e₁, e₂, e₃, e₄⟩
    exact ⟨⟨x₁, x₂, x₃, x₄⟩, congrArg Except.ok hparts, h₁, h₂, h₃, h₄, nofun⟩

end FeedSettings

/-! ## Settings -/

namespace Settings

/-- Each field has the value of its key, or the usual one. -/
structure Overlays (s : Settings) (ms : List Member) : Prop where
  binaryName : IsOverlay "binaryName" ms IsText standard.binaryName s.binaryName
  cacheDir : IsOverlay "cacheDir" ms IsPath? standard.cacheDir s.cacheDir
  debugBinary : IsOverlay "debugBinary" ms IsPath standard.debugBinary s.debugBinary
  feed : IsOverlay "feed" ms (fun v f => ∃ fs, v = .object fs ∧ f.Overlays fs) standard.feed s.feed

/-- The known keys are there once at most, with values of their kinds. -/
structure Allowed (ms : List Member) : Prop where
  binaryName : AtMostOnce "binaryName" ms fun v => ∃ s, v = .string s
  cacheDir : AtMostOnce "cacheDir" ms fun v => v = .null ∨ ∃ s, v = .string s
  debugBinary : AtMostOnce "debugBinary" ms fun v => ∃ s, v = .string s
  feed : AtMostOnce "feed" ms fun v => ∃ fs, v = .object fs ∧ FeedSettings.Allowed fs

theorem exists_isPath_iff {v : Value} : (∃ p, IsPath v p) ↔ ∃ s, v = .string s := by
  simp [IsPath, exists_comm (α := Path)]

theorem exists_isPath?_iff {v : Value} :
    (∃ p, IsPath? v p) ↔ v = .null ∨ ∃ s, v = .string s := by
  rw [← exists_isPath_iff]
  simp [IsPath?, exists_or]

theorem exists_overlays_iff : (∃ s : Settings, s.Overlays ms) ↔ Allowed ms := by
  have hcacheDir : (∃ d, IsOverlay "cacheDir" ms IsPath? standard.cacheDir d) ↔
      AtMostOnce "cacheDir" ms fun v => v = .null ∨ ∃ s, v = .string s := by
    simp only [exists_isOverlay_iff, exists_isPath?_iff]
  have hdebugBinary : (∃ b, IsOverlay "debugBinary" ms IsPath standard.debugBinary b) ↔
      AtMostOnce "debugBinary" ms fun v => ∃ s, v = .string s := by
    simp only [exists_isOverlay_iff, exists_isPath_iff]
  have hfeed : (∃ f, IsOverlay "feed" ms (fun v f => ∃ fs, v = .object fs ∧ f.Overlays fs)
      standard.feed f) ↔
      AtMostOnce "feed" ms fun v => ∃ fs, v = .object fs ∧ FeedSettings.Allowed fs := by
    have hkind : ∀ v : Value, (∃ f : FeedSettings, ∃ fs, v = .object fs ∧ f.Overlays fs) ↔
        ∃ fs, v = .object fs ∧ FeedSettings.Allowed fs := fun v => by
      simp only [exists_comm (α := FeedSettings), exists_and_left,
        FeedSettings.exists_overlays_iff]
    simp only [exists_isOverlay_iff, hkind]
  constructor
  · rintro ⟨s, h⟩
    exact ⟨exists_isOverlay_iff.mp ⟨_, h.binaryName⟩, hcacheDir.mp ⟨_, h.cacheDir⟩,
      hdebugBinary.mp ⟨_, h.debugBinary⟩, hfeed.mp ⟨_, h.feed⟩⟩
  · rintro ⟨h₁, h₂, h₃, h₄⟩
    obtain ⟨binaryName, h₁⟩ := exists_isOverlay_iff.mpr h₁
    obtain ⟨cacheDir, h₂⟩ := hcacheDir.mpr h₂
    obtain ⟨debugBinary, h₃⟩ := hdebugBinary.mpr h₃
    obtain ⟨feed, h₄⟩ := hfeed.mpr h₄
    exact ⟨⟨binaryName, cacheDir, debugBinary, feed⟩, h₁, h₂, h₃, h₄⟩

/-- The name of the program, a string. -/
def binaryNameSlot : Slot Parts :=
  Slot.text "binaryName" Parts.binaryName (fun s p => { p with binaryName := some s })
    fun _ _ => rfl

/-- The directory of the cache, a string or `null` for none. Either fills the slot. -/
def cacheDirSlot : Slot Parts where
  key := "cacheDir"
  Content := Option Path
  Fits _ := True
  decode := Value.nullable? fun v => v.string?.map Path.ofString
  get := Parts.cacheDir
  put d p := { p with cacheDir := some d }
  get_put _ _ := rfl

/-- The server that is taken for debugging, a string. -/
def debugBinarySlot : Slot Parts where
  key := "debugBinary"
  Content := Path
  Fits _ := True
  decode v := v.string?.map Path.ofString
  get := Parts.debugBinary
  put b p := { p with debugBinary := some b }
  get_put _ _ := rfl

/-- The settings of the feed, an object that is read as a record of its own. -/
def feedSlot : Slot Parts where
  key := "feed"
  Content := FeedSettings
  Fits := FeedSettings.layout.Fits
  decode := FeedSettings.layout.decode
  get := Parts.feed
  put f p := { p with feed := some f }
  get_put _ _ := rfl

theorem reads_path (w : Escaping) (v : Value) :
    Reads readPath (v.text w) (v.string?.map Path.ofString) :=
  (reads_text "path string" w v).map Path.ofString

/-- Where the settings keep their values. -/
def layout : Layout schema where
  slots := [binaryNameSlot, cacheDirSlot, debugBinarySlot, feedSlot]
  fills :=
    .cons (binaryNameSlot.fills fun w v _ => reads_text "a string" w v) <|
    .cons (cacheDirSlot.fills fun w v _ => reads_nullable v (reads_path w v)) <|
    .cons (debugBinarySlot.fills fun w v _ => reads_path w v) <|
    .cons (feedSlot.fills fun _ _ hv => Layout.reads hv) .nil
  nodup := by decide
  get_empty := by
    simp only [List.forall_mem_cons]
    exact ⟨rfl, rfl, rfl, rfl, nofun⟩
  get_put_of_ne := by
    simp only [List.forall_mem_cons]
    refine ⟨⟨?_, ?_, ?_, ?_, nofun⟩, ⟨?_, ?_, ?_, ?_, nofun⟩, ⟨?_, ?_, ?_, ?_, nofun⟩,
      ⟨?_, ?_, ?_, ?_, nofun⟩, nofun⟩ <;>
      first | exact fun _ _ _ => rfl | exact fun hne => absurd rfl hne
  ext p q h := by
    have hbinaryName : p.binaryName = q.binaryName := h binaryNameSlot (by simp)
    have hcacheDir : p.cacheDir = q.cacheDir := h cacheDirSlot (by simp)
    have hdebugBinary : p.debugBinary = q.debugBinary := h debugBinarySlot (by simp)
    have hfeed : p.feed = q.feed := h feedSlot (by simp)
    cases p
    cases q
    simp_all

theorem decode_path_iff (v : Value) (p : Path) :
    v.string?.map Path.ofString = some p ↔ IsPath v p := by
  simp only [Option.map_eq_some_iff, Value.string?_eq_some_iff, IsPath, eq_comm (a := p)]

theorem decode_nullable_path_iff (v : Value) (p : Option Path) :
    (v.nullable? fun v => v.string?.map Path.ofString) = some p ↔ IsPath? v p := by
  cases v <;> simp [Value.nullable?, IsPath?, ← decode_path_iff, Value.string?, eq_comm]

theorem decode_feed_iff (v : Value) (f : FeedSettings) :
    FeedSettings.layout.decode v = some f ↔ ∃ fs, v = .object fs ∧ f.Overlays fs := by
  cases v <;> simp [Layout.decode, FeedSettings.decodeObject_eq_some_iff]

/-- The settings that an object means are those that are laid over the usual ones. -/
theorem decodeObject_eq_some_iff {s : Settings} :
    layout.decodeObject ms = some s ↔ s.Overlays ms := by
  simp only [Layout.decodeObject_eq_some_iff, layout, List.forall_mem_cons]
  constructor
  · rintro ⟨p, hp, h₁, h₂, h₃, h₄, -⟩
    obtain rfl : ofParts p = s := Except.ok.inj hp
    exact ⟨(binaryNameSlot.getD_fill_iff decode_text_iff).mp ⟨_, h₁, rfl⟩,
      (cacheDirSlot.getD_fill_iff decode_nullable_path_iff).mp ⟨_, h₂, rfl⟩,
      (debugBinarySlot.getD_fill_iff decode_path_iff).mp ⟨_, h₃, rfl⟩,
      (feedSlot.getD_fill_iff decode_feed_iff).mp ⟨_, h₄, rfl⟩⟩
  · rintro ⟨h₁, h₂, h₃, h₄⟩
    obtain ⟨x₁, h₁, e₁⟩ := (binaryNameSlot.getD_fill_iff decode_text_iff).mpr h₁
    obtain ⟨x₂, h₂, e₂⟩ := (cacheDirSlot.getD_fill_iff decode_nullable_path_iff).mpr h₂
    obtain ⟨x₃, h₃, e₃⟩ := (debugBinarySlot.getD_fill_iff decode_path_iff).mpr h₃
    obtain ⟨x₄, h₄, e₄⟩ := (feedSlot.getD_fill_iff decode_feed_iff).mpr h₄
    have hparts : ofParts ⟨x₁, x₂, x₃, x₄⟩ = s :=
      (Settings.mk.injEq ..).mpr ⟨e₁, e₂, e₃, e₄⟩
    exact ⟨⟨x₁, x₂, x₃, x₄⟩, congrArg Except.ok hparts, h₁, h₂, h₃, h₄, nofun⟩

theorem fits_of_feed (h : ∀ vs, ("feed", .list vs) ∉ ms) : layout.FitsObject ms := by
  simp only [Layout.FitsObject, layout, List.forall_mem_cons]
  refine ⟨fun _ _ => trivial, fun _ _ => trivial, fun _ _ => trivial, fun v hv => ?_, nofun⟩
  exact FeedSettings.layout_fits fun us hus => h us (hus ▸ hv)

/-- Settings are read from an object that allows them, and they are what the object lays over the
usual ones. -/
theorem ofDocument_overlays (w : Escaping) (ms : List Member) (h : ∀ vs, ("feed", .list vs) ∉ ms) :
    ((∃ s, ofDocument ((Value.object ms).document w) = .ok s) ↔ Allowed ms) ∧
      ∀ s, ofDocument ((Value.object ms).document w) = .ok s ↔ s.Overlays ms := by
  have hreads := Layout.reads (w := w) (l := layout) (v := .object ms) (fits_of_feed h)
  have hread : ∀ s, ofDocument ((Value.object ms).document w) = .ok s ↔ s.Overlays ms := fun s => by
    rw [ofDocument, readDocument_eq_ok_iff hreads, Layout.decode, decodeObject_eq_some_iff]
  exact ⟨by simp only [hread, exists_overlays_iff], hread⟩

/-- A name of its own and one field of the feed leave the other fields as they are, and so does a
key that is spelled otherwise ; a feed that is there twice is refused. -/
theorem ofDocument_overlays_partly :
    ofDocument ((Value.object [("binary_name", .bool true),
      ("feed", .object [("x", .list []), ("repoName", .string "mine")]), ("cacheDir", .null),
      ("binaryName", .string "srv")]).document (Escaping.keeping fun _ => true)) =
        .ok { Settings.standard with
          binaryName := "srv", feed := { FeedSettings.standard with repoName := "mine" } } ∧
    ¬ ∃ s, ofDocument ((Value.object [("feed", .object []), ("feed", .object [])]).document
      (Escaping.keeping fun _ => true)) = .ok s := by
  constructor
  · refine ((ofDocument_overlays _ _ (by simp)).2 _).mpr ⟨?_, ?_, ?_, ?_⟩
    · exact .inr ⟨_, rfl, rfl⟩
    · exact .inr ⟨_, rfl, .inl ⟨rfl, rfl⟩⟩
    · exact .inl ⟨rfl, rfl⟩
    · refine .inr ⟨_, rfl, _, rfl, ?_, ?_, ?_, ?_⟩
      · exact .inl ⟨rfl, rfl⟩
      · exact .inl ⟨rfl, rfl⟩
      · exact .inr ⟨_, rfl, rfl⟩
      · exact .inl ⟨rfl, rfl⟩
  · intro h
    have hallowed := ((ofDocument_overlays _ _ (by simp)).1).mp h
    exact absurd hallowed.feed.once (by simp [valuesOf])

end Settings

end ServerLauncher
