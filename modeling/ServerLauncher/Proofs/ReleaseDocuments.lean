import ServerLauncher.Release.Document
import ServerLauncher.Proofs.Records

/-!
# Release documents read back

A release is written as an object that holds its tag and its assets among other members, in
whatever order (`Release.IsWrittenAs`), and it is read back from the text as it was. Nothing else is
read from an object : its tag and its assets are there once each, and so are the name and the
address of each asset (`Release.IsGivenBy`).
-/

namespace ServerLauncher

open Json

variable {ms : List Member}

/-! ## Assets -/

namespace Asset

/-- The members are those of the asset and others of other keys, in any order. -/
def IsWrittenAs (a : Asset) (ms : List Member) : Prop :=
  ∃ others : List Member, (∀ m ∈ others, m.1 ≠ "name" ∧ m.1 ≠ "url") ∧
    ms.Perm (("name", .string a.name) :: ("url", .string a.url) :: others)

/-- The name and the address are there once each, and are strings. -/
structure IsGivenBy (a : Asset) (ms : List Member) : Prop where
  name : valuesOf "name" ms = [.string a.name]
  url : valuesOf "url" ms = [.string a.url]

theorem IsWrittenAs.isGivenBy {a : Asset} (h : a.IsWrittenAs ms) : a.IsGivenBy ms := by
  obtain ⟨others, hothers, hperm⟩ := h
  refine ⟨valuesOf_of_perm hperm ?_, valuesOf_of_perm (hperm.trans (.swap _ _ _)) ?_⟩
  · exact List.forall_mem_cons.mpr ⟨by simp, fun m hm => (hothers m hm).1⟩
  · exact List.forall_mem_cons.mpr ⟨by simp, fun m hm => (hothers m hm).2⟩

/-- The name of an asset, a string. -/
def nameSlot : Slot Parts :=
  Slot.text "name" Parts.name (fun s p => { p with name := some s }) fun _ _ => rfl

/-- The address from which an asset is downloaded, a string. -/
def urlSlot : Slot Parts :=
  Slot.text "url" Parts.url (fun s p => { p with url := some s }) fun _ _ => rfl

/-- Where an asset keeps its values. -/
def layout : Layout schema where
  slots := [nameSlot, urlSlot]
  fills := .cons (nameSlot.fills fun w v _ => reads_text "a string" w v)
    (.cons (urlSlot.fills fun w v _ => reads_text "a string" w v) .nil)
  nodup := by decide
  get_empty := by
    simp only [List.forall_mem_cons]
    exact ⟨rfl, rfl, nofun⟩
  get_put_of_ne := by
    simp only [List.forall_mem_cons]
    refine ⟨⟨?_, ?_, nofun⟩, ⟨?_, ?_, nofun⟩, nofun⟩ <;>
      first | exact fun _ _ _ => rfl | exact fun hne => absurd rfl hne
  ext p q h := by
    have hname : p.name = q.name := h nameSlot (by simp)
    have hurl : p.url = q.url := h urlSlot (by simp)
    cases p
    cases q
    simp_all

theorem ofObject_eq_ok_iff {p : Parts} {a : Asset} :
    schema.ofObject p = .ok a ↔ p.name = some a.name ∧ p.url = some a.url := by
  obtain ⟨name | name, url | url⟩ := p <;> obtain ⟨name', url'⟩ := a <;> simp [schema]

/-- A value fits an asset unless it is a list. -/
theorem layout_fits {v : Value} (h : ∀ us, v ≠ .list us) : layout.Fits v := by
  cases v with
  | list us => exact h us rfl
  | object ns =>
    simp only [Layout.Fits, Layout.FitsObject, layout, List.forall_mem_cons]
    exact ⟨fun _ _ => trivial, fun _ _ => trivial, nofun⟩
  | _ => trivial

/-- The asset that an object means is the one that its members give. -/
theorem decodeObject_eq_some_iff {a : Asset} :
    layout.decodeObject ms = some a ↔ a.IsGivenBy ms := by
  simp only [Layout.decodeObject_eq_some_iff, ofObject_eq_ok_iff, layout, List.forall_mem_cons]
  constructor
  · rintro ⟨p, ⟨hname, hurl⟩, hfillName, hfillUrl, -⟩
    exact ⟨Slot.fill_text_iff.mp (hfillName.trans (congrArg some hname)),
      Slot.fill_text_iff.mp (hfillUrl.trans (congrArg some hurl))⟩
  · rintro ⟨hname, hurl⟩
    exact ⟨⟨some a.name, some a.url⟩, ⟨rfl, rfl⟩, Slot.fill_text_iff.mpr hname,
      Slot.fill_text_iff.mpr hurl, nofun⟩

end Asset

/-! ## Releases -/

namespace Release

/-- The members are those of the release and others of other keys, in any order, and each asset is
written as an object in its turn. -/
def IsWrittenAs (r : Release) (ms : List Member) : Prop :=
  ∃ vs others, (∀ m ∈ others, m.1 ≠ "tag_name" ∧ m.1 ≠ "assets") ∧
    ms.Perm (("tag_name", .string r.tag) :: ("assets", .list vs) :: others) ∧
    List.Forall₂ (fun a v => ∃ ns, v = .object ns ∧ a.IsWrittenAs ns) r.assets vs

/-- The tag is there once and is a string, the assets are there once and are a list of objects that
give one asset each. -/
structure IsGivenBy (r : Release) (ms : List Member) : Prop where
  tag : valuesOf "tag_name" ms = [.string r.tag]
  assets : ∃ vs, valuesOf "assets" ms = [.list vs] ∧
    List.Forall₂ (fun a v => ∃ ns, v = .object ns ∧ a.IsGivenBy ns) r.assets vs

theorem IsWrittenAs.isGivenBy {r : Release} (h : r.IsWrittenAs ms) : r.IsGivenBy ms := by
  obtain ⟨vs, others, hothers, hperm, hassets⟩ := h
  refine ⟨valuesOf_of_perm hperm ?_, vs, valuesOf_of_perm (hperm.trans (.swap _ _ _)) ?_, ?_⟩
  · exact List.forall_mem_cons.mpr ⟨by simp, fun m hm => (hothers m hm).1⟩
  · exact List.forall_mem_cons.mpr ⟨by simp, fun m hm => (hothers m hm).2⟩
  · exact hassets.imp fun a v ⟨ns, hv, ha⟩ => ⟨ns, hv, ha.isGivenBy⟩

/-- No element of a list of assets is a list in its turn. -/
def FlatAssets (ms : List Member) : Prop :=
  ∀ vs, ("assets", .list vs) ∈ ms → ∀ v ∈ vs, ∀ us, v ≠ .list us

/-- The tag of a release, a string under `tag_name`. -/
def tagSlot : Slot Parts :=
  Slot.text "tag_name" Parts.tag (fun s p => { p with tag := some s }) fun _ _ => rfl

/-- The assets of a release, a list of objects. A value fits if no asset is written as a list of
its parts. -/
def assetsSlot : Slot Parts where
  key := "assets"
  Content := List Asset
  Fits v := ∀ vs, v = .list vs → ∀ u ∈ vs, Asset.layout.Fits u
  decode := Value.elements? Asset.layout.decode
  get := Parts.assets
  put as p := { p with assets := some as }
  get_put _ _ := rfl

/-- Where a release keeps its values. -/
def layout : Layout schema where
  slots := [tagSlot, assetsSlot]
  fills := .cons (tagSlot.fills fun w v _ => reads_text "a string" w v)
    (.cons (assetsSlot.fills fun w v h =>
      reads_elements fun vs hvs u hu => Layout.reads (h vs hvs u hu)) .nil)
  nodup := by decide
  get_empty := by
    simp only [List.forall_mem_cons]
    exact ⟨rfl, rfl, nofun⟩
  get_put_of_ne := by
    simp only [List.forall_mem_cons]
    refine ⟨⟨?_, ?_, nofun⟩, ⟨?_, ?_, nofun⟩, nofun⟩ <;>
      first | exact fun _ _ _ => rfl | exact fun hne => absurd rfl hne
  ext p q h := by
    have htag : p.tag = q.tag := h tagSlot (by simp)
    have hassets : p.assets = q.assets := h assetsSlot (by simp)
    cases p
    cases q
    simp_all

theorem ofObject_eq_ok_iff {p : Parts} {r : Release} :
    schema.ofObject p = .ok r ↔ p.tag = some r.tag ∧ p.assets = some r.assets := by
  obtain ⟨tag | tag, assets | assets⟩ := p <;> obtain ⟨tag', assets'⟩ := r <;> simp [schema]

theorem decode_asset_eq_some_iff {a : Asset} {v : Value} :
    Asset.layout.decode v = some a ↔ ∃ ns, v = .object ns ∧ a.IsGivenBy ns := by
  cases v <;> simp [Layout.decode, Asset.decodeObject_eq_some_iff]

theorem fill_assets_iff {vs : List Value} {as : List Asset} :
    assetsSlot.fill none vs = some (some as) ↔ ∃ us, vs = [.list us] ∧
      List.Forall₂ (fun a v => ∃ ns, v = .object ns ∧ a.IsGivenBy ns) as us := by
  have hlist : ∀ v : Value, v.elements? Asset.layout.decode = some as ↔ ∃ us, v = .list us ∧
      List.Forall₂ (fun a v => ∃ ns, v = .object ns ∧ a.IsGivenBy ns) as us := fun v => by
    cases v <;> simp [Value.elements?, mapM_eq_some_iff, decode_asset_eq_some_iff]
  refine (assetsSlot.fill_none_eq_some_some_iff).trans ⟨?_, ?_⟩
  · rintro ⟨v, rfl, hv⟩
    obtain ⟨us, rfl, hus⟩ := (hlist v).mp hv
    exact ⟨us, rfl, hus⟩
  · rintro ⟨us, rfl, hus⟩
    exact ⟨.list us, rfl, (hlist _).mpr ⟨us, rfl, hus⟩⟩

/-- The release that an object means is the one that its members give. -/
theorem decodeObject_eq_some_iff {r : Release} :
    layout.decodeObject ms = some r ↔ r.IsGivenBy ms := by
  simp only [Layout.decodeObject_eq_some_iff, ofObject_eq_ok_iff, layout, List.forall_mem_cons]
  constructor
  · rintro ⟨p, ⟨htag, hassets⟩, hfillTag, hfillAssets, -⟩
    exact ⟨Slot.fill_text_iff.mp (hfillTag.trans (congrArg some htag)),
      fill_assets_iff.mp (hfillAssets.trans (congrArg some hassets))⟩
  · rintro ⟨htag, hassets⟩
    exact ⟨⟨some r.tag, some r.assets⟩, ⟨rfl, rfl⟩, Slot.fill_text_iff.mpr htag,
      fill_assets_iff.mpr hassets, nofun⟩

theorem fits_of_flatAssets (h : FlatAssets ms) : layout.FitsObject ms := by
  simp only [Layout.FitsObject, layout, List.forall_mem_cons]
  refine ⟨fun _ _ => trivial, ?_, nofun⟩
  rintro v hv vs rfl u hu
  exact Asset.layout_fits (h vs hv u hu)

theorem ofDocument_eq_ok_iff (w : Escaping) (h : FlatAssets ms) {r : Release} :
    ofDocument ((Value.object ms).document w) = .ok r ↔ r.IsGivenBy ms := by
  have hreads := Layout.reads (w := w) (l := layout) (v := .object ms) (fits_of_flatAssets h)
  rw [ofDocument, readDocument_eq_ok_iff hreads, Layout.decode, decodeObject_eq_some_iff]

theorem IsGivenBy.flatAssets {r : Release} (h : r.IsGivenBy ms) : FlatAssets ms := by
  obtain ⟨us, hus, hassets⟩ := h.assets
  have hflip : List.Forall₂ (fun v _ => (∃ ns, v = Value.object ns) ∧ True) us r.assets :=
    (hassets.imp fun _ _ ⟨ns, hv, _⟩ => ⟨⟨ns, hv⟩, trivial⟩).flip
  have hobjects := ((List.forall₂_and_left _ _).mp hflip).1
  intro vs hvs v hv ws
  have hmem := mem_valuesOf.mpr hvs
  obtain rfl : vs = us := by simpa [hus] using hmem
  obtain ⟨ns, rfl⟩ := hobjects v hv
  exact nofun

/-- A release is read back from any text of it, and nothing else is read from an object. -/
theorem ofDocument_document (w : Escaping) (ms : List Member) :
    (∀ r : Release, r.IsWrittenAs ms → ofDocument ((Value.object ms).document w) = .ok r) ∧
      (FlatAssets ms → ∀ r : Release,
        ofDocument ((Value.object ms).document w) = .ok r ↔ r.IsGivenBy ms) :=
  ⟨fun _ hr => (ofDocument_eq_ok_iff w hr.isGivenBy.flatAssets).mpr hr.isGivenBy,
    fun hflat _ => ofDocument_eq_ok_iff w hflat⟩

/-- With other members and escapes, and with its members from back to front. -/
theorem ofDocument_document_backwards :
    ofDocument ((Value.object [("draft", .list [.bool false, .null]),
      ("assets", .list [.object [("size", .object []), ("url", .string "https://h/ä"),
        ("name", .string "a\"b\\\n")]]),
      ("tag_name", .string "v1.2.3")]).document (Escaping.keeping fun c => c.toNat < 0x80)) =
        .ok ⟨"v1.2.3", [⟨"a\"b\\\n", "https://h/ä"⟩]⟩ ∧
    ¬ ∃ r, ofDocument ((Value.object [("tag_name", .string "v1"), ("assets", .list []),
      ("tag_name", .string "v1")]).document (Escaping.keeping fun _ => true)) = .ok r := by
  constructor
  · refine (ofDocument_document _ _).1 ⟨"v1.2.3", [⟨"a\"b\\\n", "https://h/ä"⟩]⟩
      ⟨_, [("draft", .list [.bool false, .null])], by simp, List.reverse_perm [_, _, _], ?_⟩
    exact .cons ⟨_, rfl, [("size", .object [])], by simp, List.reverse_perm [_, _, _]⟩ .nil
  · rintro ⟨r, hr⟩
    have hgiven := ((ofDocument_document _ _).2 (by simp [FlatAssets]) r).mp hr
    exact absurd hgiven.tag (by simp [valuesOf])

end Release

end ServerLauncher
