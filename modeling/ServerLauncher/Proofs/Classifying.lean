import ServerLauncher.Proofs.Messages
import ServerLauncher.Proofs.Refresh
import ServerLauncher.ReleaseApi

/-!
# How a feed on the web answers

A request for an address goes where redirects lead, and `Web.Ends` is the answer that it ends with.
`Web.Delivers` says that this is a success whose body came in full. On that alone depends what a
feed on the web makes of it (`ReleaseApi.Classified`) : a document that is delivered is a release or
malformed, a file that is delivered is taken as it is, and whatever else happens makes the release
or the file unavailable. `ReleaseApi.feed_classified` proves it for every web and all settings,
together with what the requests look like.
-/

namespace ServerLauncher

theorem Url.isHttp_of_request? {u v : Url} (hrequest : u.request? = some v) :
    v.isHttp = u.isHttp := by
  obtain ⟨-, heq⟩ := Option.ite_none_right_eq_some.mp hrequest
  obtain rfl := Option.some.inj heq
  rfl

/-- The body of an answer can be taken exactly where it is there. -/
theorem Fetched.body_eq_ok_iff {f : Fetched} {data : Bytes} :
    f.body = .ok data ↔ f.response.body = some data := by
  unfold body
  cases f.response.body <;> simp

/-- A success is a status of the two hundreds. -/
theorem isSuccess_iff {code : Nat} : isSuccess code = true ↔ 200 ≤ code ∧ code ≤ 299 := by
  simp [isSuccess]

/-! ## Where a request ends -/

namespace Web

open Response (Begins ofHead? Complete)

/-- From `u` on, at most `n` redirects lead to an answer with the head `h`, behind which `rest` is
sent, and this one leads nowhere else. -/
inductive Ends (web : Web) : Nat → Url → Head → Bytes → Prop
  | here {n : Nat} {u : Url} {bs rest : Bytes} {h : Head} {r : Response} (hurl : u.isHttp = true)
      (hsent : web u = some bs) (hbegins : Begins bs h rest) (hof : ofHead? h rest = some r)
      (hlast : nextUrl? u r = none) : Ends web n u h rest
  | redirect {n : Nat} {u v : Url} {bs rest rest' : Bytes} {h h' : Head} {r : Response}
      (hurl : u.isHttp = true) (hsent : web u = some bs) (hbegins : Begins bs h rest)
      (hof : ofHead? h rest = some r) (hnext : nextUrl? u r = some v)
      (hlater : Ends web n v h' rest') : Ends web (n + 1) u h' rest'

/-- A request for the address ends with a success, and `data` is the body, all of which came. -/
def Delivers (web : Web) (address : String) (data : Bytes) : Prop :=
  ∃ u v h rest, Url.parse? address = some u ∧ u.hasHost = true ∧
    u.withoutUser.request? = some v ∧ web.Ends maxRedirects v h rest ∧
    (200 ≤ h.status ∧ h.status ≤ 299) ∧ Complete h rest data

variable {web : Web} {header : Header} {start u v : Url} {n : Nat} {t : FileTree} {f : Fetched}
  {h : Head} {rest data : Bytes}

/-- An answer that a request ends with is where its redirects lead. -/
theorem ends_of_follow (hresult : ((web.follow header start n u).run t).result = .ok f) :
    ∃ h rest, web.Ends n u h rest ∧ ofHead? h rest = some f.response := by
  fun_induction Web.follow web header start n u with
  | case1 => cases hresult
  | case2 => cases hresult
  | case3 n u hurl bs hsent ih =>
    have hurl : u.isHttp = true := by simpa using hurl
    simp only [Act.run_bind, Act.emit] at hresult
    cases hread : Response.read? bs with
    | none => simp [hread, Act.run_pure] at hresult
    | some r =>
      obtain ⟨h, rest, hbegins, hof⟩ := Response.read?_eq_some_iff.mp hread
      specialize ih r
      simp only [hread] at hresult
      cases hnext : nextUrl? u r with
      | none =>
        simp only [hnext, Act.run_pure] at hresult
        obtain rfl := Except.ok.inj hresult
        exact ⟨h, rest, .here hurl hsent hbegins hof hnext, hof⟩
      | some v =>
        simp only [hnext] at ih hresult
        cases n with
        | zero => simp [Act.run_pure] at hresult
        | succ n =>
          obtain ⟨h', rest', hends, hof'⟩ := ih hresult
          exact ⟨h', rest', .redirect hurl hsent hbegins hof hnext hends, hof'⟩

/-- Where redirects lead to the last answer, a request gets it, whatever it says of itself. -/
theorem follow_of_ends (header : Header) (start : Url) (t : FileTree)
    (hends : web.Ends n u h rest) :
    ∃ f, ((web.follow header start n u).run t).result = .ok f ∧
      ofHead? h rest = some f.response := by
  induction hends with
  | @here n u bs rest h r hurl hsent hbegins hof hlast =>
    have hread := Response.read?_eq_some_iff.mpr ⟨h, rest, hbegins, hof⟩
    refine ⟨⟨u, r⟩, ?_, hof⟩
    unfold follow
    simp [hurl, hsent, hread, hlast, Act.run_bind, Act.emit, Act.run_pure]
  | @redirect n u v bs rest rest' h h' r hurl hsent hbegins hof hnext hlater ih =>
    have hread := Response.read?_eq_some_iff.mpr ⟨h, rest, hbegins, hof⟩
    obtain ⟨f, hresult, hof'⟩ := ih
    refine ⟨f, ?_, hof'⟩
    unfold follow
    simp [hurl, hsent, hread, hnext, Act.run_bind, Act.emit, hresult]

/-- A request fails before anything is sent, or it goes where redirects lead from its address. -/
theorem fetch_cases (web : Web) (header : Header) (address : String) :
    (∃ e, web.fetch header address = pure (.error e)) ∨
      ∃ u v, Url.parse? address = some u ∧ u.hasHost = true ∧ u.withoutUser.request? = some v ∧
        web.fetch header address = web.follow header u.withoutUser maxRedirects v := by
  unfold fetch
  split
  case h_1 => exact Or.inl ⟨_, rfl⟩
  case h_2 u hparse =>
    split
    case isTrue => exact Or.inl ⟨_, rfl⟩
    case isFalse hhost =>
      simp only
      split
      case h_1 v _ hrequest => exact Or.inr ⟨u, v, hparse, by simpa using hhost, hrequest, rfl⟩
      case h_2 => exact Or.inl ⟨_, rfl⟩

/-! ## Requests -/

/-- At most `n` requests, all of them for content and with what `header` says. -/
def Header.Sends (header : Header) (n : Nat) (rs : List Request) : Prop :=
  rs.length ≤ n ∧
    ∀ r ∈ rs, r.method = "GET" ∧ r.accept = header.accept ∧ r.userAgent = header.userAgent

theorem Header.sends_nil (header : Header) (n : Nat) : header.Sends n [] :=
  ⟨Nat.zero_le n, nofun⟩

theorem Header.Sends.cons {rs : List Request} {target : String} (hsends : header.Sends n rs) :
    header.Sends (n + 1) (⟨"GET", target, header.accept, header.userAgent⟩ :: rs) := by
  refine ⟨Nat.succ_le_succ hsends.1, fun r hr => ?_⟩
  rcases List.mem_cons.mp hr with rfl | hr
  · exact ⟨rfl, rfl, rfl⟩
  · exact hsends.2 r hr

/-- Each redirect costs one request, and so does the first address. -/
theorem sends_follow (web : Web) (header : Header) (start : Url) (n : Nat) (u : Url)
    (t : FileTree) :
    header.Sends (n + 1)
      (requests (((web.follow header start n u).run t).events.map Event.feed)) := by
  fun_induction Web.follow web header start n u with
  | case1 => exact header.sends_nil _
  | case2 => exact header.sends_nil _
  | case3 n u hurl bs hsent ih =>
    simp only [Act.run_bind, Act.emit, List.singleton_append, List.map_cons]
    refine Header.Sends.cons ?_
    cases hread : Response.read? bs with
    | none => exact header.sends_nil _
    | some r =>
      specialize ih r
      simp only
      cases hnext : nextUrl? u r with
      | none => exact header.sends_nil _
      | some v =>
        simp only [hnext] at ih ⊢
        cases n with
        | zero => exact header.sends_nil _
        | succ n => exact ih

theorem sends_fetch (web : Web) (header : Header) (address : String) (t : FileTree) :
    header.Sends (maxRedirects + 1)
      (requests (((web.fetch header address).run t).events.map Event.feed)) := by
  rcases web.fetch_cases header address with ⟨e, heq⟩ | ⟨u, v, -, -, -, heq⟩
  · rw [heq]
    exact header.sends_nil _
  · rw [heq]
    exact sends_follow web header _ _ v t

/-! ## Answers to requests -/

/-- What an address delivers is the body of a success with which a request for it ends. -/
theorem delivers_iff (header : Header) (t : FileTree) {address : String} :
    web.Delivers address data ↔
    ∃ f, ((web.fetch header address).run t).result = .ok f ∧
      isSuccess f.response.status = true ∧ f.body = .ok data := by
  constructor
  · rintro ⟨u, v, h, rest, hparse, hhost, hrequest, hends, hsuccess, hcomplete⟩
    obtain ⟨f, hresult, hof⟩ := follow_of_ends header u.withoutUser t hends
    refine ⟨f, ?_, ?_, ?_⟩
    · -- `fetch` looks at the scheme ahead of `follow`, which `Ends` does at every address
      have hhttp : u.withoutUser.isHttp = true := by
        rw [← Url.isHttp_of_request? hrequest]
        cases hends <;> assumption
      simp [fetch, hparse, hhost, hhttp, hrequest, hresult]
    · rw [Response.status_of_ofHead? hof]
      exact isSuccess_iff.mpr hsuccess
    · exact Fetched.body_eq_ok_iff.mpr ((Response.body_eq_some_iff hof).mpr hcomplete)
  · rintro ⟨f, hresult, hsuccess, hbody⟩
    rcases web.fetch_cases header address with ⟨e, heq⟩ | ⟨u, v, hparse, hhost, hrequest, heq⟩
    · rw [heq] at hresult
      cases hresult
    · rw [heq] at hresult
      obtain ⟨h, rest, hends, hof⟩ := ends_of_follow hresult
      rw [Response.status_of_ofHead? hof] at hsuccess
      exact ⟨u, v, h, rest, hparse, hhost, hrequest, hends, isSuccess_iff.mp hsuccess,
        (Response.body_eq_some_iff hof).mp (Fetched.body_eq_ok_iff.mp hbody)⟩

/-- No address delivers two bodies. -/
theorem delivers_unique {address : String} {data' : Bytes} (h : web.Delivers address data)
    (h' : web.Delivers address data') : data = data' := by
  obtain ⟨f, hresult, -, hbody⟩ := (delivers_iff ⟨"", []⟩ FileTree.empty).mp h
  obtain ⟨f', hresult', -, hbody'⟩ := (delivers_iff ⟨"", []⟩ FileTree.empty).mp h'
  obtain rfl := Except.ok.inj (hresult.symm.trans hresult')
  exact Except.ok.inj (hbody.symm.trans hbody')

/-- What holds of some body that an address delivers holds of the one that it delivers. -/
theorem exists_delivers_iff {address : String} {p : Bytes → Prop}
    (h : web.Delivers address data) :
    (∃ data, web.Delivers address data ∧ p data) ↔ p data :=
  ⟨fun ⟨_, h', hp⟩ => delivers_unique h' h ▸ hp, fun hp => ⟨data, h, hp⟩⟩

/-- Where an address delivers nothing, a request for it gets no answer, or one that is no success,
or one whose body is missing. -/
theorem fetch_of_not_delivers {address : String} (hnone : ¬∃ data, web.Delivers address data)
    (header : Header) (t : FileTree) :
    (∃ e, ((web.fetch header address).run t).result = .error e) ∨
      ∃ f, ((web.fetch header address).run t).result = .ok f ∧
        (isSuccess f.response.status = false ∨
          isSuccess f.response.status = true ∧ ∃ e, f.body = .error e) := by
  cases hresult : ((web.fetch header address).run t).result with
  | error e => exact Or.inl ⟨e, rfl⟩
  | ok f =>
    refine Or.inr ⟨f, rfl, ?_⟩
    cases hsuccess : isSuccess f.response.status with
    | false => exact Or.inl rfl
    | true =>
      refine Or.inr ⟨rfl, ?_⟩
      cases hbody : f.body with
      | error e => exact ⟨e, rfl⟩
      | ok data =>
        exact absurd ⟨data, (delivers_iff header t).mpr ⟨f, hresult, hsuccess, hbody⟩⟩ hnone

end Web

/-! ## Answers of the feed -/

namespace ReleaseApi

variable {web : Web} {s : FeedSettings} {feed : Feed} {userAgent data : Bytes} {url : String}
  {a : Asset} {t : FileTree}

/-- What a release document that came in full is taken for. -/
def resultOf (data : Bytes) : Except (Halt FeedError) Release :=
  match Release.ofDocument (Utf8.decodeLossy data) with
  | .ok rel => .ok rel
  | .error f => .error (.error (.malformed (f.message (Utf8.decodeLossy data))))

theorem result_readDocument (data : Bytes) (t : FileTree) :
    ((readDocument data).run t).result = resultOf data := by
  simp only [readDocument, resultOf]
  cases Release.ofDocument (Utf8.decodeLossy data) <;> rfl

/-- Where a document is delivered, the feed answers with what it is taken for. -/
theorem fetchLatest_of_delivers (userAgent : Bytes) (t : FileTree) (h : web.Delivers url data) :
    ((fetchLatest web userAgent url).run t).result = resultOf data := by
  obtain ⟨f, hresult, hsuccess, hbody⟩ := (Web.delivers_iff ⟨documentType, userAgent⟩ t).mp h
  simp only [fetchLatest, Act.run_bind, Act.feedLog, Act.emit, hresult, hsuccess, hbody, if_true]
  exact result_readDocument data _

/-- Where none is, the release is unavailable. -/
theorem fetchLatest_of_not_delivers (userAgent : Bytes) (t : FileTree)
    (h : ¬∃ data, web.Delivers url data) :
    ∃ reason, ((fetchLatest web userAgent url).run t).result =
      .error (.error (.unavailable reason)) := by
  simp only [fetchLatest, Act.run_bind, Act.feedLog, Act.emit]
  rcases Web.fetch_of_not_delivers h ⟨documentType, userAgent⟩ t with
    ⟨e, hresult⟩ | ⟨f, hresult, hsuccess | ⟨hsuccess, e, hbody⟩⟩
  · exact ⟨_, by simp only [hresult]; rfl⟩
  · exact ⟨_, by simp only [hresult, hsuccess]; rfl⟩
  · exact ⟨_, by simp only [hresult, hsuccess, hbody]; rfl⟩

/-- A file that is delivered is taken as it is. -/
theorem fetchContent_of_delivers (userAgent : Bytes) (t : FileTree) (h : web.Delivers a.url data) :
    ((fetchContent web userAgent a).run t).result = .ok data := by
  obtain ⟨f, hresult, hsuccess, hbody⟩ := (Web.delivers_iff ⟨contentType, userAgent⟩ t).mp h
  simp only [fetchContent, Act.run_bind, Act.feedLog, Act.emit, hresult, hsuccess, hbody]
  rfl

/-- One that is not is unavailable, under its own name. -/
theorem fetchContent_of_not_delivers (userAgent : Bytes) (t : FileTree)
    (h : ¬∃ data, web.Delivers a.url data) :
    ∃ reason, ((fetchContent web userAgent a).run t).result =
      .error (.error (.assetUnavailable a.name reason)) := by
  simp only [fetchContent, Act.run_bind, Act.feedLog, Act.emit]
  rcases Web.fetch_of_not_delivers h ⟨contentType, userAgent⟩ t with
    ⟨e, hresult⟩ | ⟨f, hresult, hsuccess | ⟨hsuccess, e, hbody⟩⟩
  · exact ⟨_, by simp only [hresult]; rfl⟩
  · exact ⟨_, by simp only [hresult, hsuccess]; rfl⟩
  · exact ⟨_, by simp only [hresult, hsuccess, hbody]; rfl⟩

/-! ## Which answer it is -/

theorem resultOf_eq_ok_iff {rel : Release} :
    resultOf data = .ok rel ↔ Release.ofDocument (Utf8.decodeLossy data) = .ok rel := by
  unfold resultOf
  cases Release.ofDocument (Utf8.decodeLossy data) <;> simp

theorem resultOf_eq_malformed_iff {reason : String} :
    resultOf data = .error (.error (.malformed reason)) ↔
      ∃ f, Release.ofDocument (Utf8.decodeLossy data) = .error f ∧
        reason = f.message (Utf8.decodeLossy data) := by
  unfold resultOf
  cases Release.ofDocument (Utf8.decodeLossy data) <;> simp [eq_comm]

/-- A document in full is a release or malformed, and nothing else. -/
theorem resultOf_ok_or_malformed (data : Bytes) :
    (∃ rel, resultOf data = .ok rel) ∨
      ∃ reason, resultOf data = .error (.error (.malformed reason)) := by
  unfold resultOf
  cases Release.ofDocument (Utf8.decodeLossy data) with
  | ok rel => exact Or.inl ⟨rel, rfl⟩
  | error f => exact Or.inr ⟨_, rfl⟩

/-- A release is given exactly where a document is delivered that describes it. -/
theorem fetchLatest_eq_ok_iff {rel : Release} :
    ((fetchLatest web userAgent url).run t).result = .ok rel ↔
      ∃ data, web.Delivers url data ∧ Release.ofDocument (Utf8.decodeLossy data) = .ok rel := by
  by_cases h : ∃ data, web.Delivers url data
  · obtain ⟨data, hdata⟩ := h
    rw [fetchLatest_of_delivers userAgent t hdata, Web.exists_delivers_iff hdata,
      resultOf_eq_ok_iff]
  · obtain ⟨reason, hresult⟩ := fetchLatest_of_not_delivers userAgent t h
    rw [hresult]
    exact ⟨nofun, fun ⟨data, hdata, _⟩ => absurd ⟨data, hdata⟩ h⟩

/-- A release is malformed exactly where a document is delivered that describes none. -/
theorem fetchLatest_eq_malformed_iff {reason : String} :
    ((fetchLatest web userAgent url).run t).result = .error (.error (.malformed reason)) ↔
      ∃ data, web.Delivers url data ∧ ∃ f,
        Release.ofDocument (Utf8.decodeLossy data) = .error f ∧
          reason = f.message (Utf8.decodeLossy data) := by
  by_cases h : ∃ data, web.Delivers url data
  · obtain ⟨data, hdata⟩ := h
    rw [fetchLatest_of_delivers userAgent t hdata, Web.exists_delivers_iff hdata,
      resultOf_eq_malformed_iff]
  · obtain ⟨reason', hresult⟩ := fetchLatest_of_not_delivers userAgent t h
    rw [hresult]
    exact ⟨nofun, fun ⟨data, hdata, _⟩ => absurd ⟨data, hdata⟩ h⟩

/-- A release is unavailable exactly where nothing is delivered. -/
theorem fetchLatest_unavailable_iff :
    (∃ reason, ((fetchLatest web userAgent url).run t).result =
      .error (.error (.unavailable reason))) ↔ ¬∃ data, web.Delivers url data := by
  refine ⟨fun ⟨reason, hresult⟩ ⟨data, hdata⟩ => ?_, fetchLatest_of_not_delivers userAgent t⟩
  rw [fetchLatest_of_delivers userAgent t hdata] at hresult
  rcases resultOf_ok_or_malformed data with ⟨rel, h⟩ | ⟨reason', h⟩ <;> rw [h] at hresult <;>
    cases hresult

theorem fetchLatest_ne_assetUnavailable {name reason : String} :
    ((fetchLatest web userAgent url).run t).result ≠
      .error (.error (.assetUnavailable name reason)) := by
  intro hresult
  by_cases h : ∃ data, web.Delivers url data
  · obtain ⟨data, hdata⟩ := h
    rw [fetchLatest_of_delivers userAgent t hdata] at hresult
    rcases resultOf_ok_or_malformed data with ⟨rel, h⟩ | ⟨reason', h⟩ <;> rw [h] at hresult <;>
      cases hresult
  · obtain ⟨reason', hresult'⟩ := fetchLatest_of_not_delivers userAgent t h
    rw [hresult'] at hresult
    cases hresult

/-- A file is given exactly where it is delivered. -/
theorem fetchContent_eq_ok_iff :
    ((fetchContent web userAgent a).run t).result = .ok data ↔ web.Delivers a.url data := by
  refine ⟨fun hresult => ?_, fetchContent_of_delivers userAgent t⟩
  by_cases h : ∃ data, web.Delivers a.url data
  · obtain ⟨data', hdata⟩ := h
    rw [fetchContent_of_delivers userAgent t hdata] at hresult
    exact Except.ok.inj hresult ▸ hdata
  · obtain ⟨reason, hresult'⟩ := fetchContent_of_not_delivers userAgent t h
    rw [hresult'] at hresult
    cases hresult

/-- A file is unavailable exactly where nothing is delivered for it. -/
theorem fetchContent_unavailable_iff :
    (∃ reason, ((fetchContent web userAgent a).run t).result =
      .error (.error (.assetUnavailable a.name reason))) ↔
        ¬∃ data, web.Delivers a.url data := by
  refine ⟨fun ⟨reason, hresult⟩ ⟨data, hdata⟩ => ?_, fetchContent_of_not_delivers userAgent t⟩
  rw [fetchContent_of_delivers userAgent t hdata] at hresult
  cases hresult

/-! ## Requests of the feed -/

theorem requests_append (es es' : List Event) :
    requests (es ++ es') = requests es ++ requests es' :=
  List.filterMap_append

theorem requests_askLatest (f : Feed) (t : FileTree) :
    requests (f.askLatest.run t).events = requests ((f.latest.run t).events.map Event.feed) :=
  rfl

theorem requests_askContent (f : Feed) (a : Asset) (t : FileTree) :
    requests ((f.askContent a).run t).events =
      requests (((f.content a).run t).events.map Event.feed) :=
  rfl

theorem requests_log (r : LogRecord) : requests ([FeedEvent.log r].map Event.feed) = [] :=
  rfl

theorem requests_readDocument (data : Bytes) (t : FileTree) :
    requests (((readDocument data).run t).events.map Event.feed) = [] := by
  simp only [readDocument]
  cases Release.ofDocument (Utf8.decodeLossy data) <;> rfl

/-- To ask for a release is one request and what it leads to. -/
theorem requests_fetchLatest (web : Web) (userAgent : Bytes) (url : String) (t : FileTree) :
    requests (((fetchLatest web userAgent url).run t).events.map Event.feed) =
      requests (((web.fetch ⟨documentType, userAgent⟩ url).run t).events.map Event.feed) := by
  simp only [fetchLatest, Act.run_bind, Act.feedLog, Act.emit, List.map_append, requests_append,
    requests_log, List.nil_append]
  refine List.append_right_eq_self.mpr ?_
  cases ((web.fetch ⟨documentType, userAgent⟩ url).run t).result with
  | error e => rfl
  | ok f =>
    simp only
    split
    case isFalse => rfl
    case isTrue =>
      cases f.body with
      | error e => rfl
      | ok data => exact requests_readDocument data _

/-- So is a download. -/
theorem requests_fetchContent (web : Web) (userAgent : Bytes) (a : Asset) (t : FileTree) :
    requests (((fetchContent web userAgent a).run t).events.map Event.feed) =
      requests (((web.fetch ⟨contentType, userAgent⟩ a.url).run t).events.map Event.feed) := by
  simp only [fetchContent, Act.run_bind, Act.feedLog, Act.emit, List.map_append, requests_append,
    requests_log, List.nil_append]
  refine List.append_right_eq_self.mpr ?_
  cases ((web.fetch ⟨contentType, userAgent⟩ a.url).run t).result with
  | error e => rfl
  | ok f =>
    simp only
    split
    case isFalse => rfl
    case isTrue => cases f.body <;> rfl

/-! ## User agents and addresses -/

/-- A character that no header can have : a control character of ASCII, the tab apart. -/
def IsBarred (c : Char) : Prop :=
  c.toNat < 0x20 ∧ c.toNat ≠ 0x09 ∨ c.toNat = 0x7f

instance : DecidablePred IsBarred := fun c =>
  inferInstanceAs (Decidable (c.toNat < 0x20 ∧ c.toNat ≠ 0x09 ∨ c.toNat = 0x7f))

theorem isHeaderByte_eq_false_iff {b : UInt8} :
    isHeaderByte b = false ↔ b.toNat < 0x20 ∧ b.toNat ≠ 0x09 ∨ b.toNat = 0x7f := by
  simp [isHeaderByte, ← UInt8.toNat_inj, UInt8.le_iff_toNat_le]
  omega

/-- A text cannot stand in a header exactly if one of its characters cannot. -/
theorem all_isHeaderByte_eq_false_iff {text : String} :
    (Utf8.encode text).all isHeaderByte = false ↔ ∃ c ∈ text.toList, IsBarred c := by
  rw [List.all_eq_false]
  constructor
  · rintro ⟨b, hb, hbarred⟩
    have hbarred := isHeaderByte_eq_false_iff.mp (Bool.eq_false_iff.mpr hbarred)
    obtain ⟨c, hc, hmem⟩ := List.mem_flatMap.mp hb
    refine ⟨c, hc, ?_⟩
    by_cases hlow : c.toNat < 0x80
    · rw [Utf8.encodeChar_one hlow, List.mem_singleton] at hmem
      rw [hmem, Utf8.toNat_ofNat_of_lt (by omega)] at hbarred
      exact hbarred
    · have hle := Utf8.le_of_mem_encodeChar (Nat.not_lt.mp hlow) hmem
      omega
  · rintro ⟨c, hc, hbarred⟩
    have hlow : c.toNat < 0x80 := by rcases hbarred with h | h <;> omega
    refine ⟨_, (Utf8.mem_encode_iff hlow).mpr hc, ?_⟩
    rw [Bool.not_eq_true, isHeaderByte_eq_false_iff, Utf8.toNat_ofNat_of_lt (by omega)]
    exact hbarred

/-- Slashes at the end of the interface's address change nothing. -/
theorem latestUrl_append_slashes (s : FeedSettings) (k : Nat) :
    latestUrl { s with apiUrl := s.apiUrl ++ String.ofList (List.replicate k '/') } =
      latestUrl s := by
  have hslash : ∀ c ∈ List.replicate k '/', (c == '/') = true := fun c hc => by
    simp [List.eq_of_mem_replicate hc]
  simp only [latestUrl, String.toList_append, String.toList_ofList, List.reverse_append,
    List.reverse_replicate]
  rw [List.dropWhile_append_of_pos hslash]

/-! ## The feed -/

theorem feed?_eq_some_iff : feed? web s = some feed ↔
    (Utf8.encode s.userAgent).all isHeaderByte = true ∧
      ⟨fetchLatest web (Utf8.encode s.userAgent) (latestUrl s),
        fetchContent web (Utf8.encode s.userAgent)⟩ = feed := by
  simp only [feed?, Option.ite_none_right_eq_some, Option.some.injEq]

/-- The feed on the web that the settings name, with everything it can answer. -/
structure Classified (web : Web) (s : FeedSettings) (feed : Feed) : Prop where
  /-- There is a release exactly where a document is delivered and describes it. -/
  latest_ok : ∀ t rel, (feed.askLatest.run t).result = .ok rel ↔
    ∃ data, web.Delivers (latestUrl s) data ∧
      Release.ofDocument (Utf8.decodeLossy data) = .ok rel
  /-- It is malformed exactly where a document is delivered that describes none. -/
  latest_malformed : ∀ t reason,
    (feed.askLatest.run t).result = .error (.error (.malformed reason)) ↔
      ∃ data, web.Delivers (latestUrl s) data ∧ ∃ f,
        Release.ofDocument (Utf8.decodeLossy data) = .error f ∧
          reason = f.message (Utf8.decodeLossy data)
  /-- It is unavailable exactly where no document is delivered. -/
  latest_unavailable : ∀ t,
    (∃ reason, (feed.askLatest.run t).result = .error (.error (.unavailable reason))) ↔
      ¬∃ data, web.Delivers (latestUrl s) data
  /-- No file is missed while it is asked for. -/
  latest_not_asset : ∀ t name reason,
    (feed.askLatest.run t).result ≠ .error (.error (.assetUnavailable name reason))
  /-- The requests ask for a release document. -/
  latest_requests : ∀ t, Web.Header.Sends ⟨"application/vnd.github+json", Utf8.encode s.userAgent⟩
    11 (requests (feed.askLatest.run t).events)
  /-- A file is what is delivered for it. -/
  content_ok : ∀ t a data,
    ((feed.askContent a).run t).result = .ok data ↔ web.Delivers a.url data
  /-- It is unavailable, under its own name, exactly where nothing is delivered. -/
  content_unavailable : ∀ t a,
    (∃ reason, ((feed.askContent a).run t).result =
      .error (.error (.assetUnavailable a.name reason))) ↔ ¬∃ data, web.Delivers a.url data
  /-- The requests ask for a file. -/
  content_requests : ∀ t a,
    Web.Header.Sends ⟨"application/octet-stream", Utf8.encode s.userAgent⟩ 11
      (requests ((feed.askContent a).run t).events)

/-- A feed that the settings name answers so. -/
theorem classified_of_feed? (hfeed : feed? web s = some feed) : Classified web s feed := by
  obtain ⟨-, heq⟩ := feed?_eq_some_iff.mp hfeed
  have hlatest := congrArg Feed.latest heq.symm
  have hcontent := congrArg Feed.content heq.symm
  exact {
    latest_ok := fun t rel => by
      simp only [Feed.run_askLatest, hlatest, fetchLatest_eq_ok_iff]
    latest_malformed := fun t reason => by
      simp only [Feed.run_askLatest, hlatest, fetchLatest_eq_malformed_iff]
    latest_unavailable := fun t => by
      simp only [Feed.run_askLatest, hlatest, fetchLatest_unavailable_iff]
    latest_not_asset := fun t name reason => by
      simp only [Feed.run_askLatest, hlatest]
      exact fetchLatest_ne_assetUnavailable
    latest_requests := fun t => by
      rw [requests_askLatest, hlatest, requests_fetchLatest]
      exact web.sends_fetch ⟨documentType, Utf8.encode s.userAgent⟩ (latestUrl s) t
    content_ok := fun t a data => by
      simp only [Feed.run_askContent, hcontent, fetchContent_eq_ok_iff]
    content_unavailable := fun t a => by
      simp only [Feed.run_askContent, hcontent, fetchContent_unavailable_iff]
    content_requests := fun t a => by
      rw [requests_askContent, hcontent, requests_fetchContent]
      exact web.sends_fetch ⟨contentType, Utf8.encode s.userAgent⟩ a.url t }

/-- There is no feed exactly if a character of the user agent is barred. -/
theorem feed?_eq_none_iff :
    feed? web s = none ↔ ∃ c ∈ s.userAgent.toList, IsBarred c := by
  rw [← all_isHeaderByte_eq_false_iff, ← Bool.not_eq_true]
  simp [feed?]

theorem feed?_append_slashes (web : Web) (s : FeedSettings) (k : Nat) :
    feed? web { s with apiUrl := s.apiUrl ++ String.ofList (List.replicate k '/') } =
      feed? web s := by
  simp only [feed?, latestUrl_append_slashes]

/-- There is a feed for every user agent without a barred character, and only for those. Slashes at
the end of the interface's address change nothing about it. On every web, what it makes of an answer
depends on what is delivered alone. -/
theorem feed_classified (web : Web) (s : FeedSettings) :
    (feed? web s = none ↔ ∃ c ∈ s.userAgent.toList, IsBarred c) ∧
      (∀ k, feed? web { s with apiUrl := s.apiUrl ++ String.ofList (List.replicate k '/') } =
        feed? web s) ∧
      ∀ feed, feed? web s = some feed → Classified web s feed :=
  ⟨feed?_eq_none_iff, feed?_append_slashes web s, fun _ => classified_of_feed?⟩

/-- A release document that breaks off, a file that is its own redirect, and one that is no text. -/
def unsteadyRoutes : RouteTable := [
  ⟨"/repos/zwade/ruulang/releases/latest", 200, [], Utf8.encode "[", some 2⟩,
  ⟨"/loop", 302, [("Location", Utf8.encode "/loop")], [], none⟩,
  ⟨"/raw", 200, [], [0xFF, 0x00], none⟩]

/-- The web in which one host answers so. -/
def unsteadyWeb : Web := unsteadyRoutes.web "host" 8080

/-- The usual feed, at that host. -/
def unsteadySettings : FeedSettings :=
  { FeedSettings.standard with apiUrl := "http://host:8080//" }

/-- The document is unavailable, the redirects end with the eleventh request, and the bytes of the
other file are what they are. At a host that cannot be reached there is nothing. -/
theorem feed_classified_unsteady :
    ∃ feed, feed? unsteadyWeb unsteadySettings = some feed ∧
      Classified unsteadyWeb unsteadySettings feed ∧
      (feed.askLatest.run FileTree.empty).result = .error (.error (.unavailable
        ("error decoding response body for url " ++
          "(http://host:8080/repos/zwade/ruulang/releases/latest)"))) ∧
      (((feed.askContent ⟨"a", "http://host:8080/loop"⟩).run FileTree.empty).result =
        .error (.error (.assetUnavailable "a"
          "error following redirect for url (http://host:8080/loop)"))) ∧
      (requests
        ((feed.askContent ⟨"a", "http://host:8080/loop"⟩).run FileTree.empty).events).length = 11 ∧
      ((feed.askContent ⟨"b", "http://host:8080/raw"⟩).run FileTree.empty).result =
        .ok [0xFF, 0x00] ∧
      ((feed.askContent ⟨"b", "http://other/raw"⟩).run FileTree.empty).result =
        .error (.error (.assetUnavailable "b"
          "error sending request for url (http://other/raw)")) := by
  have hfeed : feed? unsteadyWeb unsteadySettings = some _ :=
    feed?_eq_some_iff.mpr ⟨by decide +kernel, rfl⟩
  refine ⟨_, hfeed, (feed_classified _ _).2.2 _ hfeed, ?_⟩
  decide +kernel

/-- Not every control character bars a user agent : with a tab in it there is a feed. -/
theorem tab_in_userAgent : ¬∀ (web : Web) (s : FeedSettings),
    (∃ c ∈ s.userAgent.toList, c.toNat < 0x20 ∨ 0x7f ≤ c.toNat ∧ c.toNat < 0xA0) →
      feed? web s = none := by
  intro h
  have hnone := h (fun _ => none) { FeedSettings.standard with userAgent := "a\tb" }
    ⟨'\t', by decide, by decide⟩
  have hclean : ∀ c ∈ "a\tb".toList, ¬IsBarred c := by simp [IsBarred]
  obtain ⟨c, hc, hbarred⟩ := feed?_eq_none_iff.mp hnone
  exact hclean c hc hbarred

end ReleaseApi

end ServerLauncher
