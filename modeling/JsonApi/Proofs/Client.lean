import JsonApi.Client
import JsonApi.Proofs.Document.Exits
import JsonApi.Proofs.Document.Grammar
import JsonApi.Proofs.Text.Upper
import JsonApi.Proofs.Transport

/-!
# Settings and methods on their way

An operation of the client does what its counterpart without a session does under the settings that
were chosen, and leaves a session alone that it does not ask for settings (`Client.built_run`,
`Client.send_run`, `Client.readWith_run`).  So a reply is read with the method of its request and
under the settings that the request was built with, whatever the session holds by then
(`Client.reply_reads`).
-/

namespace JsonApi

/-! ### What the method decides -/

namespace Resource

variable {method : Text} {v : Json}

theorem spelledBy_iff_post {r : Resource} {ms : Members} : r.SpelledBy method ms ↔
    r.SpelledBy "POST" ms ∧ (r.id = [] → method.upper = "POST") := by
  constructor
  · rintro ⟨htype, htype_ne, hid, hid_ne, hattributes, hrelationships⟩
    exact ⟨⟨htype, htype_ne, hid, fun _ => by decide, hattributes, hrelationships⟩, hid_ne⟩
  · rintro ⟨⟨htype, htype_ne, hid, -, hattributes, hrelationships⟩, hid_ne⟩
    exact ⟨htype, htype_ne, hid, hid_ne, hattributes, hrelationships⟩

theorem ofPrimary_eq_ok_iff_post (hv : v.Settled) {r : Resource} : ofPrimary method v = .ok r ↔
    ofPrimary "POST" v = .ok r ∧ (r.id = [] → method.upper = "POST") := by
  cases v with
  | object ms =>
    have hms := Document.settled_members hv
    rw [ofPrimary, ofPrimary, ofPrimaryMembers_eq_ok_iff hms, ofPrimaryMembers_eq_ok_iff hms,
      spelledBy_iff_post]
  | null | bool | int | float | string | array => exact iff_of_false nofun fun h => nomatch h.1

theorem listOfPrimary_eq_ok_iff_post (hv : v.Settled) {rs : List Resource} :
    listOfPrimary method v = .ok rs ↔
      listOfPrimary "POST" v = .ok rs ∧ ∀ r ∈ rs, r.id = [] → method.upper = "POST" := by
  cases v with
  | array vs =>
    have hvs : ∀ v ∈ vs, v.Settled := by
      cases hv with
      | array h => exact h
    rw [listOfPrimary, listOfPrimary, Except.mapM_eq_ok_iff, Except.mapM_eq_ok_iff]
    clear hv
    induction vs generalizing rs with
    | nil =>
      rw [List.forall₂_nil_right_iff, List.forall₂_nil_right_iff]
      exact ⟨fun h => ⟨h, h ▸ List.forall_mem_nil _⟩, And.left⟩
    | cons v vs ih =>
      obtain ⟨hv, hvs⟩ := List.forall_mem_cons.1 hvs
      rw [List.forall₂_cons_right_iff, List.forall₂_cons_right_iff]
      constructor
      · rintro ⟨r, rs, hr, hrs, rfl⟩
        obtain ⟨hr, hid⟩ := (ofPrimary_eq_ok_iff_post hv).1 hr
        obtain ⟨hrs, hids⟩ := (ih hvs).1 hrs
        exact ⟨⟨r, rs, hr, hrs, rfl⟩, List.forall_mem_cons.2 ⟨hid, hids⟩⟩
      · rintro ⟨⟨r, rs, hr, hrs, rfl⟩, h⟩
        obtain ⟨hid, hids⟩ := List.forall_mem_cons.1 h
        exact ⟨r, rs, (ofPrimary_eq_ok_iff_post hv).2 ⟨hr, hid⟩, (ih hvs).2 ⟨hrs, hids⟩, rfl⟩
  | null | bool | int | float | string | object => exact iff_of_false nofun fun h => nomatch h.1

end Resource

namespace Document

variable {α : Type} {parse parse' : Json → Except Rejection α} {entry : α → Text}
  {settings : Except ValidationError Settings} {headers : GivenHeaders} {bs : Bytes}

/-- A condition on what primary data are read as is one on what the document is read as. -/
theorem result_read_eq_ok_iff {p : Prop} {a : α}
    (hparse : ∀ v : Json, v.Settled → (parse v = .ok a ↔ parse' v = .ok a ∧ p)) :
    (read parse entry settings headers (.bytes bs)).result = .ok a ↔
      (read parse' entry settings headers (.bytes bs)).result = .ok a ∧ p := by
  have hbs : ofBytes parse bs = .ok a ↔ ofBytes parse' bs = .ok a ∧ p := by
    rw [ofBytes_eq_ok_iff, ofBytes_eq_ok_iff]
    constructor
    · rintro ⟨ms, data, hms, hdata, h⟩
      have hsettled := settled_data (Json.settled_of_ofBytes hms) rfl hdata
      obtain ⟨h, hp⟩ := (hparse _ hsettled).1 h
      exact ⟨⟨ms, data, hms, hdata, h⟩, hp⟩
    · rintro ⟨⟨ms, data, hms, hdata, h⟩, hp⟩
      have hsettled := settled_data (Json.settled_of_ofBytes hms) rfl hdata
      exact ⟨ms, data, hms, hdata, (hparse _ hsettled).2 ⟨h, hp⟩⟩
  cases hcheck : Negotiation.checkGiven settings headers with
  | error f =>
    rw [result_read, result_read, hcheck]
    exact iff_of_false nofun fun h => nomatch h.1
  | ok _ => rw [result_read_bytes entry hcheck, result_read_bytes entry hcheck, hbs]

theorem readSingle_eq_ok_iff_post {method : Text} {r : Resource} :
    (readSingle method settings headers (.bytes bs)).result = .ok r ↔
      (readSingle "POST" settings headers (.bytes bs)).result = .ok r ∧
        (r.id = [] → method.upper = "POST") :=
  result_read_eq_ok_iff fun _ hv => Resource.ofPrimary_eq_ok_iff_post hv

theorem readMany_eq_ok_iff_post {method : Text} {rs : List Resource} :
    (readMany method settings headers (.bytes bs)).result = .ok rs ↔
      (readMany "POST" settings headers (.bytes bs)).result = .ok rs ∧
        ∀ r ∈ rs, r.id = [] → method.upper = "POST" :=
  result_read_eq_ok_iff fun _ hv => Resource.listOfPrimary_eq_ok_iff_post hv

end Document

/-! ### The method of a request -/

namespace Request

variable {base : Json} {type id : Text} {q : Request} {s : Settings}

theorem Builds.upper_method (h : Builds base type id q) : q.method.upper = q.method := by
  cases h with
  | get h =>
    obtain ⟨s, -, h⟩ := exists_of_outcome h
    obtain ⟨-, u, -, h⟩ := get_eq_ok_iff.1 h
    obtain ⟨url, -, h⟩ := fetch_eq_ok_iff.1 h
    rw [(url_of_make h).1, Text.upper_upper]
  | change h =>
    obtain ⟨s, -, h⟩ := exists_of_outcome h
    obtain ⟨-, r, -, u, -, h⟩ := change_eq_ok_iff.1 h
    obtain ⟨-, content, url, -, -, h⟩ := send_eq_ok_iff.1 h
    rw [(url_of_make h).1, Text.upper_upper]

theorem eq_of_outcome {build : Settings → Except Failure Request} {p : PreparedRequest}
    (h : (outcome (.ok s) build).result = .ok p) : build s = .ok p.request ∧ p.settings = s := by
  rw [outcome] at h
  cases hbuild : build s with
  | error f =>
    rw [hbuild] at h
    cases h
  | ok r =>
    rw [hbuild] at h
    obtain rfl := Except.ok.inj h
    exact ⟨rfl, rfl⟩

end Request

/-! ### Operations in a session -/

namespace Client

variable {named : Option Settings} {s : Settings}

theorem built_run (build : Settings → Except Failure Request) (σ : Session) :
    (built named build).run σ = (Request.outcome ((Session.choose named).run σ).1 build,
      ((Session.choose named).run σ).2) := by
  rw [built, StateT.run_bind]
  cases (Session.choose named).run σ with
  | mk settings τ =>
    cases settings with
    | error e => rfl
    | ok s =>
      simp only [Request.outcome, bind]
      cases build s <;> rfl

/-- Under settings that are named, the session is neither asked nor changed. -/
theorem built_some_run (build : Settings → Except Failure Request) (σ : Session) :
    (built (some s) build).run σ = (Request.outcome (.ok s) build, σ) :=
  built_run build σ

theorem send_run (p : PreparedRequest) (answer : Request → Transport.Answer) (σ : Session) :
    (send p answer).run σ = (p.send answer, σ) := by
  rw [send, PreparedRequest.send]
  cases Transport.receive p.request.authorized (answer p.request.authorized) <;> rfl

theorem readWith_run {α : Type}
    (parse : Text → Except ValidationError Settings → GivenHeaders → Body → Outcome α)
    (r : Reply) (σ : Session) : (readWith parse r).run σ = (r.readWith parse, σ) := by
  rw [readWith, Reply.readWith]
  cases r.response.read with
  | mk content response => cases content <;> rfl

/-! ### From a request to its reply -/

variable {base : Json} {p : PreparedRequest}

/-- A request that was built below a base in some session, under settings that were named. -/
inductive Built (s : Settings) (base : Json) (p : PreparedRequest) : Prop
  | get {σ : Session} {type id : Text}
      (h : ((buildGet (some s) base type id).run σ).1.result = .ok p)
  | change {σ : Session} {method : Text} {resource : Option Resource}
      (h : ((build (some s) method base resource).run σ).1.result = .ok p)

theorem Built.settings_eq (h : Built s base p) : p.settings = s := by
  cases h with
  | get h =>
    rw [buildGet, built_some_run] at h
    exact (Request.eq_of_outcome h).2
  | change h =>
    rw [build, built_some_run] at h
    exact (Request.eq_of_outcome h).2

theorem Built.exists_builds (h : Built s base p) :
    ∃ type id, Request.Builds base type id p.request := by
  cases h with
  | get h =>
    rw [buildGet, built_some_run] at h
    exact ⟨_, _, .get h⟩
  | change h =>
    rw [build, built_some_run] at h
    obtain ⟨-, r, rfl, -⟩ := Request.change_eq_ok_iff.1 (Request.eq_of_outcome h).1
    exact ⟨_, _, .change h⟩

/-- A request below a base without user information has none either, and its URL names a scheme. -/
theorem Built.url {t : Text} {u : Url} (h : Built s (.string t) p) (hu : Url.ofText t = .ok u)
    (hinfo : u.userInfo = []) :
    p.request.url.userInfo = [] ∧ Transport.checkScheme p.request.url = .ok () := by
  obtain ⟨type, id, hbuilds⟩ := h.exists_builds
  obtain ⟨u', hbase, hurl, -⟩ := hbuilds.exists_base
  obtain ⟨t', ht, hu', hserved, -⟩ := Request.exists_of_baseUrl hbase
  obtain rfl := Json.string.inj ht
  obtain rfl := Except.ok.inj (hu.symm.trans hu')
  rw [Request.resourceUrl_eq_ok_iff] at hurl
  have hhost := Url.isHost_of_normalisesTo (Url.ofText_eq_ok_iff.1 hu).2
  refine ⟨Url.userInfo_of_withPath hhost hinfo hurl, Transport.checkScheme_of_isServed ?_⟩
  have hscheme : u.scheme = "http" ∨ u.scheme = "https" := by
    simpa [Request.isServed] using hserved
  rw [Url.scheme_of_withPath hurl]
  rcases hscheme with h | h <;> rw [h] <;> decide

/-- In every session the reply is read as a document under headers is with a method and settings,
and the session stays as it is; resources without an id pass with the method of creation only. -/
structure Reads (x : Reply) (method : Text) (s : Settings) (headers : GivenHeaders) (bs : Bytes) :
    Prop where
  single : ∀ σ, ∃ after, (Client.single x).run σ =
    ((Document.readSingle method (.ok s) headers (.bytes bs), after), σ)
  many : ∀ σ, ∃ after, (Client.many x).run σ =
    ((Document.readMany method (.ok s) headers (.bytes bs), after), σ)
  single_id : ∀ σ r, ((Client.single x).run σ).1.1.result = .ok r ↔
    (Document.readSingle "POST" (.ok s) headers (.bytes bs)).result = .ok r ∧
      (r.id = [] → method = "POST")
  many_id : ∀ σ rs, ((Client.many x).run σ).1.1.result = .ok rs ↔
    (Document.readMany "POST" (.ok s) headers (.bytes bs)).result = .ok rs ∧
      ∀ r ∈ rs, r.id = [] → method = "POST"

/-- A response that supplies its bytes is read as they are. -/
theorem readWith_of_supplies {α : Type}
    (parse : Text → Except ValidationError Settings → GivenHeaders → Body → Outcome α)
    {r : Response} {method : Text} {bs : Bytes}
    (hcoding : Response.Coding.ofHeaders r.headers = []) (h : r.Supplies bs)
    (hmethod : r.requestMethod = some method) (σ : Session) :
    ∃ after, (readWith parse ⟨r, s⟩).run σ =
      ((parse method (.ok s) r.headers.given (.bytes bs), after), σ) := by
  have hresult : (Reply.readWith parse ⟨r, s⟩).1 = parse r.effectiveMethod (.ok s)
      r.headers.given (.bytes bs) := Reply.readWith_of_ok (h.read hcoding).1
  rw [Response.effectiveMethod, hmethod] at hresult
  rw [readWith_run]
  exact ⟨(Reply.readWith parse ⟨r, s⟩).2, congrArg (·, σ) (Prod.ext hresult rfl)⟩

theorem reads_of_supplies {r : Response} {method : Text} {bs : Bytes}
    (hcoding : Response.Coding.ofHeaders r.headers = []) (h : r.Supplies bs)
    (hmethod : r.requestMethod = some method) (hupper : method.upper = method) :
    Reads ⟨r, s⟩ method s r.headers.given bs where
  single := readWith_of_supplies Document.readSingle hcoding h hmethod
  many := readWith_of_supplies Document.readMany hcoding h hmethod
  single_id σ x := by
    obtain ⟨after, hrun⟩ := readWith_of_supplies (s := s) Document.readSingle hcoding h hmethod σ
    rw [Client.single, hrun]
    refine Document.readSingle_eq_ok_iff_post.trans ?_
    rw [hupper]
  many_id σ xs := by
    obtain ⟨after, hrun⟩ := readWith_of_supplies (s := s) Document.readMany hcoding h hmethod σ
    rw [Client.many, hrun]
    refine Document.readMany_eq_ok_iff_post.trans ?_
    rw [hupper]

/-- **Method and settings reach the reply.**  A request that was built under named settings, below
a base without user information, is sent as it is.  A response whose content is not encoded comes
back unless it sends the client to a place that is none, and in every session its bytes are read
with the method of the request and under the settings that it was built with. -/
theorem reply_reads {t : Text} {u : Url} (hp : Built s (.string t) p) (hu : Url.ofText t = .ok u)
    (hinfo : u.userInfo = []) (answer : Request → Transport.Answer) (σ : Session) :
    ∃ reply, (send p answer).run σ = (⟨reply, p⟩, σ) ∧
      ∀ r bs, answer p.request = .response r → Response.Coding.ofHeaders r.headers = [] →
        r.Supplies bs →
          ((∃ x, reply = .ok x) ↔ Transport.checkLocation r = .ok ()) ∧
            ∀ x, reply = .ok x → Reads x p.request.method s r.headers.given bs := by
  obtain ⟨hnone, hscheme⟩ := hp.url hu hinfo
  have hsend : p.send answer =
      ⟨(Transport.receive p.request (answer p.request)).map (⟨·, p.settings⟩), p⟩ := by
    rw [PreparedRequest.send, Request.authorized_of_userInfo hnone]
  rw [send_run, hsend, hp.settings_eq]
  refine ⟨_, rfl, fun r bs hanswer hcoding hsupplies => ?_⟩
  obtain ⟨received, hreceived⟩ : ∃ received : Response,
      received = ({ r with requestMethod := some p.request.method } : Response).read.2 := ⟨_, rfl⟩
  rw [hanswer, Transport.receive_response hscheme hcoding hsupplies, ← hreceived]
  obtain ⟨hsupplied, hheaders, hmethod⟩ :=
    Transport.supplies_received hcoding hsupplies p.request.method hreceived
  obtain ⟨type, id, hbuilds⟩ := hp.exists_builds
  have hreads : Reads ⟨received, s⟩ p.request.method s r.headers.given bs := by
    rw [← hheaders] at hcoding ⊢
    exact reads_of_supplies hcoding hsupplied hmethod hbuilds.upper_method
  cases Transport.checkLocation r with
  | error f =>
    exact ⟨iff_of_false (fun ⟨x, hx⟩ => nomatch hx) nofun, fun x hx => nomatch hx⟩
  | ok _ =>
    refine ⟨iff_of_true ⟨_, rfl⟩ rfl, ?_⟩
    rintro x ⟨⟩
    exact hreads

/-- The reply to the creation of a user is read without an id under the settings of the request, in
a session that holds another media type. -/
theorem reply_reads_created :
    ∃ (p : PreparedRequest) (u : Url) (r : Response) (bs : Bytes) (other : Session) (x : Reply),
      ((build (some .default) "post" (.string "http://apiserver")
        (some ⟨"user", [], none, none⟩)).run other).1.result = .ok p ∧
      Url.ofText "http://apiserver" = .ok u ∧ u.userInfo = [] ∧
      bs = Utf8.encodeScalars
        (Json.write .oneLine (.object [("data", .object [("type", .string "user")])])) ∧
      r = ⟨201, [⟨Headers.ascii "Content-Type", Headers.ascii "application/vnd.api+json"⟩], none,
        .held bs, true⟩ ∧
      Response.Coding.ofHeaders r.headers = [] ∧ r.Supplies bs ∧
      other = ⟨[], some { Settings.default with mediaType := "application/json" }⟩ ∧
      ((send p fun _ => .response r).run other).1.reply = .ok x ∧
      ∃ user, ((single x).run other).1.1.result = .ok user ∧ user.id = [] := by
  obtain ⟨other, hother⟩ : ∃ other : Session,
      other = ⟨[], some { Settings.default with mediaType := "application/json" }⟩ := ⟨_, rfl⟩
  obtain ⟨u, hu, hinfo⟩ : ∃ u, Url.ofText "http://apiserver" = .ok u ∧
      decide (u.userInfo = []) = true := Except.exists_of_any (by decide +kernel)
  have hinfo := of_decide_eq_true hinfo
  obtain ⟨p, hp, hpost⟩ : ∃ p, ((build (some .default) "post" (.string "http://apiserver")
      (some ⟨"user", [], none, none⟩)).run other).1.result = .ok p ∧
        decide (p.request.method = "POST") = true :=
    Except.exists_of_any (by simp only [build, built_some_run]; decide +kernel)
  obtain ⟨headers, hheaders⟩ : ∃ headers : Headers, headers =
    [⟨Headers.ascii "Content-Type", Headers.ascii "application/vnd.api+json"⟩] := ⟨_, rfl⟩
  obtain ⟨bs, hbs, user, huser, hid⟩ : ∃ bs,
      bs = Utf8.encodeScalars
        (Json.write .oneLine (.object [("data", .object [("type", .string "user")])])) ∧
      ∃ user, (Document.readSingle "POST" (.ok .default) headers.given (.bytes bs)).result =
        .ok user ∧ decide (user.id = []) = true :=
    ⟨_, rfl, Except.exists_of_any (by rw [hheaders]; decide +kernel)⟩
  obtain ⟨r, hr⟩ : ∃ r : Response, r = ⟨201, headers, none, .held bs, true⟩ := ⟨_, rfl⟩
  have hcoding : Response.Coding.ofHeaders r.headers = [] :=
    Response.Coding.ofHeaders_of_has (by rw [hr]; simp only [hheaders]; decide)
  have hsupplies : r.Supplies bs := .held (by rw [hr])
  have hlocation : Transport.checkLocation r = .ok () := by rw [hr]; rfl
  obtain ⟨reply, hrun, hreply⟩ := reply_reads (.change hp) hu hinfo (fun _ => .response r) other
  obtain ⟨hreturns, hreads⟩ := hreply r bs rfl hcoding hsupplies
  obtain ⟨x, rfl⟩ := hreturns.2 hlocation
  refine ⟨p, u, r, bs, other, x, hp, hu, hinfo, hbs, hheaders ▸ hr, hcoding, hsupplies, hother,
    by rw [hrun], user, ?_, of_decide_eq_true hid⟩
  refine ((hreads x rfl).single_id other user).2 ⟨?_, fun _ => of_decide_eq_true hpost⟩
  rw [hr]
  exact huser

end Client

end JsonApi
