import JsonApi.Proofs.Document.Exits
import JsonApi.Proofs.Document.RoundTrip

/-!
# Lists of resources

A list of resources is read item by item: what comes of it is what comes of its items when each of
them is the primary data of a document of its own (`Document.readMany_lifts_readSingle`).
-/

namespace JsonApi

/-- The body holds a document with the given primary data. -/
def Body.Holds (body : Body) (data : Json) : Prop :=
  ∃ bs ms, body.read = .ok bs ∧ Json.ofBytes bs = .ok (.object ms) ∧
    Members.get? "data" ms = some data

/-- An array fails as soon as its first items do. -/
theorem Resource.listOfPrimary_of_take {method : Text} {n : Nat} {vs : List Json} {r : Rejection}
    (h : (vs.take n).mapM (ofPrimary method) = .error r) :
    listOfPrimary method (.array vs) = .error r := by
  rw [listOfPrimary, ← List.take_append_drop n vs]
  exact Except.mapM_append_of_error h _

namespace Document

variable {α : Type} {parse : Json → Except Rejection α} {entry : α → Text}
  {settings : Except ValidationError Settings} {headers : GivenHeaders} {method : Text}
  {body : Body} {data : Json}

theorem ofBytes_of_holds (h : body.Holds data) :
    body.read >>= ofBytes parse = (parse data).mapError Rejection.failure := by
  obtain ⟨bs, ms, hread, hbs, hdata⟩ := h
  rw [hread, Except.ok_bind, ofBytes_of_data hbs hdata]

/-- Of a body that holds a document the primary data alone decide what comes of it. -/
theorem read_of_holds (hheaders : Negotiation.checkGiven settings headers = .ok ())
    (h : body.Holds data) :
    read parse entry settings headers body =
      .logged entry ((parse data).mapError Rejection.failure) := by
  rw [read_eq, hheaders, Except.ok_bind, ofBytes_of_holds h]

theorem result_of_holds (hheaders : Negotiation.checkGiven settings headers = .ok ())
    (h : body.Holds data) :
    (read parse entry settings headers body).result =
      (parse data).mapError Rejection.failure := by
  rw [read_of_holds hheaders h, Outcome.result_logged]

/-- The documents of items are read as the items are. -/
theorem mapM_readSingle (hheaders : Negotiation.checkGiven settings headers = .ok ())
    {bodies : List Body} {vs : List Json} (h : List.Forall₂ Body.Holds bodies vs) :
    (bodies.mapM fun b => (readSingle method settings headers b).result) =
      (vs.mapM (Resource.ofPrimary method)).mapError Rejection.failure := by
  rw [Except.mapError_mapM]
  induction h with
  | nil => rfl
  | cons hb _ ih =>
    rw [List.mapM_cons, List.mapM_cons, ih, readSingle, result_of_holds hheaders hb]

/-- **A list of resources is read item by item.**  Let the items of an array each stand in a
document of its own.  The document of the array gives the resources of those documents, in order;
it fails with the failure of the first of them that fails; and from a failing item on the array does
not matter any more, not even to the log. -/
theorem readMany_lifts_readSingle (hheaders : Negotiation.checkGiven settings headers = .ok ())
    (method : Text) {vs : List Json} (hbody : body.Holds (.array vs)) {bodies : List Body}
    (hbodies : List.Forall₂ Body.Holds bodies vs) :
    (∀ rs, (readMany method settings headers body).result = .ok rs ↔
      List.Forall₂ (fun r b => (readSingle method settings headers b).result = .ok r) rs bodies) ∧
    (∀ f, (readMany method settings headers body).result = .error f ↔
      ∃ before b after, bodies = before ++ b :: after ∧
        (∀ a ∈ before, ∃ r, (readSingle method settings headers a).result = .ok r) ∧
        (readSingle method settings headers b).result = .error f) ∧
    ∀ before b after f, bodies = before ++ b :: after →
      (readSingle method settings headers b).result = .error f →
      ∀ other ws, Body.Holds other (.array ws) →
        ws.take (before.length + 1) = vs.take (before.length + 1) →
        readMany method settings headers other = readMany method settings headers body := by
  have hmany : (readMany method settings headers body).result =
      bodies.mapM fun b => (readSingle method settings headers b).result := by
    rw [mapM_readSingle hheaders hbodies]
    exact result_of_holds hheaders hbody
  refine ⟨fun rs => ?_, fun f => ?_, ?_⟩
  · rw [hmany, Except.mapM_eq_ok_iff]
  · rw [hmany, Except.mapM_eq_error_iff]
  · rintro before b after f rfl hb other ws hother hws
    have hprefix := List.forall₂_take (before.length + 1) hbodies
    rw [List.take_length_add_append, List.take_succ_cons, List.take_zero] at hprefix
    -- the items as far as the failing one fail, and what follows them is not read
    obtain ⟨r, hr⟩ : ∃ r, (vs.take (before.length + 1)).mapM (Resource.ofPrimary method) =
        .error r := by
      rw [← Except.exists_mapError_eq_error_iff, ← mapM_readSingle hheaders hprefix,
        Except.exists_mapM_eq_error_iff]
      exact ⟨b, List.mem_append_right _ (List.mem_singleton_self b), f, hb⟩
    rw [readMany, read_of_holds hheaders hother, Resource.listOfPrimary_of_take (hws ▸ hr),
      readMany, read_of_holds hheaders hbody, Resource.listOfPrimary_of_take hr]

/-- Whatever can be read and written is the primary data of a body. -/
theorem exists_holds (hdata : data.Encodable) (hsettled : data.Settled) :
    ∃ body : Body, body.Holds data := by
  obtain ⟨-, bs, ms, -, -, hbs, hms⟩ := exists_render (renders_none none) hdata hsettled
  exact ⟨.bytes bs, bs, ms, rfl, hbs, hms⟩

/-- A user without a type ends the reading of a list, whatever follows it. -/
theorem readMany_lifts_readSingle_users :
    Negotiation.checkGiven (.ok .default)
        [(.text "Content-Type", .text "application/vnd.api+json")] = .ok () ∧
      ∃ user nameless bodies body, user = Resource.toJson ⟨"user", "1", none, none⟩ ∧
        nameless = Resource.toJson ⟨[], "2", none, none⟩ ∧
        List.Forall₂ Body.Holds bodies [user, nameless, .null] ∧
        Body.Holds body (.array [user, nameless, .null]) ∧
        (readMany "GET" (.ok .default) [(.text "Content-Type", .text "application/vnd.api+json")]
          body).result = .error (.api (Violation.error ⟨.type, Violation.typePlace⟩)) ∧
        ∀ other vs, Body.Holds other (.array (user :: nameless :: vs)) →
          readMany "GET" (.ok .default) [(.text "Content-Type", .text "application/vnd.api+json")]
            other = readMany "GET" (.ok .default)
              [(.text "Content-Type", .text "application/vnd.api+json")] body := by
  have hheaders : Negotiation.checkGiven (.ok .default)
      [(.text "Content-Type", .text "application/vnd.api+json")] = .ok () := rfl
  have hscalar : ∀ type id : Text, type.isScalar = true → id.isScalar = true →
      (Resource.toJson ⟨type, id, none, none⟩).Encodable :=
    fun _ _ htype hid => Resource.encodable_toJson ⟨htype, hid, nofun⟩
  have huser := hscalar "user" "1" rfl rfl
  have hnameless := hscalar [] "2" rfl rfl
  obtain ⟨b₁, h₁⟩ := exists_holds huser (Resource.settled_toJson _)
  obtain ⟨b₂, h₂⟩ := exists_holds hnameless (Resource.settled_toJson _)
  obtain ⟨b₃, h₃⟩ := exists_holds Json.encodable_null .null
  obtain ⟨body, hbody⟩ := exists_holds
    (Json.encodable_array.2 (List.forall_mem_cons.2 ⟨huser, List.forall_mem_cons.2
      ⟨hnameless, List.forall_mem_singleton.2 Json.encodable_null⟩⟩))
    (.array (List.forall_mem_cons.2 ⟨Resource.settled_toJson _, List.forall_mem_cons.2
      ⟨Resource.settled_toJson _, List.forall_mem_singleton.2 .null⟩⟩))
  have hbodies := List.Forall₂.cons h₁ (.cons h₂ (.cons h₃ .nil))
  have hread : (readSingle "GET" (.ok .default)
      [(.text "Content-Type", .text "application/vnd.api+json")] b₁).result =
        .ok ⟨"user", "1", none, none⟩ := (result_of_holds hheaders h₁).trans rfl
  have hfails : (readSingle "GET" (.ok .default)
      [(.text "Content-Type", .text "application/vnd.api+json")] b₂).result =
        .error (.api (Violation.error ⟨.type, Violation.typePlace⟩)) :=
    (result_of_holds hheaders h₂).trans rfl
  obtain ⟨-, herror, htail⟩ := readMany_lifts_readSingle hheaders "GET" hbody hbodies
  refine ⟨hheaders, _, _, _, body, rfl, rfl, hbodies, hbody, ?_, fun other vs hother => ?_⟩
  · exact (herror _).2 ⟨[b₁], b₂, [b₃], rfl, List.forall_mem_singleton.2 ⟨_, hread⟩, hfails⟩
  · exact htail [b₁] b₂ [b₃] _ rfl hfails other _ hother rfl

end Document

end JsonApi
