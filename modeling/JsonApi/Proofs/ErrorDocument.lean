import JsonApi.ErrorObject
import JsonApi.Proofs.Document.Exits
import JsonApi.Proofs.Document.RoundTrip
import JsonApi.Proofs.Wording

/-!
# The documents of rejections

An error has a document exactly when its texts hold no halves of surrogate pairs, and from the bytes
of the document its object is read (`ApiError.ofBytes_render_document`).  A rejected document puts
no text of its own into the error but the name of one relationship, which stands in the pointer, so
that name decides (`Document.rejection_rendered_iff`).
-/

namespace JsonApi

/-! ### Errors with a document -/

namespace ApiError

/-- The texts of the error hold no halves of surrogate pairs. -/
structure Scalar (e : ApiError) : Prop where
  title : e.title.isScalar = true
  detail : e.detail.isScalar = true
  pointer : ∀ p ∈ e.pointer, p.isScalar = true

variable {e : ApiError}

/-- The members of the error object are four texts, and the source if there is a pointer. -/
theorem members_object (e : ApiError) : e.object.members =
    ([("status", .string (Text.ofInt e.status)), ("code", .string e.errorClass.kind),
      ("title", .string e.title), ("detail", .string e.detail)] : Members) ++
      (e.pointer.toList.map fun p => ("source", .object [("pointer", .string p)]) : Members) := by
  rw [ErrorObject.members, object, source]
  cases e.pointer <;> rfl

theorem isScalar_kind (c : ErrorClass) : c.kind.isScalar = true := by
  cases c <;> exact Text.isScalar_ofString _

theorem encodable_document_iff : e.document.Encodable ↔ e.Scalar := by
  rw [document, ErrorObject.document, toJson, members_object]
  simp only [Json.encodable_object, Json.encodable_array, List.forall_mem_singleton,
    List.forall_mem_append, List.forall_mem_cons, List.forall_mem_map, Json.encodable_string,
    Text.isScalar_ofString, Text.isScalar_ofInt, isScalar_kind, true_and, Option.mem_toList,
    and_true]
  exact ⟨fun ⟨⟨htitle, hdetail⟩, hpointer⟩ => ⟨htitle, hdetail, hpointer⟩,
    fun h => ⟨⟨h.title, h.detail⟩, h.pointer⟩⟩

theorem settled_object (e : ApiError) : e.toJson.Settled := by
  have hnames : (["status", "code", "title", "detail", "source"] : List Text).Nodup := by decide
  have hsublist : (Members.names e.object.members).Sublist
      ["status", "code", "title", "detail", "source"] := by
    rw [members_object]
    cases e.pointer <;> simp [Members.names]
  refine .object (hnames.sublist hsublist) ?_
  rw [members_object]
  simp only [List.forall_mem_append, List.forall_mem_cons, List.forall_mem_map, Json.Settled.string,
    true_and, List.not_mem_nil, false_implies, implies_true]
  intro p _
  exact .object (by simp [Members.names]) (List.forall_mem_singleton.2 (.string p))

/-- **From its bytes the object of an error is read**, with its status in digits and its pointer, if
there is one, in the source; there are bytes unless a text of the error has no UTF-8 form. -/
theorem ofBytes_render_document (e : ApiError) (indent : Option Int) :
    ((∃ bs, Document.render indent e.document = .ok bs) ↔ e.Scalar) ∧
      ∀ bs, Document.render indent e.document = .ok bs → Json.ofBytes bs = .ok e.document := by
  refine ⟨(Document.render_eq_ok_iff indent).trans encodable_document_iff, fun bs hbs => ?_⟩
  have hsettled : e.document.Settled := .object (by simp [Members.names])
    (List.forall_mem_singleton.2 (.array (List.forall_mem_singleton.2 e.settled_object)))
  rw [Json.ofBytes_toBytes (Json.Layout.standard_ofIndent indent) hbs,
    Json.merged_of_settled hsettled]

end ApiError

/-! ### The texts of rejections -/

/-- The texts of the error, if there is one, hold no halves of surrogate pairs as long as the name
of the relationship that its pointer leads to holds none. -/
def Failure.ScalarUpToName : Failure → Prop
  | .api e => (∀ name rest,
      e.pointer = some (Pointer.text (Violation.relationshipsPlace ++ name :: rest)) →
        name.isScalar = true) → e.Scalar
  | .fault _ => True

theorem Failure.scalarUpToName_of_scalar {e : ApiError} (h : e.Scalar) :
    (Failure.api e).ScalarUpToName :=
  fun _ => h

namespace Violation

variable {v : Violation} {place : Pointer} {method : Text}

/-- The violation is at a place or below it, and no text but those of the place is quoted from the
document. -/
structure Within (place : Pointer) (v : Violation) : Prop where
  below : ∃ rest : Pointer, rest.all Text.isScalar = true ∧ v.place = place ++ rest
  quoted : place.all Text.isScalar = true → v.rule.quoted.isScalar = true

theorem Within.mono {more : Pointer} (hmore : more.all Text.isScalar = true)
    (h : v.Within (place ++ more)) : v.Within place := by
  obtain ⟨rest, hrest, hplace⟩ := h.below
  refine ⟨⟨more ++ rest, ?_, by rw [hplace, List.append_assoc]⟩, fun hscalar => h.quoted ?_⟩
  · rw [List.all_append, hmore, hrest, Bool.and_self]
  · rw [List.all_append, hscalar, hmore, Bool.and_self]

theorem Within.scalar_error (hplace : place.all Text.isScalar = true) (h : v.Within place) :
    v.error.Scalar := by
  obtain ⟨rest, hrest, hv⟩ := h.below
  refine ⟨Text.isScalar_ofString _, (Rule.isScalar_message _).trans (h.quoted hplace), ?_⟩
  rintro _ ⟨⟩
  rw [Pointer.isScalar_text, hv, List.all_append, hplace, hrest, Bool.and_self]

theorem Within.scalarUpToName_of_scalar (hplace : place.all Text.isScalar = true)
    (h : v.Within place) : (Failure.api v.error).ScalarUpToName :=
  Failure.scalarUpToName_of_scalar (h.scalar_error hplace)

theorem Within.scalarUpToName {name : Text} (h : v.Within (relationshipsPlace ++ [name])) :
    (Failure.api v.error).ScalarUpToName := by
  intro hnames
  obtain ⟨rest, -, hv⟩ := h.below
  have hname : name.isScalar = true := hnames name rest <| by
    rw [error, ApiError.of, hv, List.append_assoc, List.singleton_append]
  refine h.scalar_error ?_
  have hfront : relationshipsPlace.all Text.isScalar = true := rfl
  rw [List.all_append, hfront, List.all_cons, hname]
  rfl

theorem failsOnly_checkIdentity (hmethod : method.isScalar = true) (type id : Json) :
    (checkIdentity method type id).FailsOnly (Within []) := by
  unfold checkIdentity
  split
  · split
    · split_ifs
      · exact Except.failsOnly_error_iff.2 ⟨⟨idPlace, rfl, rfl⟩, fun _ => hmethod⟩
      · exact Except.failsOnly_ok _
    · exact Except.failsOnly_error_iff.2 ⟨⟨idPlace, rfl, rfl⟩, fun _ => rfl⟩
  · exact Except.failsOnly_error_iff.2 ⟨⟨typePlace, rfl, rfl⟩, fun _ => rfl⟩

theorem failsOnly_checkMember (place : Pointer) (m : IdentifierMember) (ms : Members) :
    (checkMember place m ms).FailsOnly (Within place) := by
  unfold checkMember
  split
  · exact Except.failsOnly_ok _
  · refine Except.failsOnly_error_iff.2 ⟨⟨[m.name], ?_, rfl⟩, fun _ => rfl⟩
    rw [List.all_cons, m.isScalar_name]
    rfl

theorem failsOnly_checkIdentifier (place : Pointer) (ms : Members) :
    (checkIdentifier place ms).FailsOnly (Within place) := by
  have htype := failsOnly_checkMember place .type ms
  have hid := failsOnly_checkMember place .id ms
  exact htype.bind fun _ _ => hid.bind fun _ _ => Except.failsOnly_ok _

/-- A rule that is broken at the place itself, by a value whose texts it does not quote. -/
theorem within_self {r : Rule} (hr : r.quoted.isScalar = true) (place : Pointer) :
    Within place ⟨r, place⟩ :=
  ⟨⟨[], rfl, (List.append_nil place).symm⟩, fun _ => hr⟩

end Violation

open Violation (Within)

theorem Identifier.failsOnly_ofPrimary (place : Pointer) (v : Json) :
    (Identifier.ofPrimary place v).FailsOnly (Within place) := by
  unfold Identifier.ofPrimary
  split
  · exact Violation.failsOnly_checkIdentifier place _
  · exact Except.failsOnly_error_iff.2 (Violation.within_self rfl place)

theorem Linkage.failsOnly_itemsOfPrimary (place : Pointer) (n : Nat) (vs : List Json) :
    (Linkage.itemsOfPrimary place n vs).FailsOnly (Within place) := by
  induction vs generalizing n with
  | nil => exact Except.failsOnly_ok _
  | cons v vs ih =>
    have hnumber : ([Text.ofNat n] : Pointer).all Text.isScalar = true := by
      rw [List.all_cons, Text.isScalar_ofNat]
      rfl
    have hitem := (Identifier.failsOnly_ofPrimary (place ++ [Text.ofNat n]) v).mono fun _ =>
      Within.mono hnumber
    exact hitem.bind fun _ _ => (ih (n + 1)).bind fun _ _ => Except.failsOnly_ok _

theorem Linkage.failsOnly_ofPrimary (place : Pointer) (v : Json) :
    (Linkage.ofPrimary place v).FailsOnly (Within place) := by
  unfold Linkage.ofPrimary
  split
  · exact Except.failsOnly_ok _
  · exact Except.failsOnly_map_iff.2 (Violation.failsOnly_checkIdentifier place _)
  · exact Except.failsOnly_map_iff.2 (Linkage.failsOnly_itemsOfPrimary place 0 _)
  · exact Except.failsOnly_error_iff.2 (Violation.within_self rfl place)

theorem Relationship.failsOnly_ofPrimary (name : Text) (v : Json) :
    (Relationship.ofPrimary name v).FailsOnly
      (Within (Violation.relationshipsPlace ++ [name])) := by
  unfold Relationship.ofPrimary
  dsimp only
  split
  · have hdata : (["data"] : Pointer).all Text.isScalar = true := rfl
    rw [Except.failsOnly_map_iff]
    refine (Linkage.failsOnly_ofPrimary _ _).mono fun v h => Within.mono hdata ?_
    rwa [List.append_assoc]
  · refine Except.failsOnly_error_iff.2 ⟨⟨[], rfl, (List.append_nil _).symm⟩, fun hplace => ?_⟩
    rw [List.all_append, List.all_cons] at hplace
    exact (Bool.and_eq_true_iff.1 (Bool.and_eq_true_iff.1 hplace).2).1

theorem Relationships.failsOnly_ofPrimary (v : Json) :
    (Relationships.ofPrimary v).FailsOnly fun v => (Failure.api v.error).ScalarUpToName := by
  unfold Relationships.ofPrimary
  split
  · rw [Except.failsOnly_map_iff]
    refine Except.failsOnly_mapM fun m _ => ?_
    rw [Except.failsOnly_map_iff]
    exact (Relationship.failsOnly_ofPrimary m.1 m.2).mono fun _ h => h.scalarUpToName
  · exact Except.failsOnly_error_iff.2 ((Violation.within_self rfl _).scalarUpToName_of_scalar rfl)

/-- A rejection that quotes the wording of an error of a coding, which is spelled in ASCII. -/
theorem ApiError.scalar_of_coding {c : ErrorClass} {front : String} (e : CodingError)
    (cause : Option Fault) (pointer : Option Text) (hpointer : ∀ p ∈ pointer, p.isScalar = true) :
    (ApiError.of c ((front : Text) ++ e.message) pointer cause).Scalar := by
  refine ⟨?_, ?_, hpointer⟩
  · cases c <;> exact Text.isScalar_ofString _
  · rw [ApiError.of, Text.isScalar_append, Text.isScalar_ofString, e.isScalar_message]
    rfl

namespace Resource

variable {method : Text}

theorem failsOnly_ofPrimary_scalar (hmethod : method.isScalar = true) (v : Json) :
    (ofPrimary method v).FailsOnly (·.failure.ScalarUpToName) := by
  unfold ofPrimary
  split
  · refine Except.FailsOnly.bind (Except.failsOnly_mapError_iff.2 ?_) fun identity _ => ?_
    · exact (Violation.failsOnly_checkIdentity hmethod _ _).mono fun _ h =>
        h.scalarUpToName_of_scalar rfl
    refine Except.FailsOnly.bind (Except.failsOnly_mapError_iff.2 ?_) fun attributes _ => ?_
    · exact fun e _ => Failure.scalarUpToName_of_scalar
        (ApiError.scalar_of_coding e _ _ fun _ hp => Option.some.inj hp ▸ rfl)
    refine Except.FailsOnly.bind (Except.failsOnly_mapError_iff.2 ?_) fun relationships _ => ?_
    · cases Members.get? "relationships" _ with
      | none => exact Except.failsOnly_ok _
      | some v => exact Except.failsOnly_map_iff.2 (Relationships.failsOnly_ofPrimary v)
    -- what was read may still make no resource, but that is no error of the API
    exact Except.failsOnly_mapError_iff.2 fun _ _ => trivial
  · exact Except.failsOnly_error_iff.2 ((Violation.within_self rfl _).scalarUpToName_of_scalar rfl)

theorem failsOnly_listOfPrimary_scalar (hmethod : method.isScalar = true) (v : Json) :
    (listOfPrimary method v).FailsOnly (·.failure.ScalarUpToName) := by
  unfold listOfPrimary
  split
  · exact Except.failsOnly_mapM fun v _ => failsOnly_ofPrimary_scalar hmethod v
  · exact Except.failsOnly_error_iff.2 ((Violation.within_self rfl _).scalarUpToName_of_scalar rfl)

end Resource

theorem Negotiation.failsOnly_checkGiven_scalar {settings : Except ValidationError Settings}
    {headers : GivenHeaders} (hsettings : ∀ s, settings = .ok s → s.mediaType.isScalar = true) :
    (checkGiven settings headers).FailsOnly Failure.ScalarUpToName := by
  -- settings and headers that cannot be read are faults
  refine Except.FailsOnly.bind (Except.failsOnly_mapError_iff.2 fun _ _ => trivial) fun s hs => ?_
  refine Except.FailsOnly.bind (Except.failsOnly_mapError_iff.2 fun _ _ => trivial) fun h _ => ?_
  have hmediaType := hsettings s (Except.mapError_eq_ok_iff.1 hs)
  rw [Except.failsOnly_mapError_iff]
  intro r hr
  refine Failure.scalarUpToName_of_scalar ⟨Text.isScalar_ofString _, ?_, nofun⟩
  exact (r.isScalar_message hmediaType).trans (failsOnly_check s h r hr)

namespace Document

variable {α : Type} {parse : Json → Except Rejection α} {entry : α → Text}
  {settings : Except ValidationError Settings} {headers : GivenHeaders} {method : Text}
  {content : Bytes} {e : ApiError}

theorem failsOnly_primary (v : Json) : (primary v).FailsOnly (Violation.Within []) := by
  unfold primary
  split
  · split
    · exact Except.failsOnly_ok _
    · exact Except.failsOnly_error_iff.2 ⟨⟨Violation.dataPlace, rfl, rfl⟩, fun _ => rfl⟩
  · exact Except.failsOnly_error_iff.2 (Violation.within_self rfl [])

theorem failsOnly_ofBytes_scalar
    (hparse : ∀ v : Json, (parse v).FailsOnly (·.failure.ScalarUpToName)) :
    (ofBytes parse content).FailsOnly Failure.ScalarUpToName := by
  refine Except.FailsOnly.bind (Except.failsOnly_mapError_iff.2 ?_) fun v _ => ?_
  · exact fun e _ => Failure.scalarUpToName_of_scalar (ApiError.scalar_of_coding e _ none nofun)
  refine Except.FailsOnly.bind (Except.failsOnly_mapError_iff.2 ?_) fun data _ => ?_
  · exact (failsOnly_primary v).mono fun _ h => h.scalarUpToName_of_scalar rfl
  exact Except.failsOnly_mapError_iff.2 (hparse data)

theorem failsOnly_read_scalar (hsettings : ∀ s, settings = .ok s → s.mediaType.isScalar = true)
    (hparse : ∀ v : Json, (parse v).FailsOnly (·.failure.ScalarUpToName)) :
    (read parse entry settings headers (.bytes content)).result.FailsOnly
      Failure.ScalarUpToName := by
  rw [result_read]
  exact (Negotiation.failsOnly_checkGiven_scalar hsettings).bind fun _ _ =>
    failsOnly_ofBytes_scalar hparse

/-- **The document of a rejection** is rendered exactly when the name of the relationship that it
points at, if it points at one, holds no halves of surrogate pairs, and is read as an object with
the status in digits, the code, the title and the detail, and with the pointer in a source exactly
if there is one.  The method and the media type that the messages quote are to hold none either. -/
theorem rejection_rendered_iff (hmethod : method.isScalar = true)
    (hsettings : ∀ s, settings = .ok s → s.mediaType.isScalar = true)
    (h : (readSingle method settings headers (.bytes content)).result = .error (.api e) ∨
      (readMany method settings headers (.bytes content)).result = .error (.api e))
    (indent : Option Int) :
    ((∃ bs, render indent e.document = .ok bs) ↔ ∀ name rest,
        e.pointer = some (Pointer.text (Violation.relationshipsPlace ++ name :: rest)) →
          name.isScalar = true) ∧
      ∀ bs, render indent e.document = .ok bs →
        Json.ofBytes bs = .ok (.object [("errors", .array [.object
          (([("status", .string (Text.ofInt e.status)), ("code", .string e.errorClass.kind),
            ("title", .string e.title), ("detail", .string e.detail)] : Members) ++
            (e.pointer.toList.map fun p => ("source", .object [("pointer", .string p)]) :
              Members))])]) := by
  have hscalar : Failure.ScalarUpToName (.api e) := h.elim
    (failsOnly_read_scalar hsettings (Resource.failsOnly_ofPrimary_scalar hmethod) _)
    (failsOnly_read_scalar hsettings (Resource.failsOnly_listOfPrimary_scalar hmethod) _)
  obtain ⟨hrender, hread⟩ := e.ofBytes_render_document indent
  refine ⟨hrender.trans ⟨fun he name rest hpointer => ?_, hscalar⟩, fun bs hbs => ?_⟩
  · exact Pointer.isScalar_of_mem (he.pointer _ hpointer) (by simp)
  · rw [hread bs hbs, ApiError.document, ErrorObject.document, ApiError.toJson,
      ApiError.members_object]

/-- A relationship whose name holds a slash and a tilde is refused with an error that is
rendered. -/
theorem rejection_rendered_comments :
    ∃ document : Json, document = .object [("data", .object [("type", .string "user"),
        ("id", .string "1"), ("relationships", .object [("a/b~c", .object [])])])] ∧
      ∃ e bs, (readSingle "GET" (.ok .default)
          [(.text "Content-Type", .text "application/vnd.api+json")]
          (.bytes (Utf8.encodeScalars (document.write .oneLine)))).result = .error (.api e) ∧
        e.pointer = some "/data/relationships/a~1b~0c" ∧ render none e.document = .ok bs := by
  refine ⟨_, rfl, ?_⟩
  obtain ⟨e, he, hp⟩ := Except.exists_api_of
    (x := (readSingle "GET" (.ok .default)
      [(.text "Content-Type", .text "application/vnd.api+json")]
      (.bytes (Utf8.encodeScalars (Json.write .oneLine (.object [("data",
        .object [("type", .string "user"), ("id", .string "1"),
          ("relationships", .object [("a/b~c", .object [])])])]))))).result)
    (p := fun e => e.pointer = some "/data/relationships/a~1b~0c") (by decide +kernel)
  have hpointer : e.pointer = some "/data/relationships/a~1b~0c" := of_decide_eq_true hp
  have h := rejection_rendered_iff rfl (fun _ hs => Except.ok.inj hs ▸ rfl) (.inl he) none
  obtain ⟨bs, hbs⟩ := h.1.2 fun name rest hname =>
    Pointer.isScalar_of_mem (p := Violation.relationshipsPlace ++ name :: rest)
      (Option.some.inj (hpointer.symm.trans hname) ▸ rfl) (by simp)
  exact ⟨e, bs, he, hpointer, hbs⟩

/-- The error for half of a surrogate pair in the name of a relationship is not rendered, nor is the
one for such a method. -/
theorem rejection_not_rendered :
    (∃ e, (readSingle "GET" (.ok .default)
          [(.text "Content-Type", .text "application/vnd.api+json")]
          (.bytes (Utf8.encodeScalars (Json.writeAscii .oneLine (.object [("data",
            .object [("type", .string "user"), ("id", .string "1"),
              ("relationships", .object [([.surrogate 0], .object [])])])]))))).result =
            .error (.api e) ∧
        ¬ ∃ bs, render defaultIndent e.document = .ok bs) ∧
      ∃ e, (readSingle [.surrogate 0] (.ok .default)
          [(.text "Content-Type", .text "application/vnd.api+json")]
          (.bytes (Utf8.encodeScalars (Json.write .oneLine (.object [("data",
            .object [("type", .string "user")])]))))).result = .error (.api e) ∧
        ¬ ∃ bs, render defaultIndent e.document = .ok bs := by
  have hnot : ∀ e : ApiError, (! e.detail.isScalar) = true →
      ¬ ∃ bs, render defaultIndent e.document = .ok bs := fun e he h => by
    rw [((e.ofBytes_render_document _).1.1 h).detail] at he
    cases he
  constructor
  · obtain ⟨e, he, hdetail⟩ := Except.exists_api_of
      (x := (readSingle "GET" (.ok .default)
        [(.text "Content-Type", .text "application/vnd.api+json")]
        (.bytes (Utf8.encodeScalars (Json.writeAscii .oneLine (.object [("data",
          .object [("type", .string "user"), ("id", .string "1"),
            ("relationships", .object [([.surrogate 0], .object [])])])]))))).result)
      (p := fun e => ! e.detail.isScalar) (by decide +kernel)
    exact ⟨e, he, hnot e hdetail⟩
  · obtain ⟨e, he, hdetail⟩ := Except.exists_api_of
      (x := (readSingle [.surrogate 0] (.ok .default)
        [(.text "Content-Type", .text "application/vnd.api+json")]
        (.bytes (Utf8.encodeScalars (Json.write .oneLine (.object [("data",
          .object [("type", .string "user")])]))))).result)
      (p := fun e => ! e.detail.isScalar) (by decide +kernel)
    exact ⟨e, he, hnot e hdetail⟩

end Document

end JsonApi
