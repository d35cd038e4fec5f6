import JsonApi.Proofs.Body
import JsonApi.Proofs.Document.Grammar
import JsonApi.Proofs.Headers

/-!
# How reading ends

Headers are checked, the body is read, and its bytes are parsed; each step ends the reading in a
way of its own.

* `Document.fails_in_terms_iff` : reading keeps to the terms of the API as long as the settings are
  valid, the headers are ASCII, and the text of the body has a form in UTF-8;
* `Document.released_iff` : a source that can be closed is closed unless the settings or the headers
  could not be read, and refused headers leave it unread.
-/

namespace JsonApi

/-! ### Headers -/

namespace Negotiation

variable {settings : Except ValidationError Settings} {headers : GivenHeaders}

theorem failsOnly_checkGiven_within : (checkGiven settings headers).FailsOnly
    (Failure.Within [.headerNegotiation]) := by
  rw [checkGiven, Except.failsOnly_bind_iff, Except.failsOnly_mapError_iff]
  refine ⟨fun _ _ => trivial, fun s _ => ?_⟩
  rw [Except.failsOnly_bind_iff, Except.failsOnly_mapError_iff]
  refine ⟨fun _ _ => trivial, fun h _ => ?_⟩
  rw [Except.failsOnly_mapError_iff]
  exact fun _ _ => List.mem_singleton_self _

/-- Headers are accepted or refused once the settings are valid and the headers are in bytes. -/
theorem failsOnly_checkGiven_iff : (checkGiven settings headers).FailsOnly Failure.IsReported ↔
    (∃ s, settings = .ok s) ∧ headers.IsAscii := by
  cases settings with
  | error e => simp [checkGiven, Failure.IsReported]
  | ok s =>
    have hexists : (∃ h, Headers.ofPairs headers = .ok h) ↔ headers.IsAscii :=
      Headers.exists_ofPairs_iff
    cases hh : Headers.ofPairs headers with
    | error e => simpa [checkGiven, hh, Failure.IsReported] using hexists
    | ok h =>
      have hascii : headers.IsAscii := hexists.1 ⟨h, hh⟩
      simp only [checkGiven, hh, Except.ok_mapError, Except.ok_bind, Except.failsOnly_mapError_iff,
        hascii, and_true]
      exact ⟨fun _ => ⟨s, rfl⟩, fun _ _ _ => trivial⟩

end Negotiation

/-! ### Primary data -/

theorem Rejection.failure_within (r : Rejection) :
    r.failure.Within [.internal, .specification] := by
  cases r with
  | violation v => exact List.mem_cons_of_mem _ (List.mem_singleton_self _)
  | attributes e => exact List.mem_cons_self
  | resource f => trivial

namespace Resource

variable {method : Text}

/-- What was read from an object always makes a resource. -/
theorem failsOnly_ofPrimaryMembers {ms : Members} (hms : ∀ m ∈ ms, m.2.Settled) :
    (ofPrimaryMembers method ms).FailsOnly (·.failure.IsReported) := by
  rw [ofPrimaryMembers, Except.failsOnly_bind_iff, Except.failsOnly_mapError_iff]
  refine ⟨fun _ _ => trivial, fun identity _ => ?_⟩
  rw [Except.failsOnly_bind_iff, Except.failsOnly_mapError_iff]
  refine ⟨fun _ _ => trivial, fun bs hbs => ?_⟩
  rw [Except.failsOnly_bind_iff, Except.failsOnly_mapError_iff]
  refine ⟨fun _ _ => trivial, fun rs _ => ?_⟩
  obtain ⟨as, has, -⟩ := exists_attributes (settled_of_get hms) (Except.mapError_eq_ok_iff.1 hbs)
  rw [ofParts_eq_ok has]
  exact Except.failsOnly_ok _

theorem failsOnly_ofPrimary {v : Json} (hv : v.Settled) :
    (ofPrimary method v).FailsOnly (·.failure.IsReported) := by
  match v with
  | .object ms => exact failsOnly_ofPrimaryMembers (Document.settled_members hv)
  | .null | .bool _ | .int _ | .float _ | .string _ | .array _ =>
    exact Except.failsOnly_error_iff.2 trivial

theorem failsOnly_listOfPrimary {v : Json} (hv : v.Settled) :
    (listOfPrimary method v).FailsOnly (·.failure.IsReported) := by
  cases hv with
  | array h => exact Except.failsOnly_mapM fun v hv => failsOnly_ofPrimary (h v hv)
  | null | bool | int | float | string | object => exact Except.failsOnly_error_iff.2 trivial

end Resource

namespace Document

variable {α : Type} {parse : Json → Except Rejection α} {entry : α → Text}
  {settings : Except ValidationError Settings} {headers : GivenHeaders} {body : Body} {bs : Bytes}

theorem failsOnly_ofBytes_within :
    (ofBytes parse bs).FailsOnly (Failure.Within [.internal, .specification]) := by
  rw [ofBytes, Except.failsOnly_bind_iff, Except.failsOnly_mapError_iff]
  refine ⟨fun _ _ => List.mem_cons_self, fun v _ => ?_⟩
  rw [Except.failsOnly_bind_iff, Except.failsOnly_mapError_iff]
  refine ⟨fun _ _ => List.mem_cons_of_mem _ (List.mem_singleton_self _), fun data _ => ?_⟩
  rw [Except.failsOnly_mapError_iff]
  exact fun r _ => r.failure_within

/-- Bytes hold a document or are refused when that can be said of all primary data that bytes can
hold. -/
theorem failsOnly_ofBytes
    (hparse : ∀ v : Json, v.Settled → (parse v).FailsOnly (·.failure.IsReported)) :
    (ofBytes parse bs).FailsOnly Failure.IsReported := by
  rw [ofBytes, Except.failsOnly_bind_iff, Except.failsOnly_mapError_iff]
  refine ⟨fun _ _ => trivial, fun v hv => ?_⟩
  rw [Except.failsOnly_bind_iff, Except.failsOnly_mapError_iff]
  refine ⟨fun _ _ => trivial, fun data hdata => ?_⟩
  rw [Except.failsOnly_mapError_iff]
  obtain ⟨ms, hms, hget⟩ := primary_eq_ok_iff.1 (Except.mapError_eq_ok_iff.1 hdata)
  exact hparse data
    (settled_data (Json.settled_of_ofBytes (Except.mapError_eq_ok_iff.1 hv)) hms hget)

/-! ### Whole documents -/

/-- What can be read as far as the end of the headers and, if they are accepted, of the body. -/
structure Legible (settings : Except ValidationError Settings) (headers : GivenHeaders)
    (body : Body) : Prop where
  valid : ∃ s, settings = .ok s
  ascii : headers.IsAscii
  scalar : Negotiation.checkGiven settings headers = .ok () → body.Scalar

/-- The classes of the errors that reading reports. -/
def readingClasses : List ErrorClass := [.headerNegotiation, .internal, .specification]

theorem failsOnly_read_iff (hbody : body.Admitted)
    (hparse : ∀ v : Json, v.Settled → (parse v).FailsOnly (·.failure.IsReported)) :
    (read parse entry settings headers body).result.FailsOnly (Failure.IsOf readingClasses) ↔
      Legible settings headers body := by
  have hwithin : (read parse entry settings headers body).result.FailsOnly
      (Failure.Within readingClasses) := by
    rw [result_read, Except.failsOnly_bind_iff]
    refine ⟨Negotiation.failsOnly_checkGiven_within.mono fun _ => Failure.Within.mono (by decide),
      fun _ _ => ?_⟩
    rw [Except.failsOnly_bind_iff]
    exact ⟨body.failsOnly_read_within.mono fun _ => Failure.Within.mono (by decide),
      fun _ _ => failsOnly_ofBytes_within.mono fun _ => Failure.Within.mono (by decide)⟩
  rw [Except.failsOnly_isOf_iff hwithin, result_read, Except.failsOnly_bind_iff,
    Negotiation.failsOnly_checkGiven_iff]
  have hrest : (body.read >>= ofBytes parse).FailsOnly Failure.IsReported ↔ body.Scalar := by
    rw [Except.failsOnly_bind_iff, Body.failsOnly_read_iff hbody]
    exact and_iff_left fun _ _ => failsOnly_ofBytes hparse
  simp only [hrest]
  exact ⟨fun ⟨⟨hs, hh⟩, hb⟩ => ⟨hs, hh, hb ()⟩, fun ⟨hs, hh, hb⟩ => ⟨⟨hs, hh⟩, fun () => hb⟩⟩

/-- **Reading ends in the terms of the API** exactly when what is given is legible: a document in an
admitted body is read, or refused with an error for its headers, its bytes or its structure. -/
theorem fails_in_terms_iff (method : Text) (settings : Except ValidationError Settings)
    (headers : GivenHeaders) {body : Body} (hbody : body.Admitted) :
    ((readSingle method settings headers body).result.FailsOnly (Failure.IsOf readingClasses) ↔
      Legible settings headers body) ∧
    ((readMany method settings headers body).result.FailsOnly (Failure.IsOf readingClasses) ↔
      Legible settings headers body) :=
  ⟨failsOnly_read_iff hbody fun _ => Resource.failsOnly_ofPrimary,
    failsOnly_read_iff hbody fun _ => Resource.failsOnly_listOfPrimary⟩

/-- A file that cannot be read to its end is reported as an internal error. -/
theorem fails_in_terms_on_device :
    Body.Admitted (.source ⟨.file, [.bytes [123]], some ⟨true, "[Errno 5] disk on fire"⟩⟩) ∧
      (readSingle "POST" (.ok .default)
        [(.text "Content-Type", .text "application/vnd.api+json")]
        (.source ⟨.file, [.bytes [123]], some ⟨true, "[Errno 5] disk on fire"⟩⟩)).result.FailsOnly
          (Failure.IsOf readingClasses) := by
  have hbody : Body.Admitted
      (.source ⟨.file, [.bytes [123]], some ⟨true, "[Errno 5] disk on fire"⟩⟩) :=
    ⟨List.forall_mem_singleton.2 rfl, fun f hf => Option.some.inj hf ▸ rfl⟩
  refine ⟨hbody, (fails_in_terms_iff "POST" _ _ hbody).1.2 ⟨⟨_, rfl⟩, ?_, fun _ => nofun⟩⟩
  decide +kernel

/-- Neither half of a surrogate pair in a body nor a header value that is not ASCII is reported in
the terms of the API. -/
theorem fails_otherwise :
    ¬ (readSingle "POST" (.ok .default)
        [(.text "Content-Type", .text "application/vnd.api+json")]
        (.text [.scalar '{', .surrogate 0, .scalar '}'])).result.FailsOnly
          (Failure.IsOf readingClasses) ∧
      ¬ (readMany "POST" (.ok .default)
        [(.text "Content-Type", .text "application/vnd.api+json"),
          (.text "X-Name", .text "é")] .absent).result.FailsOnly
          (Failure.IsOf readingClasses) :=
  ⟨fun h => h _ rfl, fun h => h _ rfl⟩

/-! ### Sources are closed -/

/-- How reading treats a source that can be closed: it is closed at most once and not read behind
that; it is closed exactly when the settings are valid and the headers can be read; and headers that
are refused close it unread. -/
structure Releases {α : Type} (settings : Except ValidationError Settings) (headers : GivenHeaders)
    (result : Except Failure α) (events : List Body.Event) : Prop where
  once : events = [] ∨ events = [.close] ∨ events = [.read, .close]
  closed_iff : .close ∈ events ↔ (∃ s, settings = .ok s) ∧ headers.IsAscii
  unread : ∀ e : ApiError, result = .error (.api e) → e.errorClass = .headerNegotiation →
    events = [.close]

theorem events_handle : (handle parse settings headers body).events =
    stepsAfter body (Negotiation.checkGiven settings headers) := by
  rw [Body.Handling.events, outcome_handle]
  exact List.nil_append _

/-- Headers that are refused are the only ones that end the reading as such: neither the body nor
its bytes are at fault with them. -/
theorem checkGiven_of_refused {e : ApiError} (he : e.errorClass = .headerNegotiation)
    (h : (read parse entry settings headers body).result = .error (.api e)) :
    Negotiation.checkGiven settings headers = .error (.api e) := by
  rw [result_read] at h
  cases hcheck : Negotiation.checkGiven settings headers with
  | error f =>
    rw [hcheck] at h
    exact congrArg Except.error (Except.error.inj h)
  | ok u =>
    rw [hcheck, Except.ok_bind] at h
    have hwithin : (body.read >>= ofBytes parse).FailsOnly
        (Failure.Within [.internal, .specification]) := by
      rw [Except.failsOnly_bind_iff]
      exact ⟨body.failsOnly_read_within.mono fun _ => Failure.Within.mono (by decide),
        fun _ _ => failsOnly_ofBytes_within⟩
    have hclass : e.errorClass ∈ [ErrorClass.internal, .specification] := hwithin _ h
    rw [he] at hclass
    exact absurd hclass (by decide)

/-- Headers that are refused end the reading alike for all bodies. -/
theorem read_of_refused {e : ApiError} (he : e.errorClass = .headerNegotiation)
    (h : (read parse entry settings headers body).result = .error (.api e)) (other : Body) :
    read parse entry settings headers other = .logged entry (.error (.api e)) := by
  rw [read_eq, checkGiven_of_refused he h]
  rfl

/-- What is done with a source by the time that the check of the headers has come to an end, and the
document with it. -/
theorem stepsAfter_source {source : Body.Source} (hcloses : source.kind.closes = true)
    {x : Except Failure Unit} (hx : x.FailsOnly (Failure.Within [.headerNegotiation])) :
    (stepsAfter (.source source) x = [] ∧ ¬ x.FailsOnly Failure.IsReported) ∨
      ((stepsAfter (.source source) x = [.close] ∨
        stepsAfter (.source source) x = [.read, .close]) ∧ x.FailsOnly Failure.IsReported) := by
  have hclosing : Body.closing (.source source) = [.close] := if_pos hcloses
  cases x with
  | ok u =>
    rw [stepsAfter, Body.draining, hclosing]
    exact .inr ⟨.inr rfl, Except.failsOnly_ok u⟩
  | error f =>
    cases f with
    | api e =>
      have hclass : e.errorClass = .headerNegotiation := List.mem_singleton.1 (hx _ rfl)
      rw [stepsAfter, if_pos hclass, hclosing]
      exact .inr ⟨.inl rfl, Except.failsOnly_error_iff.2 trivial⟩
    | fault f => exact .inl ⟨rfl, fun h => h _ rfl⟩

theorem releases_read {source : Body.Source} (hcloses : source.kind.closes = true) :
    Releases settings headers (read parse entry settings headers (.source source)).result
      (handle parse settings headers (.source source)).events := by
  have hwithin : (Negotiation.checkGiven settings headers).FailsOnly
      (Failure.Within [.headerNegotiation]) := Negotiation.failsOnly_checkGiven_within
  have hsteps := stepsAfter_source hcloses hwithin
  rw [events_handle]
  refine ⟨?_, ?_, fun e h he => ?_⟩
  · rcases hsteps with ⟨h, -⟩ | ⟨h, -⟩
    · exact .inl h
    · exact .inr h
  · rw [← Negotiation.failsOnly_checkGiven_iff]
    rcases hsteps with ⟨h, hfaulted⟩ | ⟨h | h, hreported⟩
    · rw [h]
      exact iff_of_false List.not_mem_nil hfaulted
    · rw [h]
      exact iff_of_true (List.mem_singleton_self _) hreported
    · rw [h]
      exact iff_of_true (List.mem_cons_of_mem _ (List.mem_singleton_self _)) hreported
  · rw [checkGiven_of_refused he h, stepsAfter, if_pos he]
    exact if_pos hcloses

/-- **A source is closed** exactly when the settings are valid and the headers can be read, whatever
came of the document; and when the headers are refused it is closed unread, so that every body ends
alike. -/
theorem released_iff (method : Text) (settings : Except ValidationError Settings)
    (headers : GivenHeaders) (source : Body.Source) (hcloses : source.kind.closes = true) :
    Releases settings headers (readSingle method settings headers (.source source)).result
        (eventsOfSingle method settings headers (.source source)) ∧
      Releases settings headers (readMany method settings headers (.source source)).result
        (eventsOfMany method settings headers (.source source)) ∧
      ∀ e : ApiError, e.errorClass = .headerNegotiation →
        ((readSingle method settings headers (.source source)).result = .error (.api e) →
          ∀ body, readSingle method settings headers body = .logged singleEntry (.error (.api e))) ∧
        ((readMany method settings headers (.source source)).result = .error (.api e) →
          ∀ body, readMany method settings headers body = .logged manyEntry (.error (.api e))) :=
  ⟨releases_read hcloses, releases_read hcloses,
    fun _ he => ⟨read_of_refused he, read_of_refused he⟩⟩

/-- A file is closed unread when the content type is another one. -/
theorem file_closed_unread :
    Body.SourceKind.file.closes = true ∧
      eventsOfSingle "POST" (.ok .default) [(.text "Content-Type", .text "text/html")]
        (.source ⟨.file, [.bytes [123, 125]], none⟩) = [.close] ∧
      ∀ body, readSingle "POST" (.ok .default) [(.text "Content-Type", .text "text/html")] body =
        .logged singleEntry
          (.error (.api (Negotiation.Refusal.error .default (.mediaType "text/html")))) := by
  obtain ⟨hsingle, -, halike⟩ := released_iff "POST" (.ok .default)
    [(.text "Content-Type", .text "text/html")] ⟨.file, [.bytes [123, 125]], none⟩ rfl
  exact ⟨rfl, hsingle.unread _ rfl rfl, (halike _ rfl).1 rfl⟩

/-- A header value that is not ASCII leaves the file of the body open. -/
theorem file_left_open :
    .close ∉ eventsOfSingle "POST" (.ok .default)
      [(.text "Content-Type", .text "application/vnd.api+json"), (.text "X-Name", .text "é")]
      (.source ⟨.file, [.bytes [123, 125]], none⟩) := by
  decide +kernel

end Document

end JsonApi
