import JsonApi.Document.Reading
import JsonApi.Proofs.Body

/-!
# The steps of reading

Reading goes through the headers, the body and its bytes, in this order, and what is done with the
body on the way is told by the check of the headers alone (`Document.outcome_handle`).  What is
returned and logged follows from the result (`Document.read_eq`): under accepted headers bytes at
hand have to hold an object whose primary data can be read.
-/

namespace JsonApi

theorem Outcome.result_logged {α : Type} (entry : α → Text) (x : Except Failure α) :
    (logged entry x).result = x := by
  cases x with
  | ok a => rfl
  | error f => cases f <;> rfl

namespace Document

variable {α : Type} {parse : Json → Except Rejection α} {settings : Except ValidationError Settings}
  {headers : GivenHeaders} {body : Body} {bs : Bytes}

/-! ### Steps -/

open Body.Handling

/-- The steps that are taken with a body, by what has come of checking the headers. -/
def stepsAfter (body : Body) : Except Failure Unit → List Body.Event
  | .ok () => body.draining
  | .error (.api e) => if e.errorClass = .headerNegotiation then body.closing else []
  | .error (.fault _) => []

theorem outcome_closeRefused (body : Body) (f : Failure) (before : List Body.Event) :
    (closeRefused body f).outcome before = (.ok (), before ++ stepsAfter body (.error f)) := by
  cases f with
  | api e =>
    rw [closeRefused, stepsAfter]
    split_ifs
    · exact Body.outcome_close body before
    · exact outcome_pure () before
  | fault f => exact outcome_pure () before

/-- The bytes are taken out of a body once the headers are accepted; when they are not, the body may
be closed, and nothing else is done with it. -/
theorem outcome_load (settings : Except ValidationError Settings) (headers : GivenHeaders)
    (body : Body) (before : List Body.Event) : (load settings headers body).outcome before =
      (Negotiation.checkGiven settings headers >>= fun _ => body.read,
        before ++ stepsAfter body (Negotiation.checkGiven settings headers)) := by
  have hcheck := outcome_ofExcept (Negotiation.checkGiven settings headers) before
  rw [load]
  cases h : Negotiation.checkGiven settings headers with
  | ok u =>
    rw [h] at hcheck
    exact (outcome_bind_of_ok (outcome_tryCatch_of_ok hcheck)).trans
      (Body.outcome_drain body before)
  | error f =>
    rw [h] at hcheck
    have hclosed := outcome_bind_of_ok (f := fun _ => (throw f : Body.Handling Unit))
      (outcome_closeRefused body f before)
    exact outcome_bind_of_error ((outcome_tryCatch_of_error hcheck).trans hclosed)

/-- **Reading goes through the headers, the body and its bytes**, in this order; what the bytes hold
does not matter to the body. -/
theorem outcome_handle (parse : Json → Except Rejection α)
    (settings : Except ValidationError Settings) (headers : GivenHeaders) (body : Body)
    (before : List Body.Event) : (handle parse settings headers body).outcome before =
      (Negotiation.checkGiven settings headers >>= fun _ => body.read >>= ofBytes parse,
        before ++ stepsAfter body (Negotiation.checkGiven settings headers)) := by
  have hload := outcome_load settings headers body before
  have hassoc : (Negotiation.checkGiven settings headers >>= fun _ => body.read >>= ofBytes parse) =
      (Negotiation.checkGiven settings headers >>= fun _ => body.read) >>= ofBytes parse :=
    (bind_assoc _ _ _).symm
  rw [handle, hassoc]
  cases h : Negotiation.checkGiven settings headers >>= fun _ => body.read with
  | ok bs =>
    rw [h] at hload
    exact (outcome_bind_of_ok hload).trans (outcome_ofExcept _ _)
  | error f =>
    rw [h] at hload
    exact outcome_bind_of_error hload

/-! ### Results -/

/-- What is returned and logged follows from what comes of the headers, the body and its bytes. -/
theorem read_eq (entry : α → Text) : read parse entry settings headers body =
    .logged entry (Negotiation.checkGiven settings headers >>= fun _ =>
      body.read >>= ofBytes parse) := by
  rw [read, result, outcome_handle]

theorem result_read (entry : α → Text) : (read parse entry settings headers body).result =
    Negotiation.checkGiven settings headers >>= fun _ => body.read >>= ofBytes parse := by
  rw [read_eq, Outcome.result_logged]

/-- The headers decide nothing but whether the bytes are read. -/
theorem result_read_bytes (entry : α → Text)
    (hheaders : Negotiation.checkGiven settings headers = .ok ()) (bs : Bytes) :
    (read parse entry settings headers (.bytes bs)).result = ofBytes parse bs := by
  rw [result_read, hheaders]
  rfl

theorem primary_eq_ok_iff {v data : Json} :
    primary v = .ok data ↔ ∃ ms, v = .object ms ∧ Members.get? "data" ms = some data := by
  unfold primary
  split
  · rename_i ms
    cases h : Members.get? "data" ms <;> simp [h]
  · rename_i h
    constructor
    · nofun
    · rintro ⟨ms, rfl, -⟩
      exact absurd rfl (h ms)

theorem ofBytes_eq_ok_iff {a : α} :
    ofBytes parse bs = .ok a ↔ ∃ ms data, Json.ofBytes bs = .ok (.object ms) ∧
      Members.get? "data" ms = some data ∧ parse data = .ok a := by
  constructor
  · intro h
    obtain ⟨v, hv, hrest⟩ := Except.bind_eq_ok_iff.1 h
    obtain ⟨data, hdata, hparse⟩ := Except.bind_eq_ok_iff.1 hrest
    rw [Except.mapError_eq_ok_iff] at hv hdata hparse
    obtain ⟨ms, hv', hms⟩ := primary_eq_ok_iff.1 hdata
    exact ⟨ms, data, hv' ▸ hv, hms, hparse⟩
  · rintro ⟨ms, data, hv, hms, h⟩
    have hdata := primary_eq_ok_iff.2 ⟨ms, rfl, hms⟩
    simp only [ofBytes, hv, hdata, h, Except.ok_mapError, Except.ok_bind]

/-- The reading of bytes that hold a document ends as the reading of its primary data does. -/
theorem ofBytes_of_data {ms : Members} {data : Json} (hbs : Json.ofBytes bs = .ok (.object ms))
    (hdata : Members.get? "data" ms = some data) :
    ofBytes parse bs = (parse data).mapError Rejection.failure := by
  have hprimary := primary_eq_ok_iff.2 ⟨ms, rfl, hdata⟩
  simp only [ofBytes, hbs, hprimary, Except.ok_mapError, Except.ok_bind]

end Document

end JsonApi
