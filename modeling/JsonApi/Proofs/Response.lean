import JsonApi.Proofs.Except
import JsonApi.Response

/-!
# Reading a response again

A response whose content is not coded either supplies its bytes or withholds them: they are at
hand or wait in a stream (`Response.Supplies`), or the stream fails, has failed or has been closed
(`Response.Withholds`).  Reading it changes neither, though it uses up the stream, and a reply is
closed by every call.  So the calls before it do not change what a call gives
(`Reply.calls_agree`).
-/

namespace JsonApi

theorem Body.join_map_bytes (index : Nat) (bss : List Bytes) :
    join index (bss.map .bytes) = .ok bss.flatten := by
  induction bss generalizing index with
  | nil => rfl
  | cons bs bss ih => rw [List.map_cons, join, ih, Except.ok_map, List.flatten_cons]

namespace Response

/-- Headers without a field for it name no coding. -/
theorem Coding.ofHeaders_of_has {h : Headers} (hh : h.has "content-encoding" = false) :
    ofHeaders h = [] := by
  have hvalues : h.values "content-encoding" = [] := by simpa [Headers.has] using hh
  rw [ofHeaders, hvalues, List.flatMap_nil, List.filterMap_nil]

/-- The bytes are the content: at hand, or in a stream that can be read and does not fail, however
they are cut into chunks. -/
inductive Supplies (r : Response) (bs : Bytes) : Prop
  | held (h : r.content = .held bs)
  | waiting (bss : List Bytes) (h : r.content = .waiting (bss.map .bytes) none)
      (hclosed : r.closed = false) (hbs : bss.flatten = bs)

/-- There is no content any more, or there will be none once the stream is read: it fails, has
failed or has been closed. -/
inductive Withholds (r : Response) : Prop
  | spent (h : r.content = .spent)
  | closed (chunks : List Chunk) (failure : Option Transport.Failure)
      (h : r.content = .waiting chunks failure) (hclosed : r.closed = true)
  | failing (chunks : List Chunk) (f : Transport.Failure) (h : r.content = .waiting chunks (some f))

variable {r : Response} {bs : Bytes}

/-- There is no third kind of response, as long as its stream is one of bytes. -/
theorem exists_supplies_or_withholds
    (h : ∀ chunks failure, r.content = .waiting chunks failure →
      ∃ bss : List Bytes, chunks = bss.map .bytes) :
    (∃ bs, r.Supplies bs) ∨ r.Withholds := by
  cases hcontent : r.content with
  | held bs => exact .inl ⟨bs, .held hcontent⟩
  | spent => exact .inr (.spent hcontent)
  | waiting chunks failure =>
    obtain ⟨bss, rfl⟩ := h chunks failure hcontent
    cases failure with
    | some f => exact .inr (.failing _ f hcontent)
    | none =>
      by_cases hclosed : r.closed = true
      · exact .inr (.closed _ none hcontent hclosed)
      · exact .inl ⟨_, .waiting bss hcontent (Bool.eq_false_iff.2 hclosed) rfl⟩

/-- Reading turns to the content and to nothing else. -/
theorem exists_read_snd (r : Response) :
    ∃ content closed, r.read.2 = { r with content := content, closed := closed } := by
  unfold read
  split
  · exact ⟨_, _, rfl⟩
  · exact ⟨_, _, rfl⟩
  · split
    · exact ⟨_, _, rfl⟩
    · dsimp only
      split
      · exact ⟨_, _, rfl⟩
      · exact ⟨_, _, rfl⟩
      · split <;> exact ⟨_, _, rfl⟩

theorem decodeStream_of_uncoded (hcoding : Coding.ofHeaders r.headers = []) (chunks : List Chunk) :
    r.decodeStream chunks = none := by
  rw [decodeStream, if_pos hcoding]

/-- Chunks that hold nothing do not count. -/
theorem join_filter_isEmptyChunk (bss : List Bytes) :
    Body.join 0 ((bss.map Chunk.bytes).filter (! isEmptyChunk ·)) = .ok bss.flatten := by
  have hfilter : (bss.map Chunk.bytes).filter (! isEmptyChunk ·) =
      (bss.filter (decide <| · ≠ [])).map .bytes := by
    rw [List.filter_map]
    congr 1
    exact List.filter_congr fun bs _ => by simp [isEmptyChunk]
  rw [hfilter, Body.join_map_bytes, List.flatten_filter_ne_nil]

theorem Supplies.read (h : r.Supplies bs) (hcoding : Coding.ofHeaders r.headers = []) :
    r.read.1 = .ok bs ∧ r.read.2.close.Supplies bs := by
  cases h with
  | held h =>
    simp only [Response.read, h, true_and]
    exact .held h
  | waiting bss h hclosed hbs =>
    simp only [Response.read, h, hclosed, Bool.false_eq_true, if_false,
      decodeStream_of_uncoded hcoding, Option.getD_none, join_filter_isEmptyChunk, hbs, true_and]
    exact .held rfl

theorem Withholds.read (h : r.Withholds) (hcoding : Coding.ofHeaders r.headers = []) :
    (∃ f, Reply.isOfStream f = true ∧ r.read.1 = .error f) ∧ r.read.2.close.Withholds := by
  cases h with
  | spent h => simpa [Response.read, h, Reply.isOfStream] using .spent h
  | closed chunks failure h hclosed =>
    simpa [Response.read, h, hclosed, Reply.isOfStream] using .closed chunks failure h rfl
  | failing chunks f h =>
    cases hclosed : r.closed with
    | true => simpa [Response.read, h, hclosed, Reply.isOfStream] using .closed chunks _ h rfl
    | false =>
      simpa [Response.read, h, hclosed, decodeStream_of_uncoded hcoding, Reply.isOfStream]
        using .spent rfl

end Response

namespace Reply

/-- The calls that read a reply. -/
inductive Call
  | single
  | many

/-- The reply after a call. -/
def call : Call → Reply → Reply
  | .single, r => r.single.2
  | .many, r => r.many.2

/-- The reply after several calls. -/
def calls (cs : List Call) (r : Reply) : Reply := cs.foldl (fun r c => call c r) r

variable {r : Reply} {α : Type}
  {parse : Text → Except ValidationError Settings → GivenHeaders → Body → Outcome α}

theorem calls_induction {p : Reply → Prop} (hstep : ∀ c r, p r → p (call c r)) (cs : List Call)
    (h : p r) : p (calls cs r) := by
  induction cs generalizing r with
  | nil => exact h
  | cons c cs ih => exact ih (hstep c r h)

theorem readWith_snd : (readWith parse r).2 = { r with response := r.response.read.2.close } := by
  unfold readWith
  rcases r.response.read with ⟨_ | _, _⟩ <;> rfl

theorem readWith_of_ok {bs : Bytes} (h : r.response.read.1 = .ok bs) :
    (readWith parse r).1 = parse r.response.effectiveMethod (.ok r.settings)
      r.response.headers.given (.bytes bs) := by
  simp only [readWith, h]

theorem readWith_of_error {f : Fault} (h : r.response.read.1 = .error f) :
    (readWith parse r).1 = ⟨.error (readFailure f), []⟩ := by
  simp only [readWith, h]

theorem call_eq (c : Call) (r : Reply) :
    call c r = { r with response := r.response.read.2.close } := by
  cases c <;> exact readWith_snd

/-- The replies agree on all that reading turns to besides the content. -/
def Agrees (s r : Reply) : Prop :=
  s.settings = r.settings ∧ s.response.headers = r.response.headers ∧
    s.response.requestMethod = r.response.requestMethod

theorem Agrees.call {s : Reply} (h : s.Agrees r) (c : Call) : (call c s).Agrees r := by
  obtain ⟨content, closed, hread⟩ := s.response.exists_read_snd
  rw [call_eq, hread]
  exact h

theorem agrees_calls (cs : List Call) (r : Reply) : (calls cs r).Agrees r :=
  calls_induction (p := (Agrees · r)) (fun c _ h => h.call c) cs ⟨rfl, rfl, rfl⟩

/-- What reading keeps of a response whose content is not coded, calls keep. -/
theorem response_calls {p : Response → Prop}
    (hcoding : Response.Coding.ofHeaders r.response.headers = [])
    (hread : ∀ s, Response.Coding.ofHeaders s.headers = [] → p s → p s.read.2.close)
    (cs : List Call) (h : p r.response) :
    Response.Coding.ofHeaders (calls cs r).response.headers = [] ∧ p (calls cs r).response := by
  -- calls keep the headers, so the content is not coded at any of them
  have hstep : ∀ c s, Agrees s r ∧ p s.response → Agrees (call c s) r ∧ p (call c s).response := by
    rintro c s ⟨hagrees, hs⟩
    refine ⟨hagrees.call c, ?_⟩
    rw [call_eq]
    exact hread _ (by rw [hagrees.2.1, hcoding]) hs
  obtain ⟨hagrees, hs⟩ := calls_induction (p := fun s => Agrees s r ∧ p s.response) hstep cs
    ⟨⟨rfl, rfl, rfl⟩, h⟩
  exact ⟨by rw [hagrees.2.1, hcoding], hs⟩

/-- **Reading a reply again gives the same**, and closes its response each time.  Whatever calls
came before, a response that supplies its bytes is read as they are under its headers, the method
of its request and the settings; one that withholds them gives an internal error that names a fault
of the stream. -/
theorem calls_agree (hcoding : Response.Coding.ofHeaders r.response.headers = [])
    (cs : List Call) :
    ((calls cs r).single.2.response.closed = true ∧
        (calls cs r).many.2.response.closed = true) ∧
      (∀ bs, r.response.Supplies bs →
        (calls cs r).single.1 =
            Document.readSingle (r.response.requestMethod.getD "GET") (.ok r.settings)
              r.response.headers.given (.bytes bs) ∧
          (calls cs r).many.1 =
            Document.readMany (r.response.requestMethod.getD "GET") (.ok r.settings)
              r.response.headers.given (.bytes bs)) ∧
      (r.response.Withholds →
        ∃ f e, isOfStream f = true ∧
          e = .of .internal (("Unable to read response body: " : Text) ++ f.message) none (some f) ∧
          (calls cs r).single.1 = ⟨.error (.api e), []⟩ ∧
          (calls cs r).many.1 = ⟨.error (.api e), []⟩) := by
  obtain ⟨hsettings, hheaders, hmethod⟩ := agrees_calls cs r
  refine ⟨⟨?_, ?_⟩, fun bs h => ?_, fun h => ?_⟩
  · rw [single, readWith_snd]; rfl
  · rw [many, readWith_snd]; rfl
  · obtain ⟨huncoded, hs⟩ := response_calls (p := (Response.Supplies · bs)) hcoding
      (fun _ hs h => (h.read hs).2) cs h
    have hread := (hs.read huncoded).1
    rw [single, many, readWith_of_ok hread, readWith_of_ok hread, Response.effectiveMethod,
      hsettings, hheaders, hmethod]
    exact ⟨rfl, rfl⟩
  · obtain ⟨huncoded, hs⟩ := response_calls (p := Response.Withholds) hcoding
      (fun _ hs h => (h.read hs).2) cs h
    obtain ⟨f, hf, hread⟩ := (hs.read huncoded).1
    refine ⟨f, _, hf, rfl, ?_⟩
    rw [single, many, readWith_of_error hread, readWith_of_error hread, readFailure, if_pos hf]
    exact ⟨rfl, rfl⟩

/-- A user that comes in three chunks, one of them empty, is read although it was taken for a list
before; from the same bytes in a stream that fails behind them, nothing is read. -/
theorem calls_agree_user :
    ∃ (headers : Headers) (bs : Bytes) (whole cut : Reply),
      headers = [⟨Headers.ascii "Content-Type", Headers.ascii "application/vnd.api+json"⟩] ∧
      bs = Utf8.encodeScalars
        (Json.write .oneLine (.object [("data", Resource.toJson ⟨"user", "1", none, none⟩)])) ∧
      whole = ⟨⟨200, headers, none,
        .waiting ([bs.take 9, [], bs.drop 9].map .bytes) none, false⟩, .default⟩ ∧
      cut = ⟨⟨200, headers, none, .waiting [.bytes bs] (some ⟨.read, "boom"⟩), false⟩, .default⟩ ∧
      Response.Coding.ofHeaders headers = [] ∧ whole.response.Supplies bs ∧
      cut.response.Withholds ∧
      (∃ user, (calls [.many, .single] whole).single.1.result = .ok user ∧ user.id = "1") ∧
      (∃ e, (calls [.many, .single] cut).single.1.result = .error (.api e) ∧
        e.errorClass = .internal) := by
  obtain ⟨headers, hheaders⟩ : ∃ headers : Headers, headers =
    [⟨Headers.ascii "Content-Type", Headers.ascii "application/vnd.api+json"⟩] := ⟨_, rfl⟩
  have hcoding : Response.Coding.ofHeaders headers = [] :=
    Response.Coding.ofHeaders_of_has (by rw [hheaders]; decide)
  obtain ⟨bs, hbs, user, huser, hid⟩ : ∃ bs, bs = Utf8.encodeScalars
        (Json.write .oneLine (.object [("data", Resource.toJson ⟨"user", "1", none, none⟩)])) ∧
      ∃ user, (Document.readSingle "GET" (.ok .default) headers.given (.bytes bs)).result =
        .ok user ∧ decide (user.id = "1") = true :=
    ⟨_, rfl, Except.exists_of_any (by rw [hheaders]; decide +kernel)⟩
  have hsupplies : (Reply.mk ⟨200, headers, none, _, false⟩ .default).response.Supplies bs :=
    .waiting [bs.take 9, [], bs.drop 9] rfl rfl (by simp)
  have hwithholds : (Reply.mk ⟨200, headers, none, _, false⟩ .default).response.Withholds :=
    .failing [.bytes bs] ⟨.read, "boom"⟩ rfl
  refine ⟨headers, bs, _, _, hheaders, hbs, rfl, rfl, hcoding, hsupplies, hwithholds,
    ⟨user, ?_, of_decide_eq_true hid⟩, ?_⟩
  · rw [((calls_agree hcoding [.many, .single]).2.1 bs hsupplies).1]
    exact huser
  · obtain ⟨f, e, -, he, hsingle, -⟩ := (calls_agree hcoding [.many, .single]).2.2 hwithholds
    exact ⟨e, congrArg Outcome.result hsingle, he ▸ rfl⟩

end Reply

end JsonApi
