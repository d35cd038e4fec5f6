import JsonApi.Proofs.Attributes

/-!
# What attributes keep of a payload

Of the text that a payload comes as, its attributes keep the value and forget the layout.

* `Payload.read_eq_ok_iff` : a payload is read as its text is, whatever it comes as;
* `isBlank_of_ofPayload` : no white space is left outside string literals;
* `bytes_eq_iff` : two payloads leave the same bytes exactly when they have one value;
* `payload_kept` : which they do when their texts differ in layout only, or when one is the text and
  the other one its UTF-8 form.
-/

namespace JsonApi

namespace Attributes

/-! ### Reading a payload -/

namespace Payload

/-- The text that a payload comes as. -/
def document : Payload → Except DecodingError Text
  | .text t => .ok t
  | .bytes bs => Encoding.documentText bs

/-- The value of a payload for a reader that admits constants or does not. -/
def read (constants : Bool) : Payload → Except CodingError Json
  | .text t => Json.ofDocumentText constants t
  | .bytes bs => do
    let t ← (Encoding.documentText bs).mapError .undecodable
    (Json.ofText constants t).mapError .unreadable

variable {p q : Payload} {v : Json} {t : Text} {constants : Bool}

theorem read_false (p : Payload) : p.read false = p.value := by
  cases p <;> rfl

/-- A text that starts with a byte order mark is refused as text, but would not be read either. -/
theorem ofDocumentText_eq_ok_iff :
    Json.ofDocumentText constants t = .ok v ↔ Json.ofText constants t = .ok v := by
  rw [Json.ofDocumentText]
  split_ifs with hmark
  · refine iff_of_false (fun h => by cases h) fun h => ?_
    have hhead := (Json.ofText_eq_ok_iff.1 h).head_lt _ hmark
    exact absurd hhead (by decide)
  · exact Except.mapError_eq_ok_iff

/-- **A payload is read as its text is**, whatever it comes as. -/
theorem read_eq_ok_iff :
    p.read constants = .ok v ↔ ∃ t, p.document = .ok t ∧ Json.ofText constants t = .ok v := by
  cases p with
  | text t =>
    rw [read, ofDocumentText_eq_ok_iff]
    simp [document]
  | bytes bs => simp [read, document, Except.bind_eq_ok_iff, Except.mapError_eq_ok_iff]

theorem read_of_value (h : p.value = .ok v) (constants : Bool) : p.read constants = .ok v := by
  rw [← read_false, read_eq_ok_iff] at h
  obtain ⟨t, ht, hv⟩ := h
  exact read_eq_ok_iff.2 ⟨t, ht, Json.ofText_of_false hv constants⟩

/-- Payloads whose texts differ in layout only have one value. -/
theorem value_eq_of_relaid {s : Text} {w : Json} (hp : p.value = .ok v) (hq : q.value = .ok w)
    (hs : p.document = .ok s) (ht : q.document = .ok t) (h : Json.Relaid s t) : v = w := by
  rw [← read_false, read_eq_ok_iff] at hp hq
  obtain ⟨s', hs', hv⟩ := hp
  obtain ⟨t', ht', hw⟩ := hq
  obtain rfl := Except.ok.inj (hs'.symm.trans hs)
  obtain rfl := Except.ok.inj (ht'.symm.trans ht)
  have hdense := Json.ofText_dense hv
  rw [Json.relaid_iff.1 h, Json.ofText_dense hw] at hdense
  exact (Except.ok.inj hdense).symm

/-- The UTF-8 form of a text has the value of the text. -/
theorem value_encode {bs : Bytes} (h : (Payload.text t).value = .ok v)
    (hbs : Utf8.encode t = .ok bs) : (Payload.bytes bs).value = .ok v := by
  obtain ⟨hscalar, rfl⟩ := Utf8.encode_eq_ok_iff.1 hbs
  rw [← read_false, read_eq_ok_iff] at h ⊢
  obtain ⟨t', ⟨⟩, hv⟩ := h
  exact ⟨t, Json.documentText_encodeScalars hv hscalar, hv⟩

end Payload

/-! ### What is left of it -/

variable {p q : Payload} {a b : Attributes}

/-- No white space is left outside string literals. -/
theorem isBlank_of_ofPayload (h : ofPayload p = .ok a) :
    ∃ t, Utf8.decode a.bytes = .ok t ∧ ∀ before c after, t = before ++ c :: after →
      Json.Position.after .outside before = .outside → c.isBlank = false := by
  obtain ⟨-, hbytes⟩ := ofPayload_eq_ok_iff.1 h
  obtain ⟨hv, hscalar, hbs⟩ := Json.toBytes_eq_ok_iff.1 hbytes
  refine ⟨a.value.write .compact, ?_, fun before c after ht hbefore => ?_⟩
  · rw [← hbs]
    exact Utf8.text_encodeScalars .utf8 0 hscalar
  · have hsolid := Json.solid_writeAt 0 a.value hv
    rw [← Json.write, ht] at hsolid
    exact Json.isBlank_of_isVisible (hsolid.isVisible hbefore)

/-- **Two payloads leave the same bytes** exactly when they have one value. -/
theorem bytes_eq_iff (hp : ofPayload p = .ok a) (hq : ofPayload q = .ok b) :
    a.bytes = b.bytes ↔ a.value = b.value := by
  refine ⟨fun h => congrArg Attributes.value (eq_of_bytes h), fun h => ?_⟩
  have ha := (ofPayload_eq_ok_iff.1 hp).2
  rw [h] at ha
  exact Except.ok.inj (ha.symm.trans (ofPayload_eq_ok_iff.1 hq).2)

/-- **Attributes keep the value of a payload and forget its layout.**  Members keep their order and
numbers their kind, since both are part of the value. -/
theorem payload_kept (hp : ofPayload p = .ok a) (hq : ofPayload q = .ok b) :
    (∀ constants, p.read constants = .ok a.value ∧
      (Payload.bytes a.bytes).read constants = .ok a.value) ∧
    (∃ t, Utf8.decode a.bytes = .ok t ∧ ∀ before c after, t = before ++ c :: after →
      Json.Position.after .outside before = .outside → c.isBlank = false) ∧
    (∀ constants, a.bytes = b.bytes ↔ p.read constants = q.read constants) ∧
    (∀ s t, p.document = .ok s → q.document = .ok t → Json.Relaid s t → a.bytes = b.bytes) ∧
    ∀ t bs, p = .text t → Utf8.encode t = .ok bs → q = .bytes bs → a.bytes = b.bytes := by
  have ha := (ofPayload_eq_ok_iff.1 hp).1
  have hb := (ofPayload_eq_ok_iff.1 hq).1
  have hread : (Payload.bytes a.bytes).value = .ok a.value := a.spelled
  refine ⟨fun c => ⟨Payload.read_of_value ha c, Payload.read_of_value hread c⟩,
    isBlank_of_ofPayload hp, fun constants => ?_, fun s t hs ht h => ?_, ?_⟩
  · rw [bytes_eq_iff hp hq, Payload.read_of_value ha, Payload.read_of_value hb, Except.ok.injEq]
  · exact (bytes_eq_iff hp hq).2 (Payload.value_eq_of_relaid ha hb hs ht h)
  · rintro t bs rfl hbs rfl
    exact (bytes_eq_iff hp hq).2 (Except.ok.inj ((Payload.value_encode ha hbs).symm.trans hb))

/-- A list leaves the same bytes with blanks between its tokens as without; those in its text are
kept. -/
theorem payload_kept_list :
    ∃ a b, ofPayload (.text " [1, -0.0,\t\"x  y\"]\n") = .ok a ∧
      ofPayload (.bytes (Utf8.encodeScalars "[1,-0.0,\"x  y\"]")) = .ok b ∧
      a.bytes = b.bytes ∧ b.bytes = Utf8.encodeScalars "[1,-0.0,\"x  y\"]" := by
  obtain ⟨a, ha, -⟩ := Except.exists_of_any
    (x := ofPayload (.text " [1, -0.0,\t\"x  y\"]\n")) (p := fun _ => true) (by decide +kernel)
  obtain ⟨b, hb, hbytes⟩ := Except.exists_of_any
    (x := ofPayload (.bytes (Utf8.encodeScalars "[1,-0.0,\"x  y\"]")))
    (p := fun b => b.bytes = Utf8.encodeScalars "[1,-0.0,\"x  y\"]") (by decide +kernel)
  have htext : (Payload.bytes (Utf8.encodeScalars "[1,-0.0,\"x  y\"]")).document =
      .ok "[1,-0.0,\"x  y\"]" := by decide +kernel
  have hrelaid : Json.Relaid " [1, -0.0,\t\"x  y\"]\n" "[1,-0.0,\"x  y\"]" :=
    Json.relaid_iff.2 (by decide +kernel)
  exact ⟨a, b, ha, hb, (payload_kept ha hb).2.2.2.1 _ _ rfl htext hrelaid,
    of_decide_eq_true hbytes⟩

end Attributes

end JsonApi
