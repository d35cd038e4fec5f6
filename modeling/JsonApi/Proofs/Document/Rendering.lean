import JsonApi.Proofs.Document.RoundTrip

/-!
# Rendering is undone by reading

A document is rendered, at whatever indent, unless one of its numbers has no JSON form or one of its
texts no UTF-8 form (`Document.exists_error_render_iff`).  What was rendered is read as the document
itself, so rendering it once more, at the same or another indent, is rendering the document
(`Document.render_undone`).
-/

namespace JsonApi

/-- A number without a JSON form, or a text without a UTF-8 form. -/
inductive Json.Leaf.Unencodable : Json.Leaf → Prop
  | notFinite {x : Double} (h : x.isFinite = false) : Unencodable (.float x)
  /-- The sign is not counted. -/
  | tooManyDigits {n : Int} (h : 4300 < (Text.ofNat n.natAbs).length) : Unencodable (.int n)
  | surrogate {t : Text} {c : CodePoint} (hc : c ∈ t) (h : c.isSurrogate = true) :
      Unencodable (.text t)

/-- Whether bytes are read as a value, be constants for numbers that are not finite admitted or
not. -/
def Json.ReadsAs (bs : Bytes) (v : Json) : Prop :=
  ∃ t, Encoding.documentText bs = .ok t ∧ ∀ constants, Json.ofText constants t = .ok v

/-- Whether a coding error is about a value that is not written. -/
def CodingError.OnWriting : CodingError → Prop
  | .unwritable _ | .unencodable _ => True
  | .undecodable _ | .unreadable _ => False

namespace Json

variable {v : Json} {l : Layout} {bs : Bytes}

/-! ### Leaves without a form -/

namespace Leaf

theorem unencodable_int {n : Int} : (int n).Unencodable ↔ 10 ^ digitLimit ≤ n.natAbs := by
  have hlength : (Text.ofNat n.natAbs).length ≤ digitLimit ↔ n.natAbs < 10 ^ digitLimit := by
    rw [Text.ofNat, Text.length_ofChars]
    exact Nat.length_toDigits_le_iff (by decide) (by decide)
  rw [← Nat.not_lt, ← hlength, Nat.not_le]
  constructor
  · rintro ⟨⟩
    assumption
  · exact .tooManyDigits

theorem unencodable_float {x : Double} : (float x).Unencodable ↔ x.isFinite = false := by
  constructor
  · rintro ⟨⟩
    assumption
  · exact .notFinite

theorem unencodable_text {t : Text} : (text t).Unencodable ↔ t.isScalar = false := by
  rw [← Bool.not_eq_true, Text.isScalar, List.all_eq_true]
  push Not
  constructor
  · rintro ⟨⟩
    rename_i c h hc
    exact ⟨c, hc, by rw [h]; decide⟩
  · rintro ⟨c, hc, h⟩
    exact .surrogate hc (by simpa using h)

theorem not_unencodable_iff {x : Leaf} :
    ¬ x.Unencodable ↔ x.unwritable? = none ∧ x.points.isScalar = true := by
  cases x with
  | int n =>
    rw [unencodable_int, Nat.not_le, unwritable_int]
    exact (and_iff_left rfl).symm
  | float x =>
    rw [unencodable_float, Bool.not_eq_false, unwritable_float]
    exact (and_iff_left rfl).symm
  | text t =>
    rw [unencodable_text, Bool.not_eq_false]
    exact (and_iff_right rfl).symm

end Leaf

theorem encodable_iff : v.Encodable ↔ ∀ x ∈ v.leaves, ¬ x.Unencodable := by
  simp only [Leaf.not_unencodable_iff]
  exact ⟨fun h x hx => ⟨h.1 x hx, h.2 x hx⟩,
    fun h => ⟨fun x hx => (h x hx).1, fun x hx => (h x hx).2⟩⟩

theorem not_encodable_iff : ¬ v.Encodable ↔ ∃ x ∈ v.leaves, x.Unencodable := by
  rw [encodable_iff]
  push Not
  rfl

/-! ### Bytes that are read -/

theorem ReadsAs.ofBytes_eq (h : ReadsAs bs v) : ofBytes bs = .ok v := by
  obtain ⟨t, ht, hread⟩ := h
  rw [ofBytes, ht, Except.ok_mapError, Except.ok_bind, hread, Except.ok_mapError]

/-- The bytes of a value without repeated names are read as the value. -/
theorem readsAs_of_toBytes (hl : l.Standard) (hv : v.Distinct) (h : toBytes l v = .ok bs) :
    ReadsAs bs v := by
  obtain ⟨hwritable, hscalar, rfl⟩ := toBytes_eq_ok_iff.1 h
  have hread : ∀ constants, ofText constants (write l v) = .ok v := fun constants => by
    rw [ofText_write constants hl hwritable, merged_of_distinct hv]
  exact ⟨_, documentText_encodeScalars (hread true) hscalar, hread⟩

theorem failsOnly_toBytes (l : Layout) (v : Json) :
    (toBytes l v).FailsOnly CodingError.OnWriting := by
  refine .bind (Except.failsOnly_mapError_iff.2 fun _ _ => trivial) fun t _ => ?_
  exact Except.failsOnly_mapError_iff.2 fun _ _ => trivial

end Json

namespace Document

variable {d : Json}

/-- **A document is not rendered** exactly if a number without a JSON form or a text without a
UTF-8 form stands in it anywhere. -/
theorem exists_error_render_iff (indent : Option Int) :
    (∃ e, render indent d = .error e) ↔ ∃ x ∈ d.leaves, x.Unencodable := by
  rw [← Json.not_encodable_iff, ← render_eq_ok_iff indent]
  cases render indent d <;> simp

/-- **Rendering is undone by reading.**  Of a document whose objects hold no name twice, rendering
fails exactly if a number without a JSON form or a text without a UTF-8 form stands in it, and then
with an error of writing.  What was rendered is read as the document, and rendering that at any
indent gives what rendering the document gives. -/
theorem render_undone (hd : d.Distinct) (indent : Option Int) :
    ((∃ e, render indent d = .error e) ↔ ∃ x ∈ d.leaves, x.Unencodable) ∧
      (render indent d).FailsOnly CodingError.OnWriting ∧
      ∀ bs, render indent d = .ok bs → Json.ReadsAs bs d ∧
        ∀ other, ∃ again, render other d = .ok again ∧
          (Json.ofBytes bs >>= render other) = .ok again := by
  refine ⟨exists_error_render_iff indent, Json.failsOnly_toBytes _ d, fun bs hbs => ?_⟩
  have hread := Json.readsAs_of_toBytes (Json.Layout.standard_ofIndent indent) hd hbs
  refine ⟨hread, fun other => ?_⟩
  obtain ⟨again, hagain⟩ := (render_eq_ok_iff other).2 ((render_eq_ok_iff indent).1 ⟨bs, hbs⟩)
  exact ⟨again, hagain, by rw [hread.ofBytes_eq, Except.ok_bind, hagain]⟩

/-- A document with nested containers, numbers of both kinds and a text that is escaped. -/
def report : Json :=
  .object [("data", .array [.null, .object [("id", .string "1")], .array []]),
    ("meta", .object [("count", .int (-3)), ("share", .float (.ofDecimal false 5 (-1))),
      ("note", .string (Text.ofChars ['"', '\n', 'é']))])]

theorem distinct_report : report.Distinct := by
  simp only [report, Json.distinct_object, Json.distinct_array, List.forall_mem_cons,
    List.not_mem_nil, IsEmpty.forall_iff, implies_true, and_true]
  exact ⟨by decide, ⟨.null, by decide, .string _⟩, by decide, .int _, .float _, .string _⟩

theorem render_undone_report :
    ∃ bs, render (some 2) report = .ok bs ∧ Json.ReadsAs bs report ∧
      ∀ other, ∃ again, render other report = .ok again ∧
        (Json.ofBytes bs >>= render other) = .ok again := by
  obtain ⟨-, -, hundone⟩ := render_undone distinct_report (some 2)
  have hok : (render (some 2) report).isOk = true := by decide +kernel
  obtain ⟨bs, hbs⟩ := Except.exists_of_isOk hok
  exact ⟨bs, hbs, hundone bs hbs⟩

end Document

end JsonApi
