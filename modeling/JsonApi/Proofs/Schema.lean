import JsonApi.Proofs.Attributes
import JsonApi.Proofs.Json.Limits
import JsonApi.Schema

/-!
# Reading attributes into a schema

Attributes are read into a schema when what they were written from is readable, which means that it
is not nested too deep for the reader, and when the value that they spell passes the schema
(`Resource.unmarshal_eq_ok_iff`).  Whatever keeps them from being read is an internal error about
the attributes (`Resource.failsOnly_unmarshal`).
-/

namespace JsonApi

/-- A value that is nested in no more containers than the reader of attributes follows. -/
def Json.Readable (v : Json) : Prop := v.depth ≤ Schema.depthLimit

theorem Json.Readable.merged {v : Json} (h : v.Readable) : v.merged.Readable :=
  Nat.le_trans (depth_merged_le v) h

variable {a : Attributes} {v : Json}

theorem Attributes.text_of_toBytes (h : v.toBytes .compact = .ok a.bytes) :
    a.text = v.write .compact := by
  obtain ⟨-, hscalar, hbs⟩ := Json.toBytes_eq_ok_iff.1 h
  have hdecode : Utf8.decode (Utf8.encodeScalars (v.write .compact)) = .ok (v.write .compact) :=
    Utf8.text_encodeScalars .utf8 0 hscalar
  rw [text, ← hbs, hdecode]

/-- The reader takes integers of as many digits as are written, so only nesting can go too far. -/
theorem Schema.excess_text (h : v.toBytes .compact = .ok a.bytes) :
    excess? a.text = none ↔ v.Readable := by
  have hdigits : Json.digitLimit ≤ Coercion.integerLimit := Nat.le_refl _
  rw [Attributes.text_of_toBytes h]
  exact Json.excess_write hdigits (Json.toBytes_eq_ok_iff.1 h).1

namespace Resource

variable {r : Resource} {s : Schema} {w : Json}

/-- **Attributes are read into a schema** exactly when they were written from a readable value and
what they spell passes the schema. -/
theorem unmarshal_eq_ok_iff (ha : r.attributes = some a) (h : v.toBytes .compact = .ok a.bytes) :
    r.unmarshal s = .ok w ↔ v.Readable ∧ s.check a.value = .ok w := by
  rw [← Schema.excess_text h]
  simp only [unmarshal, ha, Except.mapError_eq_ok_iff]
  unfold Schema.readDocument
  cases Schema.excess? a.text with
  | none => simp [Schema.read, Checked.report, Except.mapError_eq_ok_iff]
  | some e => simp [Checked.report, Checked.fail]

/-- An internal error about the attributes of a resource. -/
def BlamesAttributes (e : ApiError) : Prop :=
  e.errorClass = .internal ∧ e.pointer = some attributesPointer

theorem failsOnly_unmarshal (r : Resource) (s : Schema) :
    (r.unmarshal s).FailsOnly BlamesAttributes := by
  unfold unmarshal
  split
  · exact Except.failsOnly_error_iff.2 ⟨rfl, rfl⟩
  · exact Except.failsOnly_mapError_iff.2 fun e _ => ⟨rfl, rfl⟩

end Resource

end JsonApi
