import JsonApi.Attributes
import JsonApi.Proofs.Json.Coding

/-!
# The wire form of attributes

Attributes are canonical when their wire form is its own normal form.

* `ofValue_toBytes` : the compact bytes of a value that was read are attributes with that value;
* `canonical_iff` : attributes are canonical when their bytes are those of the value they spell;
* `ofPayload_eq_ok_iff` : the attributes of a payload are the compact text of its value;
* `canonical_of_ofPayload` : so they are canonical.
-/

namespace JsonApi

namespace Attributes

variable {a b : Attributes} {v : Json} {bs : Bytes}

/-- Attributes whose wire form is left alone when it is normalised again. -/
def Canonical (a : Attributes) : Prop := ofValue (.bytes a.bytes) = .ok (some a)

theorem eq_of_bytes (h : a.bytes = b.bytes) : a = b := by
  obtain ⟨bs, v, hwritten, hv⟩ := a
  obtain ⟨cs, w, hwritten', hw⟩ := b
  obtain rfl : bs = cs := h
  obtain rfl : v = w := Except.ok.inj (hv.symm.trans hw)
  rfl

theorem settled_value (a : Attributes) : a.value.Settled := Json.settled_of_ofBytes a.spelled

/-- Whatever attributes spell can be written again. -/
theorem encodable_value (a : Attributes) : a.value.Encodable := by
  obtain ⟨v, hv⟩ := a.written
  obtain hmerged : v.merged = a.value := Except.ok.inj
    ((Json.ofBytes_toBytes Json.Layout.standard_compact hv).symm.trans a.spelled)
  rw [← hmerged]
  exact Json.encodable_merged v ((Json.exists_toBytes_iff Json.Layout.standard_compact).1 ⟨_, hv⟩)

theorem ofJson_of_toBytes (hv : v.Settled) (h : v.toBytes .compact = .ok bs) :
    ∃ a, ofJson v = .ok a ∧ a.bytes = bs ∧ a.value = v := by
  have hread : Json.ofBytes bs = .ok v := by
    rw [Json.ofBytes_toBytes Json.Layout.standard_compact h, Json.merged_of_settled hv]
  unfold ofJson
  split
  · rename_i hwritten
    rw [h] at hwritten
    cases hwritten
  · rename_i hwritten
    obtain rfl := Except.ok.inj (h.symm.trans hwritten)
    split
    · rename_i hspelled
      rw [hread] at hspelled
      cases hspelled
    · rename_i hspelled
      exact ⟨_, rfl, rfl, Except.ok.inj (hspelled.symm.trans hread)⟩

theorem toBytes_of_ofJson (h : ofJson v = .ok a) : v.toBytes .compact = .ok a.bytes := by
  unfold ofJson at h
  split at h
  · cases h
  · rename_i hwritten
    split at h
    · cases h
    · obtain rfl := Except.ok.inj h
      exact hwritten

theorem ofPayload_of_value {p : Payload} {v : Json} (h : p.value = .ok v) :
    ofPayload p = (ofJson v).mapError .coding := by
  rw [ofPayload, h]
  rfl

theorem ofValue_of_ofBytes (h : Json.ofBytes bs = .ok v) :
    ofValue (.bytes bs) = ((ofJson v).mapError .coding).map some := by
  have hp : (Payload.bytes bs).value = .ok v := h
  rw [ofValue, ofPayload_of_value hp]

/-- **The bytes of a value that was read** are attributes that spell the value. -/
theorem ofValue_toBytes (hv : v.Settled) (h : v.toBytes .compact = .ok bs) :
    ∃ a, ofValue (.bytes bs) = .ok (some a) ∧ a.bytes = bs ∧ a.value = v := by
  obtain ⟨a, ha, hbytes, hvalue⟩ := ofJson_of_toBytes hv h
  have hread : Json.ofBytes bs = .ok v := by
    rw [Json.ofBytes_toBytes Json.Layout.standard_compact h, Json.merged_of_settled hv]
  refine ⟨a, ?_, hbytes, hvalue⟩
  rw [ofValue_of_ofBytes hread, ha]
  rfl

theorem canonical_iff : a.Canonical ↔ a.value.toBytes .compact = .ok a.bytes := by
  constructor
  · intro h
    obtain ⟨bs, hbs⟩ := (Json.exists_toBytes_iff Json.Layout.standard_compact).2 a.encodable_value
    obtain ⟨b, hb, hbytes, -⟩ := ofJson_of_toBytes a.settled_value hbs
    have hvalue : ofValue (.bytes a.bytes) = .ok (some b) := by
      rw [ofValue_of_ofBytes a.spelled, hb]
      rfl
    obtain rfl : b = a := Option.some.inj (Except.ok.inj (hvalue.symm.trans h))
    rw [hbs, hbytes]
  · intro h
    obtain ⟨b, hb, hbytes, -⟩ := ofValue_toBytes a.settled_value h
    rwa [eq_of_bytes hbytes] at hb

theorem settled_of_payload {p : Payload} (h : p.value = .ok v) : v.Settled := by
  cases p with
  | bytes bs => exact Json.settled_of_ofBytes h
  | text t =>
    simp only [Payload.value, Json.ofDocumentText] at h
    split at h
    · cases h
    · exact Json.settled_of_ofText (Except.mapError_eq_ok_iff.1 h)

/-- The attributes of a payload spell the value of the payload, in the bytes that it is written
as. -/
theorem ofPayload_eq_ok_iff {p : Payload} :
    ofPayload p = .ok a ↔ p.value = .ok a.value ∧ a.value.toBytes .compact = .ok a.bytes := by
  constructor
  · intro h
    obtain ⟨v, hv, h⟩ := Except.bind_eq_ok_iff.1 (Except.mapError_eq_ok_iff.1 h)
    have hbs := toBytes_of_ofJson h
    obtain ⟨b, hb, -, hvalue⟩ := ofJson_of_toBytes (settled_of_payload hv) hbs
    obtain rfl : b = a := Except.ok.inj (hb.symm.trans h)
    rw [hvalue]
    exact ⟨hv, hbs⟩
  · rintro ⟨hv, hbs⟩
    obtain ⟨b, hb, hbytes, -⟩ := ofJson_of_toBytes a.settled_value hbs
    rw [ofPayload_of_value hv, hb, eq_of_bytes hbytes]
    rfl

/-- **The attributes of a payload are canonical.** -/
theorem canonical_of_ofPayload {p : Payload} (h : ofPayload p = .ok a) : a.Canonical :=
  canonical_iff.2 (ofPayload_eq_ok_iff.1 h).2

end Attributes

end JsonApi
