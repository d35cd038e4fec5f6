import JsonApi.Json.Coding
import JsonApi.Proofs.Json.Layout

/-!
# Documents as bytes are read back

* `exists_toBytes_iff` : a value has bytes when its numbers have a JSON form and its texts hold no
  halves of surrogate pairs;
* `ofBytes_toBytes` : those bytes are read as the value with the members of one name merged;
* `settled_of_ofBytes` : whatever bytes are read as is settled.
-/

namespace JsonApi

namespace Json

variable {l : Layout} {v : Json} {bs : Bytes}

theorem plain_isScalar : Plain (! ·.isSurrogate) := by
  refine ⟨fun c hc => ?_, fun c _ => rfl⟩
  cases c with
  | scalar => rfl
  | surrogate => simp [isBlank] at hc

/-- A control character is a scalar value. -/
theorem orControl_isScalar (c : CodePoint) : orControl (! ·.isSurrogate) c = ! c.isSurrogate := by
  cases c with
  | scalar c => simp [orControl, CodePoint.isSurrogate]
  | surrogate offset =>
    have hc : ¬ 0xD800 + offset.val < 0x20 := by omega
    simp [orControl, CodePoint.isSurrogate, CodePoint.toNat, hc]

theorem isScalar_write (hl : l.Standard) (hv : v.Writable) :
    (write l v).isScalar = true ↔ v.Scalar := by
  rw [Text.isScalar, write, all_writeAt hl plain_isScalar 0 v hv, List.all_eq_true]
  simp only [funext orControl_isScalar]
  rfl

theorem toBytes_eq_ok_iff : toBytes l v = .ok bs ↔
    v.Writable ∧ (write l v).isScalar = true ∧ Utf8.encodeScalars (write l v) = bs := by
  rw [← unwritable_eq_none_iff, toBytes, render]
  cases v.unwritable? with
  | none =>
    simp only [Except.ok_mapError, Except.ok_bind, Except.mapError_eq_ok_iff,
      Utf8.encode_eq_ok_iff, true_and]
  | some e => cases e <;> simp

/-- **A value has bytes** when all its numbers have a JSON form and all its texts a UTF-8 form. -/
theorem exists_toBytes_iff (hl : l.Standard) :
    (∃ bs, toBytes l v = .ok bs) ↔ v.Encodable := by
  constructor
  · rintro ⟨bs, h⟩
    obtain ⟨hv, hscalar, -⟩ := toBytes_eq_ok_iff.1 h
    exact ⟨hv, (isScalar_write hl hv).1 hscalar⟩
  · rintro ⟨hv, hscalar⟩
    exact ⟨_, toBytes_eq_ok_iff.2 ⟨hv, (isScalar_write hl hv).2 hscalar, rfl⟩⟩

/-- **The bytes of a value are read as the value**, with the members of one name merged. -/
theorem ofBytes_toBytes (hl : l.Standard) (h : toBytes l v = .ok bs) :
    ofBytes bs = .ok v.merged := by
  obtain ⟨hv, hscalar, rfl⟩ := toBytes_eq_ok_iff.1 h
  have hread := ofText_write false hl hv
  rw [ofBytes, documentText_encodeScalars hread hscalar]
  exact congrArg (Except.mapError CodingError.unreadable) hread

/-- Merging leaves a value encodable. -/
theorem encodable_merged (v : Json) (h : v.Encodable) : v.merged.Encodable :=
  ⟨fun x hx => h.1 x (leaves_merged v hx), fun x hx => h.2 x (leaves_merged v hx)⟩

theorem settled_of_ofBytes (h : ofBytes bs = .ok v) : v.Settled := by
  obtain ⟨t, -, ht⟩ := Except.bind_eq_ok_iff.1 h
  exact settled_of_ofText (Except.mapError_eq_ok_iff.1 ht)

end Json

end JsonApi
