import JsonApi.Negotiation
import JsonApi.Proofs.Encoding.Utf8
import JsonApi.Proofs.Except
import JsonApi.Proofs.Text

/-!
# Header fields in ASCII

Text that is written to a header field in ASCII is read back from it as long as all the other
fields are in ASCII too, because one encoding serves all fields (`Headers.get_of_single`).  Under
settings whose media type is a plain one, a content type field with that media type is accepted
(`Negotiation.check_of_plain`).
-/

namespace JsonApi

/-- A text of ASCII characters. -/
def Text.IsAscii (t : Text) : Prop := t.all CodePoint.isAscii = true

instance (t : Text) : Decidable t.IsAscii := inferInstanceAs (Decidable (_ = true))

theorem Ascii.encode_eq_ok_iff {t : Text} {bs : Bytes} :
    encode t = .ok bs ↔ t.IsAscii ∧ Headers.ascii t = bs := by
  have hscan := Text.firstRun_eq_none_iff (p := (! ·.isAscii)) 0 (t := t)
  simp only [Bool.not_not] at hscan
  rw [Text.IsAscii, ← hscan, encode]
  split
  · rename_i h
    simp [h]
  · rename_i h
    simp [h, Headers.ascii]

theorem CodePoint.ofNat_byte {c : CodePoint} (h : c.isAscii = true) :
    CodePoint.ofNat (UInt8.ofNat c.toNat).toNat = c := by
  rw [isAscii, decide_eq_true_eq] at h
  rw [Utf8.toNat_byte (by omega), ofNat_toNat]

theorem Latin1.decode_ascii {t : Text} (h : t.IsAscii) : decode (Headers.ascii t) = t := by
  rw [decode, Headers.ascii, List.map_map]
  refine (List.map_congr_left fun c hc => ?_).trans (List.map_id t)
  exact CodePoint.ofNat_byte (List.all_eq_true.1 h c hc)

theorem Ascii.fits_ascii {t : Text} (h : t.IsAscii) : fits (Headers.ascii t) = true := by
  rw [fits, Headers.ascii, List.all_map, List.all_eq_true]
  intro c hc
  have := List.all_eq_true.1 h c hc
  rw [CodePoint.isAscii, decide_eq_true_eq] at this
  simp only [Function.comp_apply, UInt8.toNat_ofNat', decide_eq_true_eq]
  omega

namespace Headers

variable {h : Headers}

/-- All names and values of the fields are in ASCII. -/
def IsAscii (h : Headers) : Prop :=
  ∀ f ∈ h, Ascii.fits f.name = true ∧ Ascii.fits f.value = true

theorem decode_of_isAscii (hh : h.IsAscii) (bs : Bytes) : h.decode bs = Latin1.decode bs := by
  have hencoding : h.encoding = .ascii := by
    rw [encoding, if_pos]
    exact List.all_eq_true.2 fun f hf => Bool.and_eq_true _ _ ▸ hh f hf
  rw [decode, hencoding]

/-- The text of the only field of a name is found under the name. -/
theorem get_of_single (hh : h.IsAscii) {name t : Text} {f : Field} (ht : t.IsAscii)
    (hf : (h.filter fun f => fold f.name = ascii name) = [f]) (hvalue : f.value = ascii t) :
    h.get? name = some t := by
  rw [get?, values, hf, List.map_singleton, hvalue, decode_of_isAscii hh, Latin1.decode_ascii ht]
  exact congrArg some List.intercalate_singleton

theorem ofPairs_given (h : Headers) : ofPairs h.given = .ok h := by
  rw [ofPairs, given, Except.mapM_eq_ok_iff, List.forall₂_map_right_iff, List.forall₂_same]
  exact fun f _ => rfl

end Headers

/-! ### Headers as they are given -/

/-- A name or a value that is bytes or ASCII text. -/
def FieldText.IsAscii : FieldText → Prop
  | .text t => t.IsAscii
  | .bytes _ => True

/-- All names and values that are given as text are ASCII. -/
def GivenHeaders.IsAscii (headers : GivenHeaders) : Prop :=
  ∀ p ∈ headers, p.1.IsAscii ∧ p.2.IsAscii

instance : DecidablePred FieldText.IsAscii
  | .text t => inferInstanceAs (Decidable t.IsAscii)
  | .bytes _ => inferInstanceAs (Decidable True)

instance : DecidablePred GivenHeaders.IsAscii := fun headers =>
  inferInstanceAs (Decidable (∀ p ∈ headers, p.1.IsAscii ∧ p.2.IsAscii))

theorem FieldText.exists_encode_iff {x : FieldText} : (∃ bs, x.encode = .ok bs) ↔ x.IsAscii := by
  cases x <;> simp [encode, IsAscii, Ascii.encode_eq_ok_iff]

/-- Headers have a form in bytes when what is given as text is ASCII. -/
theorem Headers.exists_ofPairs_iff {headers : GivenHeaders} :
    (∃ h, ofPairs headers = .ok h) ↔ headers.IsAscii := by
  rw [ofPairs, Except.exists_mapM_eq_ok_iff]
  refine forall₂_congr fun (name, value) _ => ?_
  rw [← FieldText.exists_encode_iff, ← FieldText.exists_encode_iff]
  constructor
  · rintro ⟨f, h⟩
    obtain ⟨n, hn, h⟩ := Except.bind_eq_ok_iff.1 h
    obtain ⟨v, hv, -⟩ := Except.bind_eq_ok_iff.1 h
    exact ⟨⟨n, hn⟩, v, hv⟩
  · rintro ⟨⟨n, hn⟩, v, hv⟩
    refine ⟨⟨n, v⟩, ?_⟩
    simp only [hn, hv, Except.ok_bind]
    rfl

/-! ### Plain media types -/

/-- A media type that can stand in a header field as it is: ASCII that is not blank, without
blanks at either end and without parameters. -/
structure Settings.Plain (s : Settings) : Prop where
  ascii : s.mediaType.IsAscii
  nonblank : s.mediaType.isBlank = false
  trimmed : s.mediaType.strip = s.mediaType
  bare : .scalar ';' ∉ s.mediaType

theorem Settings.Plain.ofText {s : Settings} (hs : s.Plain) :
    MediaType.ofText s.mediaType = ⟨s.mediaType.lower, [], [], []⟩ := by
  have hne : s.mediaType ≠ [] := by
    intro h
    have := hs.nonblank
    rw [h] at this
    cases this
  have hpieces : MediaType.pieces s.mediaType = [s.mediaType] := by
    rw [MediaType.pieces, Text.splitAt_of_not_mem hs.bare, List.map_singleton, hs.trimmed]
    simp [hne]
  rw [MediaType.ofText, hpieces]
  rfl

/-- The media type of plain settings is accepted for a content type. -/
theorem Negotiation.check_of_plain {s : Settings} (hs : s.Plain) {h : Headers}
    (hget : h.get? "content-type" = some s.mediaType) : check s h = .ok () := by
  have hstrip : s.mediaType.strip ≠ [] := by
    intro h
    rw [Text.strip_eq_nil_iff, hs.nonblank] at h
    cases h
  rw [check, hget, Option.getD_some, checkContentType, hs.ofText]
  simp [hstrip, strangers]

/-- Fields that were made are accepted as they are given again. -/
theorem Negotiation.checkGiven_of_plain {s : Settings} (hs : s.Plain) {h : Headers}
    (hget : h.get? "content-type" = some s.mediaType) : checkGiven (.ok s) h.given = .ok () := by
  rw [checkGiven, Headers.ofPairs_given]
  simp only [Except.ok_mapError, Except.ok_bind, check_of_plain hs hget]

end JsonApi
