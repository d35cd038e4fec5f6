import JsonApi.Proofs.Document.Forms
import JsonApi.Proofs.MediaType.Joined

/-!
# Several content type fields

Fields of one name are joined by commas before they are checked, and bytes that are UTF-8 on their
own are read in Latin-1 beside fields that are not.  Neither lets a parameter through that is
refused on its own.  What can hide behind a parameter of an earlier field is the rest of a field:
its type and its lists (`Negotiation.passes_alone_iff`).
-/

namespace JsonApi

/-! ### UTF-8 read in Latin-1 -/

namespace Utf8

/-- The bytes of a code beyond ASCII are beyond ASCII, and the first of them tells how many there
are. -/
theorem encodeCode_of_ge {n : Nat} (hge : 0x80 ≤ n) (hlt : n < 0x110000) :
    (∀ b ∈ encodeCode n, 0x80 ≤ b.toNat) ∧
      ∃ b ∈ encodeCode n, 0xC2 ≤ b.toNat ∧ b.toNat < 0xF5 := by
  unfold encodeCode
  split_ifs
  · omega
  all_goals
    refine ⟨?_, _, List.mem_cons_self, ?_⟩
    · simp only [List.forall_mem_cons, toNat_tail]
      rw [toNat_byte (by omega)]
      simp
      omega
    · rw [toNat_byte (by omega)]
      omega

end Utf8

namespace Text

variable {c : CodePoint} {s t : Text}

/-- A text as it appears when its UTF-8 form is read in Latin-1. -/
def misread (t : Text) : Text := Latin1.decode (Utf8.encodeScalars t)

theorem misread_cons (c : CodePoint) (t : Text) :
    misread (c :: t) = Latin1.decode (Utf8.encodeCode c.toNat) ++ misread t := by
  rw [misread, Utf8.encodeScalars_cons, Latin1.decode, List.map_append]
  rfl

theorem misread_append (s t : Text) : misread (s ++ t) = misread s ++ misread t := by
  rw [misread, Utf8.encodeScalars, List.flatMap_append, Latin1.decode, List.map_append]
  rfl

theorem misread_cons_of_isAscii (hc : c.isAscii = true) (t : Text) :
    misread (c :: t) = c :: misread t := by
  have hcode : Utf8.encodeCode c.toNat = [.ofNat c.toNat] :=
    Utf8.encodeCode_of_lt (of_decide_eq_true hc)
  rw [misread_cons, hcode, Latin1.decode, List.map_singleton, CodePoint.ofNat_byte hc,
    List.singleton_append]

theorem mem_misread_of_isAscii (hc : c.isAscii = true) : c ∈ misread t ↔ c ∈ t := by
  induction t with
  | nil => exact Iff.rfl
  | cons x t ih =>
    by_cases hx : x.isAscii = true
    · rw [misread_cons_of_isAscii hx, List.mem_cons, List.mem_cons, ih]
    · have hne : c ≠ x := by
        rintro rfl
        exact hx hc
      have hgap : c ∉ Latin1.decode (Utf8.encodeCode x.toNat) := by
        intro hmem
        obtain ⟨b, hb, rfl⟩ := List.mem_map.1 hmem
        have hge : 0x80 ≤ x.toNat := by simpa [CodePoint.isAscii] using hx
        have := (Utf8.encodeCode_of_ge hge x.toNat_lt).1 b hb
        have hlt := b.toNat_lt
        rw [CodePoint.isAscii, decide_eq_true_eq, CodePoint.toNat_ofNat (by omega)] at hc
        omega
      rw [misread_cons, List.mem_append, or_iff_right hgap, ih, List.mem_cons, or_iff_right hne]

/-- What is not read as it is shows something foreign. -/
theorem exists_isForeign_misread (hc : c ∈ t) (hascii : c.isAscii = false) :
    ∃ d ∈ misread t, IsForeign d := by
  obtain ⟨front, behind, rfl⟩ := List.append_of_mem hc
  have hge : 0x80 ≤ c.toNat := by simpa [CodePoint.isAscii] using hascii
  obtain ⟨b, hb, hlead⟩ := (Utf8.encodeCode_of_ge hge c.toNat_lt).2
  have hbyte : (CodePoint.ofNat b.toNat).toNat = b.toNat := CodePoint.toNat_ofNat (by omega)
  refine ⟨.ofNat b.toNat, ?_, .inr (by rwa [hbyte])⟩
  rw [misread_append, misread_cons]
  exact List.mem_append_right _ (List.mem_append_left _ (List.mem_map_of_mem hb))

theorem misread_of_isAscii (h : ∀ c ∈ t, c.isAscii = true) : misread t = t := by
  induction t with
  | nil => rfl
  | cons c t ih =>
    obtain ⟨hc, ht⟩ := List.forall_mem_cons.1 h
    rw [misread_cons_of_isAscii hc, ih ht]

theorem misread_of_not_isForeign (h : ∀ d, IsForeign d → d ∉ misread t) : misread t = t := by
  refine misread_of_isAscii fun c hc => ?_
  by_contra hascii
  obtain ⟨d, hd, hforeign⟩ := exists_isForeign_misread hc (Bool.eq_false_iff.2 hascii)
  exact h d hforeign hd

theorem strip_misread_ne_nil (h : t.strip ≠ []) : (misread t).strip ≠ [] := by
  obtain ⟨c, hc, hblank⟩ := exists_of_strip_ne_nil h
  by_cases hascii : c.isAscii = true
  · exact strip_ne_nil_of_mem hblank ((mem_misread_of_isAscii hascii).2 hc)
  · obtain ⟨d, hd, hforeign⟩ := exists_isForeign_misread hc (Bool.eq_false_iff.2 hascii)
    exact strip_ne_nil_of_mem hforeign.isBlank hd

end Text

namespace Negotiation

open MediaType

variable {s : Settings} {t : Text}

/-- A parameter that is let through when it is misread is let through when it is not. -/
theorem admits_of_misread (h : Admits s t.misread) : Admits s t := by
  have hequals : (CodePoint.scalar '=').isAscii = true := by decide
  by_cases hmem : .scalar '=' ∈ t
  · obtain ⟨n, y, rfl, hn⟩ := List.eq_append_cons_of_mem hmem
    have hmisread : .scalar '=' ∉ Text.misread n := mt (Text.mem_misread_of_isAscii hequals).1 hn
    rw [Text.misread_append, Text.misread_cons_of_isAscii hequals] at h
    have hname : Text.misread n = n :=
      Text.misread_of_not_isForeign fun d => not_mem_of_admits hmisread (.inr h)
    rw [hname, admits_append_cons_iff hn] at h
    rwa [admits_append_cons_iff hn]
  · have hmisread : .scalar '=' ∉ t.misread := mt (Text.mem_misread_of_isAscii hequals).1 hmem
    have hname : t.misread = t :=
      Text.misread_of_not_isForeign fun d => not_mem_of_admits (y := []) hmisread (.inl h)
    rwa [hname] at h

theorem guards_misread_of_not_mem (h : .scalar ';' ∉ t) :
    Guards s (pieces t.misread) (pieces t) := by
  have hsemicolon : (CodePoint.scalar ';').isAscii = true := by decide
  rw [pieces_of_not_mem h, pieces_of_not_mem (mt (Text.mem_misread_of_isAscii hsemicolon).1 h)]
  by_cases hstrip : t.strip = []
  · rw [if_pos hstrip]
    exact .nil
  · rw [if_neg hstrip, if_neg (Text.strip_misread_ne_nil hstrip)]
    refine .cons (fun hadmits => ?_) []
    rw [admits_strip_iff] at hadmits ⊢
    exact admits_of_misread hadmits

/-- A content type is guarded by itself when it is misread. -/
theorem guards_misread (t : Text) : Guards s (pieces t.misread) (pieces t) := by
  have hsemicolon : (CodePoint.scalar ';').isAscii = true := by decide
  induction t using Text.splitInduction (.scalar ';') with
  | last t hbare => exact guards_misread_of_not_mem hbare
  | cons front t hbare ih =>
    rw [Text.misread_append, Text.misread_cons_of_isAscii hsemicolon, pieces_append_cons,
      pieces_append_cons]
    exact (guards_misread_of_not_mem hbare).append ih

end Negotiation

/-! ### Fields on their own -/

namespace Headers

variable {h : Headers} {f : Field} {name : Text}

theorem fits_of_fold_eq (hname : name.IsAscii) {bs : Bytes} (h : fold bs = ascii name) :
    Ascii.fits bs = true := by
  have hfits : Ascii.fits (fold bs) = true := h ▸ Ascii.fits_ascii hname
  rw [Ascii.fits, fold, List.all_map, List.all_eq_true] at hfits
  rw [Ascii.fits, List.all_eq_true]
  intro b hb
  have hlower := of_decide_eq_true (hfits b hb)
  rw [decide_eq_true_eq]
  unfold lowerByte at hlower
  split_ifs at hlower with hcapital
  · omega
  · exact hlower

theorem decode_of_fits {bs : Bytes} (hbs : Ascii.fits bs = true) (h : Headers) :
    h.decode bs = Latin1.decode bs := by
  unfold decode
  split
  · exact Piece.lenient_of_text? (text_pieces_ascii hbs .utf8 0)
  · rfl

theorem misread_decodeLenient {bs : Bytes} (hbs : Utf8.fits bs = true) :
    (Utf8.decodeLenient bs).misread = Latin1.decode bs := by
  obtain ⟨t, ht⟩ := Except.exists_of_isOk hbs
  have hlenient : Utf8.decodeLenient bs = t := Piece.lenient_of_text? ht
  rw [hlenient, Text.misread, Utf8.encodeScalars_of_text ht]

theorem encoding_of_mem (hf : f ∈ h) (hvalue : Ascii.fits f.value = false) :
    h.encoding =
      if h.all fun f => Utf8.fits f.name && Utf8.fits f.value then .utf8 else .latin1 := by
  have hascii : (h.all fun f => Ascii.fits f.name && Ascii.fits f.value) = false :=
    List.all_eq_false.2 ⟨f, hf, by simp [hvalue]⟩
  rw [encoding, hascii, if_neg Bool.false_ne_true]

/-- Beside other fields a field is read as it is on its own, or its UTF-8 is read in Latin-1. -/
theorem decode_of_mem (hf : f ∈ h) (hname : Ascii.fits f.name = true) :
    h.decode f.value = decode [f] f.value ∨ h.decode f.value = (decode [f] f.value).misread := by
  cases hascii : Ascii.fits f.value with
  | true => exact .inl ((decode_of_fits hascii h).trans (decode_of_fits hascii [f]).symm)
  | false =>
    rw [decode, decode, encoding_of_mem hf hascii,
      encoding_of_mem (List.mem_singleton_self f) hascii, List.all_cons, List.all_nil,
      Bool.and_true, fits_utf8 hname, Bool.true_and]
    cases hutf8 : Utf8.fits f.value with
    | true =>
      rw [if_pos rfl]
      split_ifs
      · exact .inl rfl
      · exact .inr (misread_decodeLenient hutf8).symm
    | false =>
      have hall : (h.all fun f => Utf8.fits f.name && Utf8.fits f.value) = false :=
        List.all_eq_false.2 ⟨f, hf, by simp [hutf8]⟩
      rw [hall, if_neg Bool.false_ne_true]
      exact .inl rfl

end Headers

namespace Text

/-- A text stands in what it was joined to, and a comma follows unless it is the last. -/
theorem exists_join_append_cons (front : List Text) (t : Text) (behind : List Text) :
    ∃ a r, join ", " (front ++ t :: behind) = a ++ (t ++ r) ∧
      (r = [] ∨ ∃ u, r = .scalar ',' :: u) := by
  induction front with
  | nil =>
    cases behind with
    | nil => exact ⟨[], [], by simp [join], .inl rfl⟩
    | cons x behind =>
      refine ⟨[], _, ?_, .inr ⟨.scalar ' ' :: join ", " (x :: behind), rfl⟩⟩
      rw [List.nil_append, List.nil_append, join, List.intercalate_cons_cons, List.append_assoc]
      rfl
  | cons x front ih =>
    obtain ⟨a, r, hjoin, hr⟩ := ih
    obtain ⟨y, rest, hrest⟩ := List.exists_cons_of_ne_nil
      (List.append_ne_nil_of_right_ne_nil front (List.cons_ne_nil t behind))
    refine ⟨x ++ ", " ++ a, r, ?_, hr⟩
    rw [List.cons_append, hrest, join, List.intercalate_cons_cons, ← hrest]
    rw [join] at hjoin
    rw [hjoin]
    simp only [List.append_assoc]

end Text

namespace Negotiation

open MediaType

variable {s : Settings} {h : Headers} {f : Field} {t : Text}

theorem strangers_eq_nil_iff_admits : strangers s (MediaType.ofText t).others = [] ↔
    ∀ piece ∈ (pieces t).tail, Admits s piece := by
  have hstrip : ∀ piece ∈ pieces t, Text.strip piece = piece := fun _ => strip_of_mem_pieces
  rw [MediaType.ofText]
  cases hpieces : pieces t with
  | nil => simp [strangers]
  | cons first rest =>
    rw [hpieces] at hstrip
    exact strangers_ofText_eq_nil_iff (List.forall_mem_cons.1 hstrip).2

theorem checkGiven_given : checkGiven (.ok s) h.given = .ok () ↔
    checkContentType s ((h.get? "content-type").getD []) = .ok () := by
  have hgiven : checkGiven (.ok s) h.given = (check s h).mapError fun r => .api (r.error s) := by
    rw [checkGiven, Headers.ofPairs_given]
    rfl
  rw [hgiven, Except.mapError_eq_ok_iff, check]

/-- No field brings in parameters that would be refused on its own. -/
theorem admits_of_mem (hh : checkGiven (.ok s) h.given = .ok ()) (hf : f ∈ h)
    (hname : Headers.fold f.name = Headers.ascii "content-type") :
    ∀ piece ∈ (pieces (Headers.decode [f] f.value)).tail, Admits s piece := by
  have hmem : h.decode f.value ∈ h.values "content-type" :=
    List.mem_map_of_mem (List.mem_filter.2 ⟨hf, decide_eq_true hname⟩)
  obtain ⟨front, behind, hvalues⟩ := List.append_of_mem hmem
  obtain ⟨a, r, hjoin, hr⟩ := Text.exists_join_append_cons front (h.decode f.value) behind
  have hget : h.get? "content-type" = some (a ++ (h.decode f.value ++ r)) := by
    rw [← hjoin, ← hvalues, Headers.get?]
    split
    · rename_i hnil
      rw [hnil] at hmem
      cases hmem
    · rfl
  rw [checkGiven_given, hget, Option.getD_some, checkContentType_eq_ok,
    strangers_eq_nil_iff_admits] at hh
  obtain ⟨-, -, -, -, hwhole⟩ := hh
  have hbeside : ∀ piece ∈ (pieces (h.decode f.value)).tail, Admits s piece :=
    (guards_append _ hr).tail fun p hp => hwhole p (tail_pieces_subset a _ hp)
  have hascii : Ascii.fits f.name = true := Headers.fits_of_fold_eq (by decide) hname
  rcases Headers.decode_of_mem hf hascii with hdecode | hdecode
  · exact hdecode ▸ hbeside
  · rw [hdecode] at hbeside
    exact (guards_misread _).tail hbeside

/-- A content type of the media type of the settings with empty lists, whatever its other parameters
are. -/
structure Bears (s : Settings) (contentType : Text) : Prop where
  nonblank : contentType.strip ≠ []
  essence : (MediaType.ofText contentType).essence = s.mediaType.lower
  ext : (MediaType.ofText contentType).ext = []
  profile : (MediaType.ofText contentType).profile = []

theorem get?_singleton (hname : Headers.fold f.name = Headers.ascii "content-type") :
    Headers.get? [f] "content-type" = some (Headers.decode [f] f.value) := by
  have hvalues : Headers.values [f] "content-type" = [Headers.decode [f] f.value] := by
    rw [Headers.values, List.filter_eq_self.2 (by simpa using hname), List.map_singleton]
  rw [Headers.get?, hvalues]
  exact congrArg some List.intercalate_singleton

/-- **A content type field that is accepted beside others** is accepted on its own exactly when it
bears the media type of the settings and its lists are empty: no other parameter is let through
because of the fields around it. -/
theorem passes_alone_iff (hh : checkGiven (.ok s) h.given = .ok ()) (hf : f ∈ h)
    (hname : Headers.fold f.name = Headers.ascii "content-type") :
    checkGiven (.ok s) (Headers.given [f]) = .ok () ↔ Bears s (Headers.decode [f] f.value) := by
  rw [checkGiven_given, get?_singleton hname, Option.getD_some, checkContentType_eq_ok,
    strangers_eq_nil_iff_admits]
  constructor
  · rintro ⟨hnonblank, hessence, hext, hprofile, -⟩
    exact ⟨hnonblank, hessence, hext, hprofile⟩
  · intro hbears
    exact ⟨hbears.nonblank, hbears.essence, hbears.ext, hbears.profile, admits_of_mem hh hf hname⟩

/-- The same type comes twice, first with a charset. -/
theorem passes_alone_twice :
    ∃ (h : Headers) (f : Field), h = [⟨Headers.ascii "Content-Type",
        Headers.ascii "application/vnd.api+json; charset=utf-8"⟩, f] ∧
      f = ⟨Headers.ascii "content-type", Headers.ascii "application/vnd.api+json"⟩ ∧
      checkGiven (.ok .default) h.given = .ok () ∧
      checkGiven (.ok .default) (Headers.given [f]) = .ok () := by
  have hh : checkGiven (.ok .default) (Headers.given [⟨Headers.ascii "Content-Type",
      Headers.ascii "application/vnd.api+json; charset=utf-8"⟩,
      ⟨Headers.ascii "content-type", Headers.ascii "application/vnd.api+json"⟩]) = .ok () := by
    rfl
  refine ⟨_, _, rfl, rfl, hh, ?_⟩
  refine (passes_alone_iff hh (List.mem_cons_of_mem _ (List.mem_singleton_self _))
    (by decide)).2 ⟨by decide +kernel, by decide +kernel, by decide +kernel, by decide +kernel⟩

/-- Another type hides behind the charset of the field in front of it. -/
theorem passes_beside_others :
    ∃ (h : Headers) (f : Field), h = [⟨Headers.ascii "Content-Type",
        Headers.ascii "application/vnd.api+json; charset=utf-8"⟩, f] ∧
      f = ⟨Headers.ascii "Content-Type", Headers.ascii "text/html"⟩ ∧
      checkGiven (.ok .default) h.given = .ok () ∧
      checkGiven (.ok .default) (Headers.given [f]) ≠ .ok () := by
  refine ⟨_, _, rfl, rfl, rfl, ?_⟩
  intro hok
  have hfails : (checkGiven (.ok .default) (Headers.given [⟨Headers.ascii "Content-Type",
      Headers.ascii "text/html"⟩])).isOk = false := by
    decide +kernel
  rw [hok] at hfails
  cases hfails

end Negotiation

end JsonApi
