import JsonApi.Proofs.Document.RoundTrip
import JsonApi.Proofs.Headers
import JsonApi.Proofs.Request.Stages
import JsonApi.Response

/-!
# Requests are read back

The headers of a request that was built are in ASCII: a host, if there is one, in front of the
fields that the builder gives (`Request.make_resource`).  So their content length and content type
are read as they were written, and with the settings that the request was built under its
content is read as the resource it was built from (`Request.build_reads_back`).
-/

namespace JsonApi

namespace Request

variable {url : Url} {given : Headers} {s : Settings} {content : Bytes} {method : Text}

/-- The fields that a request for a resource is given. -/
def resourceFields (mediaType : Text) (content : Bytes) : Headers :=
  [⟨Headers.ascii "Accept", Headers.ascii mediaType⟩,
    ⟨Headers.ascii "Content-Type", Headers.ascii mediaType⟩,
    ⟨Headers.ascii "Content-Length", Headers.ascii (Text.ofNat content.length)⟩]

theorem isAscii_ofNat (n : Nat) : (Text.ofNat n).IsAscii :=
  List.all_eq_true.2 fun _ hc => Text.isAscii_of_isDigit (Text.isDigit_of_mem_ofNat hc)

/-- Fields that name the host: one field in ASCII, or none. -/
def NamesHost (fields : Headers) : Prop :=
  fields = [] ∨ ∃ host, Text.IsAscii host ∧
    fields = [⟨Headers.ascii "host", Headers.ascii host⟩]

theorem namesHost_of_hostHeader {fields : Headers} (h : hostHeader url given = .ok fields) :
    NamesHost fields := by
  unfold hostHeader at h
  split at h
  · exact .inl (Except.ok.inj h).symm
  · obtain ⟨host, -, hrest⟩ := Except.bind_eq_ok_iff.1 h
    split at hrest
    · exact .inl (Except.ok.inj hrest).symm
    · obtain ⟨value, hvalue, hfields⟩ := Except.bind_eq_ok_iff.1 hrest
      obtain ⟨hascii, rfl⟩ := Ascii.encode_eq_ok_iff.1 (Except.mapError_eq_ok_iff.1 hvalue)
      exact .inr ⟨_, hascii, (Except.ok.inj hfields).symm⟩

theorem ofPairs_resourceFields {mediaType : Text} (h : mediaType.IsAscii) (content : Bytes) :
    Headers.ofPairs [(.text "Accept", .text mediaType), (.text "Content-Type", .text mediaType),
        (.text "Content-Length", .text (Text.ofNat content.length))] =
      .ok (resourceFields mediaType content) := by
  have htype := Ascii.encode_eq_ok_iff.2 ⟨h, rfl⟩
  have hlength := Ascii.encode_eq_ok_iff.2 ⟨isAscii_ofNat content.length, rfl⟩
  simp only [Headers.ofPairs, List.mapM_cons, List.mapM_nil, FieldText.encode, htype, hlength]
  rfl

theorem filter_length (mediaType : Text) (content : Bytes) :
    ((resourceFields mediaType content).filter fun f =>
        Headers.fold f.name = Headers.ascii "content-length") =
      [⟨Headers.ascii "Content-Length", Headers.ascii (Text.ofNat content.length)⟩] := rfl

theorem filter_contentType (mediaType : Text) (content : Bytes) :
    ((resourceFields mediaType content).filter fun f =>
        Headers.fold f.name = Headers.ascii "content-type") =
      [⟨Headers.ascii "Content-Type", Headers.ascii mediaType⟩] := rfl

theorem has_length (mediaType : Text) (content : Bytes) :
    (resourceFields mediaType content).has "content-length" = true := by
  rw [Headers.has, Headers.values, filter_length]
  rfl

theorem withLength_resourceFields (mediaType : Text) (content : Bytes) :
    withLength content (resourceFields mediaType content) = resourceFields mediaType content := by
  rw [withLength, Headers.setDefault, has_length]
  split <;> rfl

theorem emptyHeader_resourceFields (method mediaType : Text) (content : Bytes) :
    emptyHeader method (resourceFields mediaType content) = [] := by
  rw [emptyHeader, has_length]
  simp

/-- Making a request with the fields of a resource puts nothing but the host in front of them. -/
theorem make_resource {mediaType : Text} (hascii : mediaType.IsAscii) {q : Request}
    (h : make method url [(.text "Accept", .text mediaType),
      (.text "Content-Type", .text mediaType),
      (.text "Content-Length", .text (Text.ofNat content.length))] content = .ok q) :
    q.method = method.upper ∧ q.content = content ∧
      ∃ front, NamesHost front ∧ q.headers = front ++ resourceFields mediaType content := by
  rw [make, ofPairs_resourceFields hascii] at h
  simp only [Except.ok_mapError, Except.ok_bind, withLength_resourceFields,
    emptyHeader_resourceFields, List.append_nil] at h
  obtain ⟨front, hfront, hq⟩ := Except.bind_eq_ok_iff.1 h
  obtain rfl := Except.ok.inj hq
  exact ⟨rfl, rfl, front, namesHost_of_hostHeader hfront, rfl⟩

section Fields

variable {front : Headers} {mediaType : Text}

theorem isAscii_fields (hfront : NamesHost front) (hascii : mediaType.IsAscii) (content : Bytes) :
    (front ++ resourceFields mediaType content).IsAscii := by
  have hname : Ascii.fits (Headers.ascii "host") = true := by decide
  have hgiven : (resourceFields mediaType content).IsAscii := by
    have htype := Ascii.fits_ascii hascii
    have hlength := Ascii.fits_ascii (isAscii_ofNat content.length)
    simp only [Headers.IsAscii, resourceFields, List.forall_mem_cons]
    exact ⟨⟨by decide, htype⟩, ⟨by decide, htype⟩, ⟨by decide, hlength⟩, List.forall_mem_nil _⟩
  refine List.forall_mem_append.2 ⟨?_, hgiven⟩
  rcases hfront with rfl | ⟨host, hhost, rfl⟩
  · exact List.forall_mem_nil _
  · exact List.forall_mem_singleton.2 ⟨hname, Ascii.fits_ascii hhost⟩

/-- What names the host goes by no other name. -/
theorem filter_front (hfront : NamesHost front) {name : Text}
    (hname : Headers.ascii "host" ≠ Headers.ascii name) :
    (front.filter fun f => Headers.fold f.name = Headers.ascii name) = [] := by
  have hfold : Headers.fold (Headers.ascii "host") = Headers.ascii "host" := by decide
  rcases hfront with rfl | ⟨host, -, rfl⟩
  · rfl
  · simp [hfold, hname]

/-- A field that was given is found behind what names the host. -/
theorem get_given (hfront : NamesHost front) (hascii : mediaType.IsAscii) {name t : Text}
    {f : Field} (hname : Headers.ascii "host" ≠ Headers.ascii name) (ht : t.IsAscii)
    (hf : ((resourceFields mediaType content).filter fun f =>
      Headers.fold f.name = Headers.ascii name) = [f]) (hvalue : f.value = Headers.ascii t) :
    (front ++ resourceFields mediaType content).get? name = some t := by
  refine Headers.get_of_single (isAscii_fields hfront hascii content) ht ?_ hvalue
  rw [List.filter_append, filter_front hfront hname, List.nil_append, hf]

theorem get_length (hfront : NamesHost front) (hascii : mediaType.IsAscii) (content : Bytes) :
    (front ++ resourceFields mediaType content).get? "content-length" =
      some (Text.ofNat content.length) :=
  get_given hfront hascii (by decide) (isAscii_ofNat _) (filter_length mediaType content) rfl

theorem get_contentType (hfront : NamesHost front) (hascii : mediaType.IsAscii)
    (content : Bytes) :
    (front ++ resourceFields mediaType content).get? "content-type" = some mediaType :=
  get_given hfront hascii (by decide) hascii (filter_contentType mediaType content) rfl

end Fields

/-! ### The whole request -/

/-- What building a request for a resource with content has done. -/
theorem change_eq_ok {base : Json} {r : Resource} {q : Request}
    (hmethod : method.upper = "POST" ∨ method.upper = "PATCH")
    (h : change method base (some r) s = .ok q) :
    ∃ content url, r.validate method.upper = .ok () ∧
      Document.render (some s.jsonIndent) (Document.single r) = .ok content ∧
      make method.upper url [(.text "Accept", .text s.mediaType),
        (.text "Content-Type", .text s.mediaType),
        (.text "Content-Length", .text (Text.ofNat content.length))] content = .ok q := by
  have hcarries : carries method.upper = true := by
    rcases hmethod with h | h <;> rw [h] <;> decide
  obtain ⟨-, r, ⟨⟩, u, -, hsend⟩ := change_eq_ok_iff.1 h
  obtain ⟨hvalid, content, url, hcontent, -, hmake⟩ := send_eq_ok_iff.1 hsend
  rw [contentOf, if_pos hcarries] at hcontent
  exact ⟨content, url, hvalid,
    Except.mapError_eq_ok_iff.1 (Except.mapError_eq_ok_iff.1 hcontent), hmake⟩

/-- **A built request is read back.**  Under settings with a plain media type, a request that
carries a resource has its method in capitals, names the length of its content, holds the document
of the resource, and is read as the resource, whatever the indent is and whether or not a charset is
tolerated. -/
theorem build_reads_back (hs : s.Plain)
    (hmethod : method.upper = "POST" ∨ method.upper = "PATCH") {base : Json} {r : Resource}
    (hr : ∀ a ∈ r.attributes, a.Canonical) {q : PreparedRequest}
    (h : (build (.ok s) method base (some r)).result = .ok q) :
    q.request.method = method.upper ∧
      q.request.headers.get? "content-length" = some (Text.ofNat q.request.content.length) ∧
      Json.ofBytes q.request.content = .ok (Document.single r) ∧
      (q.request.single (.ok s)).result = .ok r.received := by
  have hchange : change method base (some r) s = .ok q.request := by
    rw [build, outcome] at h
    cases hc : change method base (some r) s with
    | error f =>
      rw [hc] at h
      cases h
    | ok request =>
      rw [hc] at h
      obtain rfl := Except.ok.inj h
      rfl
  obtain ⟨content, url, hvalid, hrender, hmake⟩ := change_eq_ok hmethod hchange
  obtain ⟨hname, hcontent, front, hfront, hheaders⟩ := make_resource hs.ascii hmake
  have hupper : method.upper.upper = method.upper := by
    rcases hmethod with h | h <;> rw [h] <;> decide
  -- what is read has its names merged, and the document of a resource has no name twice
  have hread : Json.ofBytes content = .ok (Document.single r) := by
    have hmerged := Json.ofBytes_toBytes (Json.Layout.standard_ofIndent _) hrender
    rwa [Json.merged_of_settled (Document.settled_single r)] at hmerged
  have haccepted : Negotiation.checkGiven (.ok s) q.request.headers.given = .ok () :=
    Negotiation.checkGiven_of_plain hs (hheaders ▸ get_contentType hfront hs.ascii content)
  have hresult : (q.request.single (.ok s)).result = .ok r.received := by
    have hparsed := Document.result_readSingle haccepted q.request.method hread rfl
    rw [Resource.ofPrimary_toJson hr (by rw [hname, hupper]; exact hvalid)] at hparsed
    rw [single, hcontent]
    exact hparsed
  rw [hname, hcontent, hheaders, hupper]
  exact ⟨rfl, get_length hfront hs.ascii content, hread, hresult⟩

/-- The request that creates a user is read back under the default settings. -/
theorem build_reads_back_user :
    Settings.Plain .default ∧ ∃ a : Attributes, a.Canonical ∧
      ∃ q, (build (.ok .default) "post" (.string "https://example.com/api")
          (some ⟨"user", [], some a, none⟩)).result = .ok q ∧
        q.request.method = "POST" ∧
        (q.request.single (.ok .default)).result =
          .ok (Resource.received ⟨"user", [], some a, none⟩) := by
  have hplain : Settings.Plain .default := ⟨by decide, by decide, by decide, by decide⟩
  refine ⟨hplain, ⟨Utf8.encodeScalars "[\"Ada\"]", .array [.string "Ada"],
    ⟨.array [.string "Ada"], rfl⟩,
    Json.ofBytes_toBytes (v := .array [.string "Ada"]) Json.Layout.standard_compact rfl⟩,
    Attributes.canonical_iff.2 rfl, Except.exists_ok_and (by decide +kernel) fun q hq => ?_⟩
  have hread := build_reads_back hplain (.inl (by decide))
    (by rintro a ⟨⟩; exact Attributes.canonical_iff.2 rfl) hq
  exact ⟨hread.1, hread.2.2.2⟩

end Request

end JsonApi
