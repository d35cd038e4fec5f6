import JsonApi.Proofs.Document.Items
import JsonApi.Proofs.Request.Exits
import JsonApi.Proofs.Request.RoundTrip
import JsonApi.Proofs.Response
import JsonApi.Proofs.Text.Upper

/-!
# Forms of a body

Bytes arrive at hand, as a file, in chunks, as the text they are the UTF-8 form of, or as the
content of a request.  A body in one of the first forms gives the bytes back
(`Body.read_of_carries`).  A request puts the method in capitals and adds fields to the headers;
neither is seen by those who read its content (`Document.readSingle_upper`,
`Headers.get?_between`).  So the same comes of all forms (`Document.form_ignored`).
-/

namespace JsonApi

/-! ### Bodies -/

namespace Body

/-- The bodies that carry bytes: at hand, as a file, in chunks, and, when they can be read as UTF-8,
as text, all of it at once or in pieces from a file. -/
inductive Carries (bs : Bytes) : Body → Prop
  | bytes : Carries bs (.bytes bs)
  | file (chunks : List Bytes) (h : chunks.flatten = bs) :
      Carries bs (.source ⟨.file, chunks.map .bytes, none⟩)
  | chunks (chunks : List Bytes) (h : chunks.flatten = bs) :
      Carries bs (.source ⟨.chunks, chunks.map .bytes, none⟩)
  | iterator (chunks : List Bytes) (h : chunks.flatten = bs) :
      Carries bs (.source ⟨.iterator, chunks.map .bytes, none⟩)
  | text {t : Text} (h : Utf8.decode bs = .ok t) : Carries bs (.text t)
  | textFile {t : Text} (h : Utf8.decode bs = .ok t) (pieces : List Text)
      (hpieces : pieces.flatten = t) : Carries bs (.source ⟨.textFile, pieces.map .text, none⟩)

theorem joinText_map_text (index : Nat) (ts : List Text) :
    joinText index (ts.map .text) = .ok ts.flatten := by
  induction ts generalizing index with
  | nil => rfl
  | cons t ts ih => rw [List.map_cons, joinText, ih, Except.ok_map, List.flatten_cons]

theorem encode_of_decode {bs : Bytes} {t : Text} (h : Utf8.decode bs = .ok t) :
    encode t = .ok bs := by
  rw [encode, Utf8.encode_of_decode h, Except.ok_mapError]

theorem content_map_bytes {kind : SourceKind} (hkind : kind ≠ .textFile) (chunks : List Bytes) :
    Source.content ⟨kind, chunks.map .bytes, none⟩ = .ok (.bytes chunks.flatten) := by
  have hjoined := congrArg (Except.map Chunk.bytes) (join_map_bytes 0 chunks)
  cases kind with
  | textFile => exact absurd rfl hkind
  | file | chunks | iterator => exact hjoined

theorem content_map_text (pieces : List Text) :
    Source.content ⟨.textFile, pieces.map .text, none⟩ = .ok (.text pieces.flatten) :=
  congrArg (Except.map Chunk.text) (joinText_map_text 0 pieces)

theorem read_of_content {s : Source} {c : Chunk} (h : s.content = .ok c) :
    read (.source s) = (encodeChunk c).mapError .fault := by
  rw [read_source, h, Except.ok_mapError, Except.ok_bind]

/-- **A body that carries bytes gives them back.** -/
theorem read_of_carries {bs : Bytes} {body : Body} (h : Carries bs body) : body.read = .ok bs := by
  cases h with
  | bytes => rfl
  | file chunks h | chunks chunks h | iterator chunks h =>
    refine (read_of_content (content_map_bytes ?_ chunks)).trans ?_
    · decide
    · rw [h]
      rfl
  | text h => rw [read_text, encode_of_decode h, Except.ok_mapError]
  | textFile h pieces hpieces =>
    rw [read_of_content (content_map_text pieces), hpieces, encodeChunk, encode_of_decode h,
      Except.ok_mapError]

end Body

/-! ### Fields beside others -/

namespace Headers

variable {front h back : Headers} {name : Text}

/-- Fields in ASCII that go by other names than the given one, which is in lower case. -/
def Aside (name : Text) (fields : Headers) : Prop :=
  fields.IsAscii ∧ ∀ f ∈ fields, fold f.name ≠ ascii name

theorem aside_nil (name : Text) : Aside name [] := ⟨List.forall_mem_nil _, List.forall_mem_nil _⟩

theorem aside_singleton {other value : Text} (hother : other.IsAscii) (hvalue : value.IsAscii)
    (hname : fold (ascii other) ≠ ascii name) : Aside name [⟨ascii other, ascii value⟩] :=
  ⟨List.forall_mem_singleton.2 ⟨Ascii.fits_ascii hother, Ascii.fits_ascii hvalue⟩,
    List.forall_mem_singleton.2 hname⟩

theorem text_pieces_ascii {bs : Bytes} (hbs : Ascii.fits bs = true) (encoding : Encoding)
    (position : Nat) :
    Piece.text? encoding position (Utf8.pieces false bs) = .ok (Latin1.decode bs) := by
  induction bs generalizing position with
  | nil =>
    rw [Utf8.pieces]
    rfl
  | cons b bs ih =>
    rw [Ascii.fits, List.all_cons, Bool.and_eq_true, decide_eq_true_eq] at hbs
    rw [Utf8.pieces_one hbs.1, Piece.text?, ih hbs.2]
    rfl

/-- Bytes of ASCII are UTF-8. -/
theorem fits_utf8 {bs : Bytes} (hbs : Ascii.fits bs = true) : Utf8.fits bs = true := by
  rw [Utf8.fits, Utf8.decode, text_pieces_ascii hbs]
  rfl

/-- Fields in ASCII do not change how the others are read. -/
theorem encoding_between (hfront : front.IsAscii) (hback : back.IsAscii) :
    (front ++ h ++ back).encoding = h.encoding := by
  have hascii : ∀ {fields : Headers}, fields.IsAscii →
      (fields.all fun f => Ascii.fits f.name && Ascii.fits f.value) = true := fun hfields =>
    List.all_eq_true.2 fun f hf => Bool.and_eq_true _ _ ▸ hfields f hf
  have hutf8 : ∀ {fields : Headers}, fields.IsAscii →
      (fields.all fun f => Utf8.fits f.name && Utf8.fits f.value) = true := fun hfields =>
    List.all_eq_true.2 fun f hf => by
      rw [fits_utf8 (hfields f hf).1, fits_utf8 (hfields f hf).2]
      rfl
  simp only [encoding, List.all_append, hascii hfront, hascii hback, hutf8 hfront, hutf8 hback,
    Bool.true_and, Bool.and_true]

theorem filter_aside (hfields : Aside name front) :
    (front.filter fun f => fold f.name = ascii name) = [] := by
  refine List.filter_eq_nil_iff.2 fun f hf => ?_
  rw [decide_eq_true_eq]
  exact hfields.2 f hf

/-- **Fields aside are not seen under a name.** -/
theorem get?_between (hfront : Aside name front) (hback : Aside name back) :
    (front ++ h ++ back).get? name = h.get? name := by
  have hvalues : (front ++ h ++ back).values name = h.values name := by
    rw [values, List.filter_append, List.filter_append, filter_aside hfront, filter_aside hback,
      List.nil_append, List.append_nil, values]
    refine List.map_congr_left fun f _ => ?_
    rw [decode, decode, encoding_between hfront.1 hback.1]
  rw [get?, get?, hvalues]

end Headers

/-! ### Requests -/

namespace Request

variable {method : Text} {url : Url} {headers : GivenHeaders} {content : Bytes} {r : Request}

theorem aside_of_namesHost {fields : Headers} (h : NamesHost fields) :
    fields.Aside "content-type" := by
  rcases h with rfl | ⟨host, hhost, rfl⟩
  · exact Headers.aside_nil _
  · exact Headers.aside_singleton (by decide) hhost (by decide)

theorem aside_emptyHeader (method : Text) (given : Headers) :
    (emptyHeader method given).Aside "content-type" := by
  unfold emptyHeader
  split_ifs
  · exact Headers.aside_singleton (by decide) (by decide) (by decide)
  · exact Headers.aside_nil _

theorem exists_withLength (content : Bytes) (given : Headers) :
    ∃ back, back.Aside "content-type" ∧ withLength content given = given ++ back := by
  unfold withLength Headers.setDefault
  split_ifs
  · exact ⟨[], Headers.aside_nil _, (List.append_nil given).symm⟩
  · exact ⟨[], Headers.aside_nil _, (List.append_nil given).symm⟩
  · exact ⟨_, Headers.aside_singleton (by decide) (isAscii_ofNat _) (by decide), rfl⟩

/-- What a request is made of: its headers are the given ones between others that name no content
type. -/
theorem exists_of_make (h : make method url headers content = .ok r) :
    r.method = method.upper ∧ r.content = content ∧
      ∃ front given back : Headers, Headers.ofPairs headers = .ok given ∧
        front.Aside "content-type" ∧ back.Aside "content-type" ∧
        r.headers = front ++ given ++ back := by
  obtain ⟨given, hgiven, hrest⟩ := Except.bind_eq_ok_iff.1 h
  rw [Except.mapError_eq_ok_iff] at hgiven
  obtain ⟨host, hhost, hr⟩ := Except.bind_eq_ok_iff.1 hrest
  obtain rfl := Except.ok.inj hr
  obtain ⟨back, hback, hlength⟩ := exists_withLength content given
  have hfront := aside_of_namesHost (namesHost_of_hostHeader hhost)
  have hempty := aside_emptyHeader method.upper (withLength content given)
  refine ⟨rfl, rfl, host ++ emptyHeader method.upper (withLength content given), given, back,
    hgiven, ?_, hback, ?_⟩
  · exact ⟨List.forall_mem_append.2 ⟨hfront.1, hempty.1⟩,
      List.forall_mem_append.2 ⟨hfront.2, hempty.2⟩⟩
  · simp only [hlength, List.append_assoc]

/-- The headers of a request are accepted or refused as those it was made with. -/
theorem checkGiven_of_make (settings : Except ValidationError Settings)
    (h : make method url headers content = .ok r) :
    Negotiation.checkGiven settings r.headers.given = Negotiation.checkGiven settings headers := by
  obtain ⟨-, -, front, given, back, hgiven, hfront, hback, hheaders⟩ := exists_of_make h
  simp only [Negotiation.checkGiven, Headers.ofPairs_given, hgiven, Except.ok_mapError,
    Except.ok_bind, Negotiation.check, hheaders, Headers.get?_between hfront hback]

end Request

/-! ### Methods in capitals -/

namespace Violation

variable {method : Text} {type id : Json}

theorem creates_upper (method : Text) : creates method.upper = creates method := by
  rw [creates, Text.upper_upper, creates]

theorem mapError_checkIdentity_upper (method : Text) (type id : Json) :
    (checkIdentity method.upper type id).mapError error =
      (checkIdentity method type id).mapError error := by
  have hmessage :
      error ⟨.presentId method.upper, idPlace⟩ = error ⟨.presentId method, idPlace⟩ := by
    simp only [error, Rule.message, Text.upper_upper]
  unfold checkIdentity
  rw [creates_upper]
  split
  · split
    · split_ifs
      · exact congrArg Except.error hmessage
      · rfl
    · rfl
  · rfl

end Violation

namespace Resource

theorem mapError_ofPrimary_upper (method : Text) (v : Json) :
    (ofPrimary method.upper v).mapError Rejection.failure =
      (ofPrimary method v).mapError Rejection.failure := by
  cases v with
  | object ms =>
    have hidentity := Violation.mapError_checkIdentity_upper method
      ((Members.get? "type" ms).getD .null) (idOfPrimary (Members.get? "id" ms))
    rw [ofPrimary, ofPrimary, ofPrimaryMembers, ofPrimaryMembers]
    generalize Violation.checkIdentity method.upper _ _ = x at hidentity ⊢
    generalize Violation.checkIdentity method _ _ = y at hidentity ⊢
    cases x with
    | ok p =>
      cases y with
      | ok q =>
        obtain rfl := Except.ok.inj hidentity
        rfl
      | error e => cases hidentity
    | error e =>
      cases y with
      | ok q => cases hidentity
      | error e' =>
        exact congrArg (fun e => Except.error (Failure.api e)) (Except.error.inj hidentity)
  | _ => rfl

theorem mapError_listOfPrimary_upper (method : Text) (v : Json) :
    (listOfPrimary method.upper v).mapError Rejection.failure =
      (listOfPrimary method v).mapError Rejection.failure := by
  cases v with
  | array vs =>
    rw [listOfPrimary, listOfPrimary, Except.mapError_mapM, Except.mapError_mapM]
    simp only [mapError_ofPrimary_upper]
  | _ => rfl

end Resource

namespace Document

variable {α : Type} {parse parse' : Json → Except Rejection α} {entry : α → Text}
  {settings : Except ValidationError Settings} {headers : GivenHeaders} {body body' : Body}

/-- Readers of primary data that fail with the same failures make the same of a document. -/
theorem read_congr_parse
    (h : ∀ v, (parse v).mapError Rejection.failure = (parse' v).mapError Rejection.failure) :
    read parse entry settings headers body = read parse' entry settings headers body := by
  have hbytes : ofBytes parse = ofBytes parse' := by
    funext bs
    simp only [ofBytes, h]
  rw [read_eq, read_eq, hbytes]

theorem readSingle_upper (method : Text) (settings : Except ValidationError Settings)
    (headers : GivenHeaders) (body : Body) :
    readSingle method.upper settings headers body = readSingle method settings headers body :=
  read_congr_parse (Resource.mapError_ofPrimary_upper method)

theorem readMany_upper (method : Text) (settings : Except ValidationError Settings)
    (headers : GivenHeaders) (body : Body) :
    readMany method.upper settings headers body = readMany method settings headers body :=
  read_congr_parse (Resource.mapError_listOfPrimary_upper method)

theorem read_congr_headers {headers' : GivenHeaders}
    (h : Negotiation.checkGiven settings headers = Negotiation.checkGiven settings headers') :
    read parse entry settings headers body = read parse entry settings headers' body := by
  rw [read_eq, read_eq, h]

theorem read_congr_body {bs : Bytes} (h : body.read = .ok bs) :
    read parse entry settings headers body = read parse entry settings headers (.bytes bs) := by
  have hbytes : (Body.bytes bs).read = .ok bs := rfl
  rw [read_eq, read_eq, h, hbytes]

/-- **The form of a body does not matter.**  Whatever the headers, the same comes of bytes in every
form that carries them, and of every request with those bytes as its content; there is one for every
URL that can be reached if headers that are given as text are ASCII. -/
theorem form_ignored (method : Text) (settings : Except ValidationError Settings)
    (headers : GivenHeaders) (bs : Bytes) :
    (∀ body, Body.Carries bs body →
      readSingle method settings headers body = readSingle method settings headers (.bytes bs) ∧
      readMany method settings headers body = readMany method settings headers (.bytes bs)) ∧
    (∀ url r, Request.make method url headers bs = .ok r →
      r.single settings = readSingle method settings headers (.bytes bs) ∧
      r.many settings = readMany method settings headers (.bytes bs)) ∧
    ∀ url, Request.Reachable url → headers.IsAscii →
      ∃ r, Request.make method url headers bs = .ok r := by
  refine ⟨fun body hbody => ?_, fun url r hr => ?_, fun url hurl hascii => ?_⟩
  · have hread := Body.read_of_carries hbody
    exact ⟨read_congr_body hread, read_congr_body hread⟩
  · obtain ⟨hmethod, hcontent, -⟩ := Request.exists_of_make hr
    have hheaders := Request.checkGiven_of_make settings hr
    rw [Request.single, Request.many, hmethod, hcontent, readSingle_upper, readMany_upper]
    exact ⟨read_congr_headers hheaders, read_congr_headers hheaders⟩
  · exact Request.exists_make method hurl hascii bs

/-- A text with an accent, cut inside of it. -/
theorem form_ignored_accent :
    Utf8.decode [0x22, 0xC3, 0xA9, 0x22] = .ok "\"é\"" ∧
      readSingle "post" (.ok .default) [(.text "Content-Type", .text "text/plain")]
          (.source ⟨.chunks, ([[0x22, 0xC3], [], [0xA9, 0x22]] : List Bytes).map .bytes, none⟩) =
        readSingle "post" (.ok .default) [(.text "Content-Type", .text "text/plain")]
          (.bytes [0x22, 0xC3, 0xA9, 0x22]) ∧
      readSingle "post" (.ok .default) [(.text "Content-Type", .text "text/plain")]
          (.text "\"é\"") =
        readSingle "post" (.ok .default) [(.text "Content-Type", .text "text/plain")]
          (.bytes [0x22, 0xC3, 0xA9, 0x22]) ∧
      ∃ url r, Request.make "post" url [(.text "Content-Type", .text "text/plain")]
          [0x22, 0xC3, 0xA9, 0x22] = .ok r ∧
        r.many (.ok .default) =
          readMany "post" (.ok .default) [(.text "Content-Type", .text "text/plain")]
            (.bytes [0x22, 0xC3, 0xA9, 0x22]) := by
  obtain ⟨hforms, hrequest, -⟩ := form_ignored "post" (.ok .default)
    [(.text "Content-Type", .text "text/plain")] [0x22, 0xC3, 0xA9, 0x22]
  have hdecode : Utf8.decode [0x22, 0xC3, 0xA9, 0x22] = .ok "\"é\"" := by decide +kernel
  obtain ⟨url, -, hurl⟩ := Except.exists_of_any (x := Url.ofText "http://apiserver/")
    (p := fun url => (Request.make "post" url [(.text "Content-Type", .text "text/plain")]
      [0x22, 0xC3, 0xA9, 0x22]).isOk) (by decide +kernel)
  obtain ⟨r, hr⟩ := Except.exists_of_isOk hurl
  exact ⟨hdecode, (hforms _ (.chunks _ rfl)).1, (hforms _ (.text hdecode)).1, url, r, hr,
    (hrequest url r hr).2⟩

end Document

end JsonApi
