import JsonApi.Proofs.Document.Reading
import JsonApi.Proofs.Document.Wire

/-!
# Documents are read back

The wire form of a resource is settled, and it has bytes when the texts of the resource hold no
halves of surrogate pairs.  So a rendered document is read as the document that was built, and
what the reader makes of a resource in it is settled by `Proofs.Document.Wire`.

* `Document.readSingle_agrees_with_validate` : the reader rejects a rendered resource when the
  validator does, with the same error, and gives a resource otherwise;
* `Document.read_render` : resources that can be sent are read back, alone and in lists.
-/

namespace JsonApi

/-! ### Texts without halves of surrogate pairs -/

/-- An identifier whose texts have a UTF-8 form. -/
def Identifier.Scalar (i : Identifier) : Prop := i.type.isScalar = true ∧ i.id.isScalar = true

/-- Relationships whose names and identifiers have a UTF-8 form. -/
def Relationships.Scalar (rs : Relationships) : Prop :=
  ∀ e ∈ rs.entries, e.1.isScalar = true ∧ ∀ i ∈ e.2.data.identifiers, i.Scalar

/-- A resource whose type, id and relationships have a UTF-8 form. -/
structure Resource.Scalar (r : Resource) : Prop where
  type : r.type.isScalar = true
  id : r.id.isScalar = true
  relationships : ∀ rs ∈ r.relationships, rs.Scalar

/-! ### The wire form -/

namespace Identifier

theorem settled_toJson (i : Identifier) : i.toJson.Settled := by
  have hnames : (["type", "id"] : List Text).Nodup := by decide
  refine .object hnames fun m hm => ?_
  simp only [List.mem_cons, List.not_mem_nil, or_false] at hm
  rcases hm with rfl | rfl <;> exact .string _

theorem encodable_toJson {i : Identifier} (h : i.Scalar) : i.toJson.Encodable := by
  refine Json.encodable_object.2 fun m hm => ?_
  simp only [List.mem_cons, List.not_mem_nil, or_false] at hm
  rcases hm with rfl | rfl
  · exact ⟨rfl, Json.encodable_string.2 h.1⟩
  · exact ⟨rfl, Json.encodable_string.2 h.2⟩

end Identifier

namespace Linkage

theorem settled_toJson (l : Linkage) : l.toJson.Settled := by
  match l with
  | .toOne none => exact .null
  | .toOne (some i) => exact i.settled_toJson
  | .toMany is =>
    refine .array fun v hv => ?_
    obtain ⟨i, -, rfl⟩ := List.mem_map.1 hv
    exact i.settled_toJson

theorem encodable_toJson {l : Linkage} (h : ∀ i ∈ l.identifiers, i.Scalar) :
    l.toJson.Encodable := by
  match l with
  | .toOne none => exact Json.encodable_null
  | .toOne (some i) => exact Identifier.encodable_toJson (h i (by simp [identifiers]))
  | .toMany is =>
    refine Json.encodable_array.2 fun v hv => ?_
    obtain ⟨i, hi, rfl⟩ := List.mem_map.1 hv
    exact Identifier.encodable_toJson (h i hi)

end Linkage

namespace Relationships

theorem names_toJson (es : List (Text × Relationship)) :
    Members.names (es.map fun (name, x) => (name, x.toJson)) = Members.names es := by
  rw [Members.names, List.map_map]
  rfl

theorem settled_toJson (rs : Relationships) : rs.toJson.Settled := by
  refine .object (names_toJson rs.entries ▸ rs.distinct) fun m hm => ?_
  obtain ⟨e, -, rfl⟩ := List.mem_map.1 hm
  refine .object (by simp [Members.names]) fun m hm => ?_
  obtain rfl := List.mem_singleton.1 hm
  exact e.2.data.settled_toJson

theorem encodable_toJson {rs : Relationships} (h : rs.Scalar) : rs.toJson.Encodable := by
  refine Json.encodable_object.2 fun m hm => ?_
  obtain ⟨e, he, rfl⟩ := List.mem_map.1 hm
  refine ⟨(h e he).1, Json.encodable_object.2 fun m hm => ?_⟩
  obtain rfl := List.mem_singleton.1 hm
  exact ⟨rfl, Linkage.encodable_toJson (h e he).2⟩

end Relationships

namespace Resource

theorem names_members_sublist (r : Resource) :
    (Members.names r.members).Sublist ["type", "id", "attributes", "relationships"] := by
  obtain ⟨type, id, attributes, relationships⟩ := r
  refine .cons_cons _ ?_
  cases id <;> cases attributes <;> cases relationships <;> simp

theorem forall_mem_members {r : Resource} {p : Text → Json → Prop}
    (htype : p "type" (.string r.type)) (hid : p "id" (.string r.id))
    (has : ∀ a ∈ r.attributes, p "attributes" a.value)
    (hrs : ∀ rs ∈ r.relationships, p "relationships" rs.toJson) :
    ∀ m ∈ r.members, p m.1 m.2 := by
  simp only [members, List.forall_mem_append]
  refine ⟨⟨⟨List.forall_mem_singleton.2 htype, ?_⟩, ?_⟩, ?_⟩
  · split
    · exact List.forall_mem_nil _
    · exact List.forall_mem_singleton.2 hid
  · cases h : r.attributes with
    | none => exact List.forall_mem_nil _
    | some a => exact List.forall_mem_singleton.2 (has a h)
  · cases h : r.relationships with
    | none => exact List.forall_mem_nil _
    | some rs => exact List.forall_mem_singleton.2 (hrs rs h)

theorem settled_toJson (r : Resource) : r.toJson.Settled := by
  have hnames : (["type", "id", "attributes", "relationships"] : List Text).Nodup := by decide
  have hvalues : ∀ m ∈ r.members, m.2.Settled :=
    forall_mem_members (p := fun _ v => v.Settled) (.string _) (.string _)
      (fun a _ => a.settled_value) fun rs _ => rs.settled_toJson
  exact .object (hnames.sublist r.names_members_sublist) hvalues

theorem encodable_toJson {r : Resource} (h : r.Scalar) : r.toJson.Encodable :=
  Json.encodable_object.2 <|
    forall_mem_members (p := fun name v => name.isScalar = true ∧ v.Encodable)
      ⟨rfl, Json.encodable_string.2 h.type⟩ ⟨rfl, Json.encodable_string.2 h.id⟩
      (fun a _ => ⟨rfl, a.encodable_value⟩)
      fun rs hrs => ⟨rfl, Relationships.encodable_toJson (h.relationships rs hrs)⟩

end Resource

/-! ### Documents -/

namespace Document

variable {method : Text} {settings : Except ValidationError Settings} {headers : GivenHeaders}
  {links info : Option Json} {indent : Option Int} {data : Json}

theorem member_eq_ok {name : Text} {v : Option Json} {ms : Members}
    (h : Section.member name v = .ok ms) : ms = [] ∨ ∃ part, ms = [(name, .object part)] := by
  cases v with
  | none => exact .inl (Except.ok.inj h).symm
  | some v =>
    rw [Section.member] at h
    split at h
    · exact .inl (Except.ok.inj h).symm
    · obtain ⟨part, -, rfl⟩ := Except.map_eq_ok_iff.1 h
      exact .inr ⟨part, rfl⟩

/-- The links and the meta section can be rendered, whatever the primary data is. -/
def Renders (links info : Option Json) (indent : Option Int) : Prop :=
  ∃ document bs, build .null links info = .ok document ∧ render indent document = .ok bs

theorem build_eq_ok_iff {document : Json} :
    build data links info = .ok document ↔ ∃ ls is, Section.member "links" links = .ok ls ∧
      Section.member "meta" info = .ok is ∧ document = .object (("data", data) :: (ls ++ is)) := by
  constructor
  · intro h
    obtain ⟨ls, hls, hrest⟩ := Except.bind_eq_ok_iff.1 h
    obtain ⟨is, his, hdocument⟩ := Except.bind_eq_ok_iff.1 hrest
    exact ⟨ls, is, hls, his, (Except.ok.inj hdocument).symm⟩
  · rintro ⟨ls, is, hls, his, rfl⟩
    rw [build, hls, Except.ok_bind, his]
    rfl

theorem render_eq_ok_iff (indent : Option Int) {document : Json} :
    (∃ bs, render indent document = .ok bs) ↔ document.Encodable :=
  Json.exists_toBytes_iff (Json.Layout.standard_ofIndent indent)

theorem names_sections (data : Json) {ls is : Members} (hls : Section.member "links" links = .ok ls)
    (his : Section.member "meta" info = .ok is) :
    (Members.names (("data", data) :: (ls ++ is))).Nodup := by
  have hnames : (["data", "links", "meta"] : List Text).Nodup := by decide
  refine hnames.sublist (.cons_cons _ ?_)
  rcases member_eq_ok hls with rfl | ⟨l, rfl⟩ <;> rcases member_eq_ok his with rfl | ⟨i, rfl⟩ <;>
    simp

/-- A document is rendered when its primary data and its sections can be, and is read as an object
that holds the data. -/
theorem exists_render (hsections : Renders links info indent) (hdata : data.Encodable)
    (hsettled : data.Settled) :
    ∃ document bs ms, build data links info = .ok document ∧ render indent document = .ok bs ∧
      Json.ofBytes bs = .ok (.object ms) ∧ Members.get? "data" ms = some data := by
  obtain ⟨document₀, bs₀, hbuild, hrender⟩ := hsections
  obtain ⟨ls, is, hls, his, rfl⟩ := build_eq_ok_iff.1 hbuild
  -- the sections were rendered beside a null, and are rendered beside other data as well
  have hall := Json.encodable_object.1 ((render_eq_ok_iff indent).1 ⟨_, hrender⟩)
  have hrest := List.forall_mem_cons.1 hall
  have hdocument : (Json.object (("data", data) :: (ls ++ is))).Encodable :=
    Json.encodable_object.2 (List.forall_mem_cons.2 ⟨⟨rfl, hdata⟩, hrest.2⟩)
  obtain ⟨bs, hbs⟩ := (render_eq_ok_iff indent).2 hdocument
  refine ⟨_, bs, _, build_eq_ok_iff.2 ⟨ls, is, hls, his, rfl⟩, hbs,
    Json.ofBytes_toBytes (Json.Layout.standard_ofIndent indent) hbs, ?_⟩
  have hnodup := names_sections data hls his
  rw [← Json.names_mergedMembers] at hnodup
  rw [Members.ofPairs_of_nodup hnodup]
  exact congrArg some (Json.merged_of_settled hsettled)

/-- What the reader makes of a rendered resource is what it makes of its wire form. -/
theorem result_readSingle (hheaders : Negotiation.checkGiven settings headers = .ok ())
    (method : Text) {bs : Bytes} {ms : Members} (hbs : Json.ofBytes bs = .ok (.object ms))
    (hdata : Members.get? "data" ms = some data) :
    (readSingle method settings headers (.bytes bs)).result =
      (Resource.ofPrimary method data).mapError Rejection.failure := by
  rw [readSingle, result_read_bytes singleEntry hheaders, ofBytes_of_data hbs hdata]

theorem result_readMany (hheaders : Negotiation.checkGiven settings headers = .ok ())
    (method : Text) {bs : Bytes} {ms : Members} (hbs : Json.ofBytes bs = .ok (.object ms))
    (hdata : Members.get? "data" ms = some data) :
    (readMany method settings headers (.bytes bs)).result =
      (Resource.listOfPrimary method data).mapError Rejection.failure := by
  rw [readMany, result_read_bytes manyEntry hheaders, ofBytes_of_data hbs hdata]

theorem settled_single (r : Resource) : (single r).Settled :=
  .object (List.nodup_cons.2 ⟨List.not_mem_nil, List.nodup_nil⟩)
    (List.forall_mem_singleton.2 r.settled_toJson)

theorem encodable_single {r : Resource} (h : r.Scalar) : (single r).Encodable :=
  Json.encodable_object.2 (List.forall_mem_singleton.2 ⟨rfl, Resource.encodable_toJson h⟩)

theorem renders_none (indent : Option Int) : Renders none none indent := by
  have hnull : (Json.object [("data", .null)]).Encodable :=
    Json.encodable_object.2 (List.forall_mem_singleton.2 ⟨rfl, Json.encodable_null⟩)
  obtain ⟨bs, hbs⟩ := (render_eq_ok_iff indent).2 hnull
  exact ⟨_, bs, rfl, hbs⟩

/-- **The validator and the reader agree.**  A resource whose texts have a UTF-8 form is rendered;
the validator rejects it with an error exactly when the reader rejects the rendered document with
the same error, and a resource that passes is read. -/
theorem readSingle_agrees_with_validate
    (hheaders : Negotiation.checkGiven settings headers = .ok ()) (method : Text) {r : Resource}
    (hr : r.Scalar) :
    ∃ bs, render defaultIndent (single r) = .ok bs ∧
      (∀ e : ApiError, (∃ v, r.validate method = .error v ∧ v.error = e) ↔
        e.errorClass = .specification ∧
          (readSingle method settings headers (.bytes bs)).result = .error (.api e)) ∧
      (r.validate method = .ok () →
        ∃ r', (readSingle method settings headers (.bytes bs)).result = .ok r') := by
  obtain ⟨document, bs, ms, hbuild, hrender, hbs, hdata⟩ :=
    exists_render (renders_none defaultIndent) (Resource.encodable_toJson hr) r.settled_toJson
  obtain rfl : single r = document := Except.ok.inj hbuild
  refine ⟨bs, hrender, ?_⟩
  rw [result_readSingle hheaders method hbs hdata]
  cases hvalidate : r.validate method with
  | error v =>
    rw [Resource.ofPrimary_toJson_of_error hvalidate]
    refine ⟨fun e => ⟨?_, ?_⟩, nofun⟩
    · rintro ⟨v', hv, rfl⟩
      obtain rfl := Except.error.inj hv
      exact ⟨rfl, rfl⟩
    · rintro ⟨-, he⟩
      exact ⟨v, rfl, Failure.api.inj (Except.error.inj he)⟩
  | ok u =>
    obtain ⟨as, -, hread⟩ := Resource.exists_ofPrimary_toJson hvalidate
    rw [hread]
    refine ⟨fun e => ⟨?_, ?_⟩, fun _ => ⟨_, rfl⟩⟩
    · rintro ⟨v, hv, -⟩
      cases hv
    · rintro ⟨-, he⟩
      cases he

/-- The validator and the reader miss the id of a comment at the same place. -/
theorem readSingle_agrees_on_comments :
    Negotiation.checkGiven (.ok .default)
        [(.text "content-type", .text "Application/vnd.api+json")] = .ok () ∧
      ∃ r : Resource, r.Scalar ∧ ∃ bs, render defaultIndent (single r) = .ok bs ∧
        (readSingle "PATCH" (.ok .default)
          [(.text "content-type", .text "Application/vnd.api+json")] (.bytes bs)).result =
          .error (.api (.of .specification "Resource identifier must have a non-empty 'id'."
            (some "/data/relationships/by~1to/data/1/id") none)) := by
  have hheaders : Negotiation.checkGiven (.ok .default)
      [(.text "content-type", .text "Application/vnd.api+json")] = .ok () := rfl
  have hr : Resource.Scalar ⟨"article", "1", none,
      some (.ofPairs [("by/to", ⟨.toMany [⟨"comment", "5"⟩, ⟨"comment", []⟩]⟩)])⟩ := by
    refine ⟨rfl, rfl, ?_⟩
    rintro rs ⟨⟩
    exact List.forall_mem_singleton.2
      ⟨by decide, List.forall_mem_cons.2 ⟨⟨rfl, rfl⟩, List.forall_mem_singleton.2 ⟨rfl, rfl⟩⟩⟩
  obtain ⟨bs, hrender, herrors, -⟩ := readSingle_agrees_with_validate hheaders "PATCH" hr
  exact ⟨hheaders, _, hr, bs, hrender, ((herrors _).1 ⟨_, rfl, rfl⟩).2⟩

end Document

/-! ### Resources that can be sent -/

/-- The wire form of attributes that are a null. -/
def Attributes.nullBytes : Bytes := Utf8.encodeScalars "null"

theorem Attributes.toBytes_null : Json.toBytes .compact .null = .ok nullBytes :=
  Json.toBytes_eq_ok_iff.2 ⟨Json.encodable_null.1, rfl, rfl⟩

theorem Attributes.Canonical.value_eq_null_iff {a : Attributes} (h : a.Canonical) :
    a.value = .null ↔ a.bytes = nullBytes := by
  constructor
  · intro hvalue
    have hbytes := canonical_iff.1 h
    rw [hvalue, toBytes_null] at hbytes
    exact (Except.ok.inj hbytes).symm
  · intro hbytes
    have hread := Json.ofBytes_toBytes Json.Layout.standard_compact toBytes_null
    rw [← hbytes, a.spelled] at hread
    exact Except.ok.inj hread

namespace Resource

/-- The resource that a reader of the resource receives: attributes that are a null are none. -/
def received (r : Resource) : Resource :=
  { r with attributes := r.attributes.filter fun a => a.bytes ≠ Attributes.nullBytes }

/-- A resource that may be sent with a method: its texts have a UTF-8 form, its attributes are in
normal form, and the validator passes it. -/
structure Sendable (method : Text) (r : Resource) : Prop where
  scalar : r.Scalar
  canonical : ∀ a ∈ r.attributes, a.Canonical
  valid : r.validate method = .ok ()

theorem spelledBy_received {r : Resource} (h : ∀ a ∈ r.attributes, a.Canonical) :
    Attributes.SpelledBy r.received.attributes (r.attributes.map (·.value)) := by
  rw [received]
  cases ha : r.attributes with
  | none => exact .absent
  | some a =>
    have hnull := (h a ha).value_eq_null_iff
    by_cases hbytes : a.bytes = Attributes.nullBytes
    · have hdropped : (some a).filter (fun a => a.bytes ≠ Attributes.nullBytes) = none := by
        simp [hbytes]
      rw [hdropped, Option.map_some, hnull.2 hbytes]
      exact .null
    · have hkept : (some a).filter (fun a => a.bytes ≠ Attributes.nullBytes) = some a := by
        simp [Option.filter, hbytes]
      rw [hkept, Option.map_some]
      exact .value (fun hvalue => hbytes (hnull.1 hvalue)) (Attributes.canonical_iff.1 (h a ha))

/-- A resource that the validator passes is read back from its wire form. -/
theorem ofPrimary_toJson {method : Text} {r : Resource}
    (hcanonical : ∀ a ∈ r.attributes, a.Canonical) (hvalid : r.validate method = .ok ()) :
    ofPrimary method r.toJson = .ok r.received := by
  obtain ⟨as, has, hread⟩ := exists_ofPrimary_toJson hvalid
  rw [hread, eq_of_spelledBy has (spelledBy_received hcanonical)]
  rfl

theorem listOfPrimary_toJson {method : Text} {rs : List Resource}
    (h : ∀ r ∈ rs, r.Sendable method) :
    listOfPrimary method (.array (rs.map toJson)) = .ok (rs.map received) := by
  rw [listOfPrimary, Except.mapM_eq_ok_iff, List.forall₂_map_left_iff, List.forall₂_map_right_iff,
    List.forall₂_same]
  exact fun r hr => ofPrimary_toJson (h r hr).canonical (h r hr).valid

end Resource

namespace Document

variable {settings : Except ValidationError Settings} {headers : GivenHeaders}
  {links info : Option Json} {indent : Option Int}

/-- **Reading undoes rendering.**  With sections that render and headers that are accepted, at any
indent, a resource that can be sent is read back from its document, and resources that can be sent
from the document of their list, in order; the only difference is that attributes that are a null
are gone.  The attributes of a payload are always in normal form. -/
theorem read_render (hheaders : Negotiation.checkGiven settings headers = .ok ())
    (hsections : Renders links info indent) (method : Text) :
    (∀ r : Resource, r.Sendable method → ∃ document bs,
      build r.toJson links info = .ok document ∧ render indent document = .ok bs ∧
      (readSingle method settings headers (.bytes bs)).result = .ok r.received) ∧
    (∀ rs : List Resource, (∀ r ∈ rs, r.Sendable method) → ∃ document bs,
      build (.array (rs.map Resource.toJson)) links info = .ok document ∧
      render indent document = .ok bs ∧
      (readMany method settings headers (.bytes bs)).result = .ok (rs.map Resource.received)) ∧
    ∀ p a, Attributes.ofPayload p = .ok a → a.Canonical := by
  refine ⟨fun r hr => ?_, fun rs hrs => ?_, fun p a => Attributes.canonical_of_ofPayload⟩
  · obtain ⟨document, bs, ms, hbuild, hrender, hbs, hdata⟩ :=
      exists_render hsections (Resource.encodable_toJson hr.scalar) r.settled_toJson
    refine ⟨document, bs, hbuild, hrender, ?_⟩
    rw [result_readSingle hheaders method hbs hdata,
      Resource.ofPrimary_toJson hr.canonical hr.valid]
    rfl
  · have hsettled : (Json.array (rs.map Resource.toJson)).Settled := .array fun v hv => by
      obtain ⟨r, -, rfl⟩ := List.mem_map.1 hv
      exact r.settled_toJson
    have hencodable : (Json.array (rs.map Resource.toJson)).Encodable :=
      Json.encodable_array.2 fun v hv => by
        obtain ⟨r, hr, rfl⟩ := List.mem_map.1 hv
        exact Resource.encodable_toJson (hrs r hr).scalar
    obtain ⟨document, bs, ms, hbuild, hrender, hbs, hdata⟩ :=
      exists_render hsections hencodable hsettled
    refine ⟨document, bs, hbuild, hrender, ?_⟩
    rw [result_readMany hheaders method hbs hdata, Resource.listOfPrimary_toJson hrs]
    rfl

/-- An article is read back from a document with links that stands on one line. -/
theorem read_render_article :
    Negotiation.checkGiven (.ok .default)
        [(.text "Content-Type", .text "application/vnd.api+json")] = .ok () ∧
      ∃ a, Attributes.ofPayload (.text "[\"\\u03c0\", 3.14, null]") = .ok a ∧
        ∃ r : Resource, r = ⟨"article", "1", some a, some (.ofPairs [("author", ⟨.toOne none⟩)])⟩ ∧
        ∃ document bs,
          build r.toJson (some (.object [("self", .string "/articles/1")])) none = .ok document ∧
          render none document = .ok bs ∧
          (readSingle "PATCH" (.ok .default)
            [(.text "Content-Type", .text "application/vnd.api+json")] (.bytes bs)).result =
            .ok r.received := by
  have hheaders : Negotiation.checkGiven (.ok .default)
      [(.text "Content-Type", .text "application/vnd.api+json")] = .ok () := rfl
  have hsections : Renders (some (.object [("self", .string "/articles/1")])) none none := by
    refine ⟨.object [("data", .null), ("links", .object [("self", .string "/articles/1")])], ?_⟩
    obtain ⟨bs, hbs⟩ := Except.exists_of_isOk (x := render none (.object
      [("data", .null), ("links", .object [("self", .string "/articles/1")])])) (by decide +kernel)
    exact ⟨bs, rfl, hbs⟩
  refine ⟨hheaders, Except.exists_ok_and (by decide +kernel) fun a ha => ⟨_, rfl, ?_⟩⟩
  refine (read_render hheaders hsections "PATCH").1 _ ⟨⟨rfl, rfl, ?_⟩, ?_, rfl⟩
  · rintro rs ⟨⟩
    exact List.forall_mem_singleton.2 ⟨by decide, List.forall_mem_nil _⟩
  · rintro b ⟨⟩
    exact Attributes.canonical_of_ofPayload ha

end Document

end JsonApi
