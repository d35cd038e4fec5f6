import JsonApi.Proofs.Document.Reading
import JsonApi.Proofs.Document.Spelling

/-!
# The grammar of documents

What a document has to be to hold a resource, member by member.

* `Resource.exists_spelledBy_iff` : an object spells a resource when it is grammatical;
* `Document.readSingle_accepts_grammar` : reading accepts the bytes of grammatical documents and no
  others, and gives what they spell.
-/

namespace JsonApi

namespace Json

/-- A value without infinite numbers and halves of surrogate pairs anywhere in it. -/
structure Portable (v : Json) : Prop where
  finite : ∀ negative, Leaf.float (.infinite negative) ∉ v.leaves
  scalar : ∀ t, Leaf.text t ∈ v.leaves → t.isScalar = true

/-- An identifier object: its type and id are texts that are not empty. -/
def IsIdentifier (v : Json) : Prop :=
  ∃ ms, v = .object ms ∧
    (∃ type, Members.get? "type" ms = some (.string type) ∧ type ≠ []) ∧
    ∃ id, Members.get? "id" ms = some (.string id) ∧ id ≠ []

/-- Null, an identifier object, or an array of identifier objects. -/
def IsLinkage (v : Json) : Prop :=
  v = .null ∨ v.IsIdentifier ∨ ∃ vs, v = .array vs ∧ ∀ w ∈ vs, w.IsIdentifier

/-- An object with a linkage for its data. -/
def IsRelationship (v : Json) : Prop :=
  ∃ ms data, v = .object ms ∧ Members.get? "data" ms = some data ∧ data.IsLinkage

/-- An object all of whose members are relationships. -/
def IsRelationships (v : Json) : Prop := ∃ ms, v = .object ms ∧ ∀ m ∈ ms, m.2.IsRelationship

/-- The members of a resource object, in a document that belongs to a method. -/
structure IsResource (method : Text) (ms : Members) : Prop where
  type : ∃ type, Members.get? "type" ms = some (.string type) ∧ type ≠ []
  id : Members.get? "id" ms = none ∨ Members.get? "id" ms = some .null ∨
    ∃ id, Members.get? "id" ms = some (.string id)
  id_ne : method.upper ≠ "POST" → ∃ id, Members.get? "id" ms = some (.string id) ∧ id ≠ []
  attributes : ∀ v, Members.get? "attributes" ms = some v → v = .null ∨ v.Portable
  relationships : ∀ v, Members.get? "relationships" ms = some v → v.IsRelationships

/-- A document whose primary data is a resource object. -/
def IsDocument (method : Text) (v : Json) : Prop :=
  ∃ ms data, v = .object ms ∧ Members.get? "data" ms = some (.object data) ∧
    IsResource method data

/-! ### What can be written again -/

/-- Of all that can be read only infinite numbers cannot be written. -/
theorem writable_or_infinite {v : Json} (hv : v.Settled) :
    ∀ x ∈ v.leaves, x.unwritable? = none ∨ ∃ negative, x = .float (.infinite negative) := by
  induction hv with
  | null | bool => exact List.forall_mem_nil _
  | string t => exact List.forall_mem_singleton.2 (.inl rfl)
  | int h => exact List.forall_mem_singleton.2 (.inl (Leaf.unwritable_int.2 h))
  | @float x h =>
    refine List.forall_mem_singleton.2 ?_
    cases x with
    | nan => exact absurd rfl h
    | infinite negative => exact .inr ⟨negative, rfl⟩
    | finite negative units hu => exact .inl rfl
  | array h ih =>
    intro x hx
    obtain ⟨v, hv, hx⟩ := mem_leavesOfItems.1 hx
    exact ih v hv x hx
  | object hnames h ih =>
    intro x hx
    obtain ⟨m, hm, rfl | hx⟩ := mem_leavesOfMembers.1 hx
    · exact .inl rfl
    · exact ih m hm x hx

theorem encodable_iff_portable {v : Json} (hv : v.Settled) : v.Encodable ↔ v.Portable := by
  constructor
  · rintro ⟨hwritable, hscalar⟩
    refine ⟨fun negative hx => ?_, fun t ht => hscalar _ ht⟩
    cases hwritable _ hx
  · rintro ⟨hfinite, hscalar⟩
    refine ⟨fun x hx => ?_, fun x hx => ?_⟩
    · rcases writable_or_infinite hv x hx with h | ⟨negative, rfl⟩
      · exact h
      · exact absurd hx (hfinite negative)
    · cases x with
      | text t => exact hscalar t hx
      | int n => rfl
      | float x => rfl

end Json

/-! ### Grammatical values spell something -/

theorem Identifier.exists_spelledBy_iff {v : Json} :
    (∃ i : Identifier, i.SpelledBy v) ↔ v.IsIdentifier := by
  constructor
  · rintro ⟨i, ms, rfl, h⟩
    exact ⟨ms, rfl, ⟨i.type, h.type, h.type_ne⟩, i.id, h.id, h.id_ne⟩
  · rintro ⟨ms, rfl, ⟨type, htype, htype_ne⟩, id, hid, hid_ne⟩
    exact ⟨⟨type, id⟩, ms, rfl, htype, htype_ne, hid, hid_ne⟩

theorem Linkage.exists_spelledBy_iff {v : Json} :
    (∃ l : Linkage, l.SpelledBy v) ↔ v.IsLinkage := by
  constructor
  · rintro ⟨l, _ | h | h⟩
    · exact .inl rfl
    · exact .inr (.inl (Identifier.exists_spelledBy_iff.1 ⟨_, h⟩))
    · refine .inr (.inr ⟨_, rfl, fun w hw => Identifier.exists_spelledBy_iff.1 ?_⟩)
      exact List.exists_forall₂_iff.1 ⟨_, h⟩ w hw
  · rintro (rfl | h | ⟨vs, rfl, h⟩)
    · exact ⟨_, .null⟩
    · obtain ⟨i, hi⟩ := Identifier.exists_spelledBy_iff.2 h
      exact ⟨_, .one hi⟩
    · obtain ⟨is, his⟩ := List.exists_forall₂_iff.2 fun w hw =>
        Identifier.exists_spelledBy_iff.2 (h w hw)
      exact ⟨_, .many his⟩

theorem Relationship.exists_spelledBy_iff {v : Json} :
    (∃ x : Relationship, x.SpelledBy v) ↔ v.IsRelationship := by
  constructor
  · rintro ⟨x, ms, data, rfl, hdata, hx⟩
    exact ⟨ms, data, rfl, hdata, Linkage.exists_spelledBy_iff.1 ⟨_, hx⟩⟩
  · rintro ⟨ms, data, rfl, hdata, h⟩
    obtain ⟨l, hl⟩ := Linkage.exists_spelledBy_iff.2 h
    exact ⟨⟨l⟩, ms, data, rfl, hdata, hl⟩

theorem Relationships.exists_spelledBy_iff {v : Json} (hv : v.Settled) :
    (∃ rs : Relationships, rs.SpelledBy v) ↔ v.IsRelationships := by
  -- distinct names are what makes relationships of entries, and what was read has distinct names
  constructor
  · rintro ⟨rs, ms, rfl, h⟩
    refine ⟨ms, rfl, fun m hm => Relationship.exists_spelledBy_iff.1 ?_⟩
    obtain ⟨e, -, hx⟩ := List.exists_forall₂_iff.1 ⟨_, h⟩ m hm
    exact ⟨e.2, hx⟩
  · rintro ⟨ms, rfl, h⟩
    cases hv with
    | object hnames =>
      obtain ⟨es, hes⟩ : ∃ es, List.Forall₂
          (fun (e : Text × Relationship) m => e.1 = m.1 ∧ e.2.SpelledBy m.2) es ms := by
        refine List.exists_forall₂_iff.2 fun m hm => ?_
        obtain ⟨x, hx⟩ := Relationship.exists_spelledBy_iff.2 (h m hm)
        exact ⟨(m.1, x), rfl, hx⟩
      exact ⟨⟨es, names_of_forall₂ hes ▸ hnames⟩, ms, rfl, hes⟩

theorem Attributes.exists_spelledBy_iff {v : Option Json} (hv : ∀ w ∈ v, w.Settled) :
    (∃ as, Attributes.SpelledBy as v) ↔ ∀ w, v = some w → w = .null ∨ w.Portable := by
  constructor
  · rintro ⟨as, _ | _ | ⟨-, h⟩⟩ w hw
    · cases hw
    · exact .inl (Option.some.inj hw).symm
    · obtain rfl := Option.some.inj hw
      have hencodable := (Json.exists_toBytes_iff Json.Layout.standard_compact).1 ⟨_, h⟩
      exact .inr ((Json.encodable_iff_portable (hv _ rfl)).1 hencodable)
  · intro h
    match v with
    | none => exact ⟨none, .absent⟩
    | some w =>
      rcases h w rfl with rfl | hw
      · exact ⟨none, .null⟩
      · exact exists_spelledBy (hv w rfl) ((Json.encodable_iff_portable (hv w rfl)).2 hw)

namespace Resource

variable {method : Text} {ms : Members}

theorem exists_id_iff {v : Option Json} :
    (∃ id, (v.getD .null = .null ∧ id = [] ∨ v = some (.string id)) ∧
        (id = [] → method.upper = "POST")) ↔
      (v = none ∨ v = some .null ∨ ∃ id, v = some (.string id)) ∧
        (method.upper ≠ "POST" → ∃ id, v = some (.string id) ∧ id ≠ []) := by
  constructor
  · rintro ⟨id, hid, hid_ne⟩
    refine ⟨?_, fun hmethod => ?_⟩
    · rcases hid with ⟨hnull, -⟩ | hid
      · cases v with
        | none => exact .inl rfl
        | some w => exact .inr (.inl (congrArg some hnull))
      · exact .inr (.inr ⟨id, hid⟩)
    · have hne : id ≠ [] := fun h => hmethod (hid_ne h)
      exact ⟨id, hid.resolve_left fun h => hne h.2, hne⟩
  · rintro ⟨hid, hid_ne⟩
    by_cases hmethod : method.upper = "POST"
    · rcases hid with rfl | rfl | ⟨id, rfl⟩
      · exact ⟨[], .inl ⟨rfl, rfl⟩, fun _ => hmethod⟩
      · exact ⟨[], .inl ⟨rfl, rfl⟩, fun _ => hmethod⟩
      · exact ⟨id, .inr rfl, fun _ => hmethod⟩
    · obtain ⟨id, hid, hne⟩ := hid_ne hmethod
      exact ⟨id, .inr hid, fun h => absurd h hne⟩

theorem exists_relationships_iff {v : Option Json} (hv : ∀ w ∈ v, w.Settled) :
    (∃ rs, Option.Rel Relationships.SpelledBy rs v) ↔ ∀ w, v = some w → w.IsRelationships := by
  constructor
  · rintro ⟨rs, h⟩ w rfl
    cases h with
    | some h => exact (Relationships.exists_spelledBy_iff (hv w rfl)).1 ⟨_, h⟩
  · intro h
    cases v with
    | none => exact ⟨none, .none⟩
    | some w =>
      obtain ⟨rs, hrs⟩ := (Relationships.exists_spelledBy_iff (hv w rfl)).2 (h w rfl)
      exact ⟨some rs, .some hrs⟩

/-- **An object spells a resource** when it is a resource object. -/
theorem exists_spelledBy_iff (hms : ∀ m ∈ ms, m.2.Settled) :
    (∃ r : Resource, r.SpelledBy method ms) ↔ Json.IsResource method ms := by
  constructor
  · rintro ⟨r, h⟩
    obtain ⟨hid, hid_ne⟩ := exists_id_iff.1 ⟨r.id, h.id, h.id_ne⟩
    exact ⟨⟨r.type, h.type, h.type_ne⟩, hid, hid_ne,
      (Attributes.exists_spelledBy_iff (settled_of_get hms)).1 ⟨_, h.attributes⟩,
      (exists_relationships_iff (settled_of_get hms)).1 ⟨_, h.relationships⟩⟩
  · rintro ⟨⟨type, htype, htype_ne⟩, hid, hid_ne, has, hrs⟩
    obtain ⟨id, hid, hid_ne⟩ := exists_id_iff.2 ⟨hid, hid_ne⟩
    obtain ⟨as, has⟩ := (Attributes.exists_spelledBy_iff (settled_of_get hms)).2 has
    obtain ⟨rs, hrs⟩ := (exists_relationships_iff (settled_of_get hms)).2 hrs
    exact ⟨⟨type, id, as, rs⟩, htype, htype_ne, hid, hid_ne, has, hrs⟩

end Resource

/-! ### Documents -/

namespace Document

variable {method : Text} {bs : Bytes}

/-- The document's primary data spell the resource. -/
def Spells (method : Text) (document : Json) (r : Resource) : Prop :=
  ∃ ms data, document = .object ms ∧ Members.get? "data" ms = some (.object data) ∧
    r.SpelledBy method data

theorem settled_data {document data : Json} {ms : Members} (h : document.Settled)
    (hms : document = .object ms) (hdata : Members.get? "data" ms = some data) : data.Settled := by
  subst hms
  cases h with
  | object _ h => exact h _ (Members.mem_of_get? hdata)

theorem settled_members {ms : Members} (h : (Json.object ms).Settled) :
    ∀ m ∈ ms, m.2.Settled := by
  cases h with
  | object _ h => exact h

theorem exists_spells_iff {document : Json} (h : document.Settled) :
    (∃ r, Spells method document r) ↔ document.IsDocument method := by
  constructor
  · rintro ⟨r, ms, data, hms, hdata, hr⟩
    have hsettled := settled_members (settled_data h hms hdata)
    exact ⟨ms, data, hms, hdata, (Resource.exists_spelledBy_iff hsettled).1 ⟨r, hr⟩⟩
  · rintro ⟨ms, data, hms, hdata, hresource⟩
    have hsettled := settled_members (settled_data h hms hdata)
    obtain ⟨r, hr⟩ := (Resource.exists_spelledBy_iff hsettled).2 hresource
    exact ⟨r, ms, data, hms, hdata, hr⟩

theorem ofBytes_single_iff {r : Resource} :
    ofBytes (Resource.ofPrimary method) bs = .ok r ↔
      ∃ document, Json.ofBytes bs = .ok document ∧ Spells method document r := by
  rw [ofBytes_eq_ok_iff]
  constructor
  · rintro ⟨ms, data, hbs, hdata, hr⟩
    have hsettled := settled_data (Json.settled_of_ofBytes hbs) rfl hdata
    match data with
    | .object data =>
      have hr := (Resource.ofPrimaryMembers_eq_ok_iff (settled_members hsettled)).1 hr
      exact ⟨_, hbs, ms, data, rfl, hdata, hr⟩
    | .null | .bool _ | .int _ | .float _ | .string _ | .array _ => cases hr
  · rintro ⟨document, hbs, ms, data, rfl, hdata, hr⟩
    have hsettled := settled_data (Json.settled_of_ofBytes hbs) rfl hdata
    exact ⟨ms, .object data, hbs, hdata,
      (Resource.ofPrimaryMembers_eq_ok_iff (settled_members hsettled)).2 hr⟩

/-- **The reader accepts exactly its grammar.**  Under accepted headers some resource is read from
bytes when they hold a document whose primary data is a resource object, and then it is the
resource that the document spells. -/
theorem readSingle_accepts_grammar {settings : Except ValidationError Settings}
    {headers : GivenHeaders} (hheaders : Negotiation.checkGiven settings headers = .ok ())
    (method : Text) (bs : Bytes) :
    ((∃ r, (readSingle method settings headers (.bytes bs)).result = .ok r) ↔
      ∃ document, Json.ofBytes bs = .ok document ∧ document.IsDocument method) ∧
    ∀ r, (readSingle method settings headers (.bytes bs)).result = .ok r ↔
      ∃ document, Json.ofBytes bs = .ok document ∧ Spells method document r := by
  rw [readSingle, result_read_bytes singleEntry hheaders]
  refine ⟨?_, fun r => ofBytes_single_iff⟩
  constructor
  · rintro ⟨r, hr⟩
    obtain ⟨document, hbs, hspells⟩ := ofBytes_single_iff.1 hr
    exact ⟨document, hbs, (exists_spells_iff (Json.settled_of_ofBytes hbs)).1 ⟨r, hspells⟩⟩
  · rintro ⟨document, hbs, hdocument⟩
    obtain ⟨r, hspells⟩ := (exists_spells_iff (Json.settled_of_ofBytes hbs)).2 hdocument
    exact ⟨r, ofBytes_single_iff.2 ⟨document, hbs, hspells⟩⟩

/-- A user that has no id yet is read in a document that creates it. -/
theorem readSingle_accepts_user :
    Negotiation.checkGiven (.ok .default)
        [(.text "Content-Type", .text "application/vnd.api+json; charset=utf-8")] = .ok () ∧
      ∃ bs, Json.toBytes .oneLine (.object [("data", .object [("type", .string "user"),
          ("id", .null), ("relationships", .object [("friends", .object [("data", .array [])])])])])
          = .ok bs ∧
        ∃ r, (readSingle "post" (.ok .default)
          [(.text "Content-Type", .text "application/vnd.api+json; charset=utf-8")]
          (.bytes bs)).result = .ok r := by
  have hheaders : Negotiation.checkGiven (.ok .default)
      [(.text "Content-Type", .text "application/vnd.api+json; charset=utf-8")] = .ok () := rfl
  refine ⟨hheaders, Except.exists_ok_and (by decide +kernel) fun bs hbs => ?_⟩
  refine (readSingle_accepts_grammar hheaders "post" bs).1.2
    ⟨_, Json.ofBytes_toBytes Json.Layout.standard_oneLine hbs, _, _, rfl, rfl, ?_⟩
  refine ⟨⟨_, rfl, by decide⟩, .inr (.inl rfl), fun h => absurd (by decide) h, nofun, ?_⟩
  intro v hv
  obtain rfl := Option.some.inj hv
  exact ⟨_, rfl, List.forall_mem_singleton.2
    ⟨_, _, rfl, rfl, .inr (.inr ⟨[], rfl, List.forall_mem_nil _⟩)⟩⟩

end Document

end JsonApi
