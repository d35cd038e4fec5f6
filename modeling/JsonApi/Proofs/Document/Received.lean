import JsonApi.Proofs.Document.Exits
import JsonApi.Proofs.Document.RoundTrip

/-!
# Resources that were read

What a document spells is spelled by its own wire form too, part by part, so a resource that was
read is read again from its wire form (`Resource.ofPrimary_toJson_of_spelledBy`).  Halves of
surrogate pairs in a type, an id or a relationship do not keep a resource from being read, but they
keep it from being written.

* `Document.written_again_iff` : a resource that was read has a document exactly when its texts have
  a UTF-8 form, and that document holds the resource.
-/

namespace JsonApi

/-! ### Wire forms spell what was spelled -/

theorem Identifier.SpelledBy.toJson {i : Identifier} {v : Json} (h : i.SpelledBy v) :
    i.SpelledBy i.toJson := by
  obtain ⟨ms, -, hi⟩ := h
  exact ⟨_, rfl, rfl, hi.type_ne, rfl, hi.id_ne⟩

theorem Linkage.SpelledBy.toJson {l : Linkage} {v : Json} (h : l.SpelledBy v) :
    l.SpelledBy l.toJson := by
  cases h with
  | null => exact .null
  | one hi => exact .one hi.toJson
  | many his =>
    refine .many (List.forall₂_map_right_iff.2 (List.forall₂_same.2 fun i hi => ?_))
    obtain ⟨v, hv⟩ := List.exists_forall₂_iff.1 ⟨_, List.Forall₂.flip his⟩ i hi
    exact Identifier.SpelledBy.toJson hv

theorem Relationship.SpelledBy.toJson {x : Relationship} {v : Json} (h : x.SpelledBy v) :
    x.SpelledBy x.toJson := by
  obtain ⟨ms, data, -, -, hx⟩ := h
  exact ⟨_, _, rfl, rfl, hx.toJson⟩

theorem Relationships.SpelledBy.toJson {rs : Relationships} {v : Json} (h : rs.SpelledBy v) :
    rs.SpelledBy rs.toJson := by
  obtain ⟨ms, -, hms⟩ := h
  refine ⟨_, rfl, List.forall₂_map_right_iff.2 (List.forall₂_same.2 fun e he => ⟨rfl, ?_⟩)⟩
  obtain ⟨m, -, hx⟩ := List.exists_forall₂_iff.1 ⟨_, List.Forall₂.flip hms⟩ e he
  exact hx.toJson

/-- The compact bytes of a value that was read spell the value. -/
theorem Attributes.value_of_toBytes {a : Attributes} {v : Json} (hv : v.Settled)
    (h : v.toBytes .compact = .ok a.bytes) : a.value = v := by
  have hread := Json.ofBytes_toBytes Json.Layout.standard_compact h
  rw [a.spelled, Json.merged_of_settled hv] at hread
  exact Except.ok.inj hread

theorem Attributes.spelledBy_value {as : Option Attributes} {v : Option Json}
    (hv : ∀ w ∈ v, w.Settled) (h : Attributes.SpelledBy as v) :
    Attributes.SpelledBy as (as.map (·.value)) := by
  cases h with
  | absent | null => exact .absent
  | value hne h =>
    rw [Option.map_some, value_of_toBytes (hv _ rfl) h]
    exact .value hne h

namespace Resource

variable {method : Text} {r : Resource} {ms : Members}

theorem SpelledBy.members (hms : ∀ m ∈ ms, m.2.Settled) (h : r.SpelledBy method ms) :
    r.SpelledBy method r.members := by
  refine ⟨r.get_type_members, h.type_ne, ?_, h.id_ne, ?_, ?_⟩
  · rw [← idOfPrimary_eq_iff, idOfPrimary_members]
  · rw [get_attributes_members]
    exact Attributes.spelledBy_value (settled_of_get hms) h.attributes
  · rw [get_relationships_members]
    have hrelationships := h.relationships
    generalize r.relationships = rs, Members.get? "relationships" ms = v at hrelationships
    cases hrelationships with
    | none => exact .none
    | some hrs => exact .some hrs.toJson

/-- **A resource that was read** is read again from its wire form. -/
theorem ofPrimary_toJson_of_spelledBy (hms : ∀ m ∈ ms, m.2.Settled) (h : r.SpelledBy method ms) :
    ofPrimary method r.toJson = .ok r :=
  (ofPrimaryMembers_eq_ok_iff (Document.settled_members r.settled_toJson)).2 (h.members hms)

end Resource

/-! ### Wire forms that have bytes -/

theorem Identifier.encodable_toJson_iff {i : Identifier} : i.toJson.Encodable ↔ i.Scalar := by
  refine ⟨fun h => ?_, encodable_toJson⟩
  have hall := Json.encodable_object.1 h
  exact ⟨Json.encodable_string.1 (hall ("type", .string i.type) (by simp)).2,
    Json.encodable_string.1 (hall ("id", .string i.id) (by simp)).2⟩

theorem Linkage.encodable_toJson_iff {l : Linkage} :
    l.toJson.Encodable ↔ ∀ i ∈ l.identifiers, i.Scalar := by
  refine ⟨fun h => ?_, encodable_toJson⟩
  match l with
  | .toOne none => exact List.forall_mem_nil _
  | .toOne (some i) => exact List.forall_mem_singleton.2 (Identifier.encodable_toJson_iff.1 h)
  | .toMany is =>
    intro i hi
    exact Identifier.encodable_toJson_iff.1 (Json.encodable_array.1 h _ (List.mem_map_of_mem hi))

theorem Relationships.encodable_toJson_iff {rs : Relationships} :
    rs.toJson.Encodable ↔ rs.Scalar := by
  refine ⟨fun h e he => ?_, encodable_toJson⟩
  obtain ⟨hname, hdata⟩ := Json.encodable_object.1 h _ (List.mem_map_of_mem he)
  refine ⟨hname, Linkage.encodable_toJson_iff.1 ?_⟩
  exact (Json.encodable_object.1 hdata _ (List.mem_singleton_self _)).2

namespace Resource

theorem encodable_toJson_iff {r : Resource} : r.toJson.Encodable ↔ r.Scalar := by
  refine ⟨fun h => ?_, encodable_toJson⟩
  have hall : ∀ {name v}, Members.get? name r.members = some v → v.Encodable := fun hv =>
    (Json.encodable_object.1 h _ (Members.mem_of_get? hv)).2
  refine ⟨Json.encodable_string.1 (hall r.get_type_members), ?_, fun rs hrs => ?_⟩
  · by_cases hid : r.id = []
    · rw [hid]
      rfl
    · exact Json.encodable_string.1 (hall (r.get_id_members.trans (if_neg hid)))
  · have hget : Members.get? "relationships" r.members = some rs.toJson := by
      rw [get_relationships_members, hrs]
      rfl
    exact Relationships.encodable_toJson_iff.1 (hall hget)

end Resource

/-! ### Documents -/

namespace Document

variable {method : Text} {settings : Except ValidationError Settings} {headers : GivenHeaders}
  {body : Body} {r : Resource}

theorem spells_of_readSingle (h : (readSingle method settings headers body).result = .ok r) :
    Negotiation.checkGiven settings headers = .ok () ∧
      ∃ ms, (∀ m ∈ ms, m.2.Settled) ∧ r.SpelledBy method ms := by
  rw [readSingle, result_read] at h
  obtain ⟨⟨⟩, hheaders, h⟩ := Except.bind_eq_ok_iff.1 h
  obtain ⟨bs, -, h⟩ := Except.bind_eq_ok_iff.1 h
  obtain ⟨document, hdocument, ms, data, hms, hdata, hr⟩ := ofBytes_single_iff.1 h
  exact ⟨hheaders, data,
    settled_members (settled_data (Json.settled_of_ofBytes hdocument) hms hdata), hr⟩

/-- **What was read can be written again** exactly when the type, the id and the relationships hold
no halves of surrogate pairs, whatever the body and the indent; and from the bytes of its document
the same resource is read, so that they are the ones it is written as once more. -/
theorem written_again_iff (h : (readSingle method settings headers body).result = .ok r)
    (indent : Option Int) :
    ((∃ bs, render indent (single r) = .ok bs) ↔ r.Scalar) ∧
      ∀ bs, render indent (single r) = .ok bs →
        (readSingle method settings headers (.bytes bs)).result = .ok r := by
  obtain ⟨hheaders, ms, hms, hr⟩ := spells_of_readSingle h
  have hencodable : (single r).Encodable ↔ r.Scalar := by
    rw [← Resource.encodable_toJson_iff]
    exact ⟨fun h => (Json.encodable_object.1 h _ (List.mem_singleton_self _)).2,
      fun h => encodable_single (Resource.encodable_toJson_iff.1 h)⟩
  refine ⟨(render_eq_ok_iff indent).trans hencodable, fun bs hbs => ?_⟩
  have hread := Json.ofBytes_toBytes (Json.Layout.standard_ofIndent indent) hbs
  rw [Json.merged_of_settled (settled_single r)] at hread
  rw [result_readSingle hheaders method hread rfl, Resource.ofPrimary_toJson_of_spelledBy hms hr]
  rfl

/-- A person whose type is given twice, behind a byte order mark, is written again. -/
theorem written_again_person :
    ∃ document : Json, document = .object [("data", .object [("type", .string "user"),
        ("id", .null), ("type", .string "person"), ("attributes", .array [.float (.ofInt 100)])])] ∧
      ∃ r bs, (readSingle "post" (.ok .default)
          [(.text "Content-Type", .text "application/vnd.api+json")]
          (.bytes (0xEF :: 0xBB :: 0xBF :: Utf8.encodeScalars (document.write .oneLine)))).result =
            .ok r ∧
        r.Scalar ∧ render none (single r) = .ok bs ∧
        (readSingle "post" (.ok .default)
          [(.text "Content-Type", .text "application/vnd.api+json")] (.bytes bs)).result =
            .ok r := by
  refine ⟨_, rfl, ?_⟩
  obtain ⟨r, hr, hrender⟩ := Except.exists_of_any
    (x := (readSingle "post" (.ok .default)
      [(.text "Content-Type", .text "application/vnd.api+json")]
      (.bytes (0xEF :: 0xBB :: 0xBF :: Utf8.encodeScalars (Json.write .oneLine (.object
        [("data", .object [("type", .string "user"), ("id", .null), ("type", .string "person"),
          ("attributes", .array [.float (.ofInt 100)])])]))))).result)
    (p := fun r => (render none (single r)).isOk) (by decide +kernel)
  obtain ⟨bs, hbs⟩ := Except.exists_of_isOk hrender
  have h := written_again_iff hr none
  exact ⟨r, bs, hr, h.1.1 ⟨bs, hbs⟩, hbs, h.2 bs hbs⟩

/-- A type that is half of a surrogate pair is read, but the resource cannot be written. -/
theorem not_written_again :
    ∃ r, (readSingle "GET" (.ok .default)
        [(.text "Content-Type", .text "application/vnd.api+json")]
        (.bytes (Utf8.encodeScalars (Json.writeAscii .oneLine (.object [("data",
          .object [("type", .string [.surrogate 0]), ("id", .string "1")])]))))).result = .ok r ∧
      ¬ ∃ bs, render defaultIndent (single r) = .ok bs := by
  obtain ⟨r, hr, hrender⟩ := Except.exists_of_any
    (x := (readSingle "GET" (.ok .default)
      [(.text "Content-Type", .text "application/vnd.api+json")]
      (.bytes (Utf8.encodeScalars (Json.writeAscii .oneLine (.object [("data",
        .object [("type", .string [.surrogate 0]), ("id", .string "1")])]))))).result)
    (p := fun r => ! (render defaultIndent (single r)).isOk) (by decide +kernel)
  refine ⟨r, hr, ?_⟩
  rintro ⟨bs, hbs⟩
  rw [hbs] at hrender
  cases hrender

end Document

end JsonApi
