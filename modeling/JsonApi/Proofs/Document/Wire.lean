import JsonApi.Proofs.Document.Spelling

/-!
# Reading the wire form of a resource

The validator of outgoing resources walks over linkages, the reader of documents over JSON values.
On the wire form of a resource they agree, from the identifiers outwards: reading gives back what
was written exactly when the validator passes it, and breaks off with the same violation
otherwise (`Resource.ofPrimary_toJson_of_error`, `Resource.exists_ofPrimary_toJson`).
-/

namespace JsonApi

/-! ### Identifiers and linkages -/

/-- Checks an identifier at a place. -/
def Identifier.validate (place : Pointer) (i : Identifier) : Except Violation Unit := do
  let _ ← Violation.checkIdentifier place [("type", .string i.type), ("id", .string i.id)]

theorem Identifier.ofPrimary_toJson (place : Pointer) (i : Identifier) :
    ofPrimary place i.toJson = (i.validate place).map fun _ => i := by
  obtain ⟨type, id⟩ := i
  cases type with
  | nil => rfl
  | cons c t => cases id <;> rfl

namespace Linkage

/-- Checks identifiers, each at its own place. -/
def validateItems (is : List (Identifier × Pointer)) : Except Violation Unit :=
  is.forM fun (i, place) => i.validate place

theorem validateItems_cons (i : Identifier) (place : Pointer) (is : List (Identifier × Pointer)) :
    validateItems ((i, place) :: is) = (i.validate place >>= fun _ => validateItems is) := rfl

theorem itemsOfPrimary_map (place : Pointer) (n : Nat) (is : List Identifier) :
    itemsOfPrimary place n (is.map Identifier.toJson) =
      (validateItems (is.zip ((List.range' n is.length).map fun k => place ++ [Text.ofNat k]))).map
        fun _ => is := by
  -- the reader counts items upwards, the validator zips them with their places
  induction is generalizing n with
  | nil => rfl
  | cons i is ih =>
    rw [List.map_cons, itemsOfPrimary, Identifier.ofPrimary_toJson, ih]
    rw [List.length_cons, List.range'_succ, List.map_cons, List.zip_cons_cons, validateItems_cons]
    cases i.validate (place ++ [Text.ofNat n]) with
    | error v => rfl
    | ok u =>
      simp only [Except.ok_bind, Except.ok_map]
      cases validateItems _ <;> rfl

theorem ofPrimary_toJson (place : Pointer) (l : Linkage) :
    ofPrimary place l.toJson =
      (validateItems (l.identifiers.zip (l.places place))).map fun _ => l := by
  match l with
  | .toOne none => rfl
  | .toOne (some i) =>
    have h : ofPrimary place (Linkage.toOne (some i)).toJson =
        (Identifier.ofPrimary place i.toJson).map fun i => .toOne (some i) := rfl
    have hzip : (toOne (some i)).identifiers.zip ((toOne (some i)).places place) = [(i, place)] :=
      rfl
    rw [h, Identifier.ofPrimary_toJson, hzip, validateItems_cons]
    cases i.validate place <;> rfl
  | .toMany is =>
    rw [toJson, ofPrimary, itemsOfPrimary_map, identifiers, places, List.range_eq_range']
    cases validateItems _ <;> rfl

end Linkage

/-! ### Relationships -/

theorem Relationship.ofPrimary_toJson (name : Text) (x : Relationship) :
    ofPrimary name x.toJson = (Resource.checkRelationship name x).map fun _ => x := by
  have h : ofPrimary name x.toJson =
      (Linkage.ofPrimary (Violation.linkagePlace name) x.data.toJson).map Relationship.mk := rfl
  rw [h, Linkage.ofPrimary_toJson]
  change _ = (Linkage.validateItems _).map _
  cases Linkage.validateItems _ <;> rfl

/-- Checks the identifiers of relationships in order. -/
def Relationships.validateEntries (es : List (Text × Relationship)) : Except Violation Unit :=
  es.forM fun (name, x) => Resource.checkRelationship name x

theorem Relationships.validateEntries_cons (name : Text) (x : Relationship)
    (es : List (Text × Relationship)) :
    validateEntries ((name, x) :: es) =
      (Resource.checkRelationship name x >>= fun _ => validateEntries es) := rfl

theorem Relationships.mapM_ofPrimary (es : List (Text × Relationship)) :
    ((es.map fun (name, x) => (name, x.toJson)).mapM fun (name, v) =>
        (Relationship.ofPrimary name v).map fun r => (name, r)) =
      (validateEntries es).map fun _ => es := by
  induction es with
  | nil => rfl
  | cons e es ih =>
    obtain ⟨name, x⟩ := e
    rw [List.map_cons, List.mapM_cons, ih, validateEntries_cons]
    simp only [Relationship.ofPrimary_toJson]
    cases Resource.checkRelationship name x with
    | error v => rfl
    | ok u =>
      simp only [Except.ok_bind, Except.ok_map]
      cases validateEntries es <;> rfl

theorem Relationships.ofPrimary_toJson (rs : Relationships) :
    ofPrimary rs.toJson = (validateEntries rs.entries).map fun _ => rs := by
  rw [toJson, ofPrimary, mapM_ofPrimary]
  have hrs : ofPairs rs.entries = rs := by
    obtain ⟨es, h⟩ := rs
    simp only [ofPairs, Members.ofPairs_of_nodup h]
  cases validateEntries rs.entries with
  | error v => rfl
  | ok u => simp only [Except.ok_map, hrs]

/-! ### Resources -/

namespace Resource

variable {r : Resource} {method : Text}

theorem get_type_members (r : Resource) :
    Members.get? "type" r.members = some (.string r.type) := rfl

theorem get_id_members (r : Resource) :
    Members.get? "id" r.members = if r.id = [] then none else some (.string r.id) := by
  obtain ⟨type, id, attributes, relationships⟩ := r
  cases id <;> cases attributes <;> cases relationships <;> rfl

theorem get_attributes_members (r : Resource) :
    Members.get? "attributes" r.members = r.attributes.map (·.value) := by
  obtain ⟨type, id, attributes, relationships⟩ := r
  cases id <;> cases attributes <;> cases relationships <;> rfl

theorem get_relationships_members (r : Resource) :
    Members.get? "relationships" r.members = r.relationships.map (·.toJson) := by
  obtain ⟨type, id, attributes, relationships⟩ := r
  cases id <;> cases attributes <;> cases relationships <;> rfl

theorem idOfPrimary_members (r : Resource) :
    idOfPrimary (Members.get? "id" r.members) = .string r.id := by
  rw [get_id_members]
  split
  · rename_i h
    rw [h]
    rfl
  · rfl

theorem mapM_ofPrimary_members (r : Resource) :
    (Members.get? "relationships" r.members).mapM Relationships.ofPrimary =
      (Relationships.validateEntries (r.relationships.elim [] (·.entries))).map
        fun _ => r.relationships := by
  rw [get_relationships_members]
  cases r.relationships with
  | none => rfl
  | some rs =>
    have hsome : ((some rs).map (·.toJson)).mapM Relationships.ofPrimary =
        (Relationships.ofPrimary rs.toJson).map some := rfl
    rw [hsome, Relationships.ofPrimary_toJson]
    change Except.map _ (Except.map _ (Relationships.validateEntries rs.entries)) =
      Except.map _ (Relationships.validateEntries rs.entries)
    cases Relationships.validateEntries rs.entries <;> rfl

/-- The attributes of a resource spell attributes again. -/
theorem exists_spelledBy_attributes (r : Resource) :
    ∃ as, Attributes.SpelledBy as (Members.get? "attributes" r.members) := by
  rw [get_attributes_members]
  cases r.attributes with
  | none => exact ⟨none, .absent⟩
  | some a => exact Attributes.exists_spelledBy a.settled_value a.encodable_value

theorem settled_attributes (r : Resource) :
    ∀ w ∈ Members.get? "attributes" r.members, w.Settled := by
  intro w hw
  rw [get_attributes_members] at hw
  obtain ⟨a, -, rfl⟩ := Option.map_eq_some_iff.1 hw
  exact a.settled_value

theorem validate_eq (method : Text) (r : Resource) :
    r.validate method =
      (Violation.checkIdentity method (.string r.type) (.string r.id) >>= fun _ =>
        Relationships.validateEntries (r.relationships.elim [] (·.entries))) := rfl

/-- **The reader stops where the validator does**, for the same reason and at the same place. -/
theorem ofPrimary_toJson_of_error {v : Violation} (h : r.validate method = .error v) :
    ofPrimary method r.toJson = .error (.violation v) := by
  obtain ⟨as, has⟩ := exists_spelledBy_attributes r
  have hbs := attributesOfPrimary_of_spelledBy has
  rw [validate_eq] at h
  rw [toJson, ofPrimary, ofPrimaryMembers, idOfPrimary_members, get_type_members,
    mapM_ofPrimary_members, hbs]
  simp only [Option.getD_some]
  -- the attributes are read in between, but they do not fail
  cases hidentity : Violation.checkIdentity method (.string r.type) (.string r.id) with
  | error v' =>
    rw [hidentity] at h
    obtain rfl := Except.error.inj h
    rfl
  | ok p =>
    rw [hidentity] at h
    change Relationships.validateEntries _ = _ at h
    rw [h]
    rfl

/-- **The reader gives back what the validator passes**, with the attributes that the attributes of
the resource spell. -/
theorem exists_ofPrimary_toJson (h : r.validate method = .ok ()) :
    ∃ as, Attributes.SpelledBy as (r.attributes.map (·.value)) ∧
      ofPrimary method r.toJson = .ok { r with attributes := as } := by
  obtain ⟨as, has⟩ := exists_spelledBy_attributes r
  have hbs := attributesOfPrimary_of_spelledBy has
  obtain ⟨as', has', hspelled⟩ := exists_attributes (settled_attributes r) hbs
  obtain rfl := eq_of_spelledBy has hspelled
  rw [validate_eq] at h
  obtain ⟨⟨type, id⟩, hidentity, hentries⟩ := Except.bind_eq_ok_iff.1 h
  obtain ⟨htype, -, hid, -⟩ := checkIdentity_eq_ok_iff.1 hidentity
  refine ⟨as, get_attributes_members r ▸ has, ?_⟩
  rw [toJson, ofPrimary, ofPrimaryMembers, idOfPrimary_members, get_type_members,
    mapM_ofPrimary_members, hbs]
  simp only [Option.getD_some, hidentity, hentries, Except.ok_mapError, Except.ok_map,
    Except.ok_bind, ofParts_eq_ok has']
  rw [Json.string.injEq] at htype hid
  rw [htype, hid]

end Resource

end JsonApi
