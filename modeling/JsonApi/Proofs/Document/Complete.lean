import JsonApi.Proofs.Document.Wire

/-!
# Complete resources

The validator of outgoing resources walks over all relationships and their identifiers.  What it
passes is said here without its order: a resource is passed exactly if it is complete for the method
(`Resource.validate_eq_ok_iff`).
-/

namespace JsonApi

/-- An identifier with a type and an id. -/
def Identifier.Complete (i : Identifier) : Prop := i.type ≠ [] ∧ i.id ≠ []

/-- A resource that has all that a method asks for: a type, an id unless it is created, and types
and ids in all identifiers of its relationships. -/
structure Resource.Complete (method : Text) (r : Resource) : Prop where
  type_ne : r.type ≠ []
  id_ne : r.id ≠ [] ∨ method = "POST"
  identifiers : ∀ rs ∈ r.relationships, ∀ e ∈ rs.entries, ∀ i ∈ e.2.data.identifiers, i.Complete

theorem Identifier.validate_eq_ok_iff {place : Pointer} {i : Identifier} :
    i.validate place = .ok () ↔ i.Complete := by
  have hvalidate : i.validate place = .ok () ↔
      ∃ j : Identifier, j.SpelledByMembers [("type", .string i.type), ("id", .string i.id)] := by
    rw [Identifier.validate, Except.bind_eq_ok_iff]
    simp only [Violation.checkIdentifier_eq_ok_iff]
    exact exists_congr fun _ => and_iff_left rfl
  rw [hvalidate]
  constructor
  · rintro ⟨j, htype, htype_ne, hid, hid_ne⟩
    have hsame : i.type = j.type := Json.string.inj (Option.some.inj htype)
    have hsame' : i.id = j.id := Json.string.inj (Option.some.inj hid)
    exact ⟨hsame ▸ htype_ne, hsame' ▸ hid_ne⟩
  · exact fun ⟨htype, hid⟩ => ⟨i, rfl, htype, rfl, hid⟩

theorem Linkage.length_places (place : Pointer) (l : Linkage) :
    (l.places place).length = l.identifiers.length := by
  cases l with
  | toOne i => cases i <;> rfl
  | toMany is => simp [Linkage.places, Linkage.identifiers]

theorem Linkage.validateItems_eq_ok_iff (place : Pointer) (l : Linkage) :
    validateItems (l.identifiers.zip (l.places place)) = .ok () ↔
      ∀ i ∈ l.identifiers, i.Complete := by
  have hzip : (l.identifiers.zip (l.places place)).map Prod.fst = l.identifiers :=
    List.map_fst_zip (Nat.le_of_eq (length_places _ _).symm)
  have hmem : (∀ i ∈ l.identifiers, i.Complete) ↔
      ∀ p ∈ l.identifiers.zip (l.places place), p.1.Complete := by
    conv_lhs => rw [← hzip]
    exact List.forall_mem_map
  rw [hmem]
  refine Except.forM_eq_ok_iff.trans ?_
  exact forall₂_congr fun p _ => Identifier.validate_eq_ok_iff

namespace Resource

variable {name method : Text} {r : Resource}

theorem checkRelationship_eq_ok_iff {x : Relationship} :
    checkRelationship name x = .ok () ↔ ∀ i ∈ x.data.identifiers, i.Complete :=
  Linkage.validateItems_eq_ok_iff _ _

theorem validateEntries_eq_ok_iff {es : List (Text × Relationship)} :
    Relationships.validateEntries es = .ok () ↔
      ∀ e ∈ es, ∀ i ∈ e.2.data.identifiers, i.Complete :=
  Except.forM_eq_ok_iff.trans (forall₂_congr fun _ _ => checkRelationship_eq_ok_iff)

/-- **What the validator passes is complete**, and the other way round. -/
theorem validate_eq_ok_iff : r.validate method = .ok () ↔ r.Complete method.upper := by
  have hentries : (∀ e ∈ r.relationships.elim [] (·.entries), ∀ i ∈ e.2.data.identifiers,
      i.Complete) ↔
        ∀ rs ∈ r.relationships, ∀ e ∈ rs.entries, ∀ i ∈ e.2.data.identifiers, i.Complete := by
    cases r.relationships <;> simp
  rw [validate_eq, Except.bind_eq_ok_iff]
  simp only [validateEntries_eq_ok_iff, hentries]
  constructor
  · rintro ⟨⟨type, id⟩, hidentity, hidentifiers⟩
    obtain ⟨htype, htype_ne, hid, hcreates⟩ := checkIdentity_eq_ok_iff.1 hidentity
    obtain rfl := Json.string.inj htype
    obtain rfl := Json.string.inj hid
    exact ⟨htype_ne, or_iff_not_imp_left.2 fun h => hcreates (not_not.1 h), hidentifiers⟩
  · rintro ⟨htype_ne, hid_ne, hidentifiers⟩
    refine ⟨(r.type, r.id), checkIdentity_eq_ok_iff.2 ⟨rfl, htype_ne, rfl, ?_⟩, hidentifiers⟩
    exact fun h => hid_ne.resolve_left (not_not.2 h)

end Resource

end JsonApi
