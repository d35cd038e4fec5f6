import JsonApi.Document.Primary
import JsonApi.Proofs.Attributes
import Mathlib.Data.List.Forall2

/-!
# What values spell

Which values spell which identifiers, linkages, relationships and resources, said without an order
of checks.  Reading a value gives what it spells, and fails when it spells nothing: for the parts
of a resource from the identifiers outwards, and then for the resource itself
(`Resource.ofPrimaryMembers_eq_ok_iff`).
-/

namespace JsonApi

/-! ### Identifiers -/

namespace Identifier

/-- The object spells the identifier: its type and id are the texts of the identifier, neither of
them empty. -/
structure SpelledByMembers (i : Identifier) (ms : Members) : Prop where
  type : Members.get? "type" ms = some (.string i.type)
  type_ne : i.type ≠ []
  id : Members.get? "id" ms = some (.string i.id)
  id_ne : i.id ≠ []

/-- The value spells the identifier. -/
def SpelledBy (i : Identifier) (v : Json) : Prop := ∃ ms, v = .object ms ∧ i.SpelledByMembers ms

end Identifier

namespace Violation

variable {place : Pointer} {ms : Members}

theorem checkMember_eq_ok_iff {m : IdentifierMember} {t : Text} :
    checkMember place m ms = .ok t ↔ Members.get? m.name ms = some (.string t) ∧ t ≠ [] := by
  unfold checkMember
  split
  · rename_i h
    simp [h]
    rintro rfl
    exact List.cons_ne_nil _ _
  · rename_i h
    constructor
    · nofun
    · rintro ⟨ht, hne⟩
      obtain ⟨c, r, rfl⟩ := List.exists_cons_of_ne_nil hne
      exact absurd ht (h c r)

theorem checkIdentifier_eq_ok_iff {i : Identifier} :
    checkIdentifier place ms = .ok i ↔ i.SpelledByMembers ms := by
  constructor
  · intro h
    obtain ⟨type, htype, h⟩ := Except.bind_eq_ok_iff.1 h
    obtain ⟨id, hid, h⟩ := Except.bind_eq_ok_iff.1 h
    obtain rfl := Except.ok.inj h
    rw [checkMember_eq_ok_iff] at htype hid
    exact ⟨htype.1, htype.2, hid.1, hid.2⟩
  · rintro ⟨htype, htype_ne, hid, hid_ne⟩
    have ht : checkMember place .type ms = .ok i.type :=
      checkMember_eq_ok_iff.2 ⟨htype, htype_ne⟩
    have hi : checkMember place .id ms = .ok i.id := checkMember_eq_ok_iff.2 ⟨hid, hid_ne⟩
    rw [checkIdentifier, ht, Except.ok_bind, hi]
    rfl

end Violation

theorem Identifier.ofPrimary_eq_ok_iff {place : Pointer} {v : Json} {i : Identifier} :
    ofPrimary place v = .ok i ↔ i.SpelledBy v := by
  unfold ofPrimary
  split
  · rw [Violation.checkIdentifier_eq_ok_iff, SpelledBy]
    simp
  · rename_i h
    constructor
    · nofun
    · rintro ⟨ms, rfl, -⟩
      exact absurd rfl (h ms)

/-! ### Linkages -/

namespace Linkage

/-- The value spells the linkage: null and an object are to-one, an array is to-many. -/
inductive SpelledBy : Linkage → Json → Prop
  | null : SpelledBy (.toOne none) .null
  | one {i : Identifier} {v : Json} (h : i.SpelledBy v) : SpelledBy (.toOne (some i)) v
  | many {is : List Identifier} {vs : List Json} (h : List.Forall₂ Identifier.SpelledBy is vs) :
    SpelledBy (.toMany is) (.array vs)

variable {place : Pointer}

theorem itemsOfPrimary_eq_ok_iff {n : Nat} {vs : List Json} {is : List Identifier} :
    itemsOfPrimary place n vs = .ok is ↔ List.Forall₂ Identifier.SpelledBy is vs := by
  induction vs generalizing n is with
  | nil =>
    rw [itemsOfPrimary, List.forall₂_nil_right_iff]
    exact ⟨fun h => (Except.ok.inj h).symm, fun h => h ▸ rfl⟩
  | cons v vs ih =>
    rw [List.forall₂_cons_right_iff, itemsOfPrimary]
    constructor
    · intro h
      obtain ⟨i, hi, h⟩ := Except.bind_eq_ok_iff.1 h
      obtain ⟨js, hjs, h⟩ := Except.bind_eq_ok_iff.1 h
      exact ⟨i, js, Identifier.ofPrimary_eq_ok_iff.1 hi, ih.1 hjs, (Except.ok.inj h).symm⟩
    · rintro ⟨i, js, hi, hjs, rfl⟩
      rw [Identifier.ofPrimary_eq_ok_iff.2 hi, Except.ok_bind, ih.2 hjs]
      rfl

theorem ofPrimary_eq_ok_iff {v : Json} {l : Linkage} :
    ofPrimary place v = .ok l ↔ l.SpelledBy v := by
  constructor
  · intro h
    unfold ofPrimary at h
    split at h
    · obtain rfl := Except.ok.inj h
      exact .null
    · obtain ⟨i, hi, rfl⟩ := Except.map_eq_ok_iff.1 h
      exact .one ⟨_, rfl, Violation.checkIdentifier_eq_ok_iff.1 hi⟩
    · obtain ⟨is, his, rfl⟩ := Except.map_eq_ok_iff.1 h
      exact .many (itemsOfPrimary_eq_ok_iff.1 his)
    · cases h
  · rintro (_ | ⟨ms, rfl, hi⟩ | his)
    · rfl
    · exact Except.map_eq_ok_iff.2 ⟨_, Violation.checkIdentifier_eq_ok_iff.2 hi, rfl⟩
    · exact Except.map_eq_ok_iff.2 ⟨_, itemsOfPrimary_eq_ok_iff.2 his, rfl⟩

end Linkage

/-! ### Relationships -/

/-- The value spells the relationship: an object whose data spell the linkage. -/
def Relationship.SpelledBy (x : Relationship) (v : Json) : Prop :=
  ∃ ms data, v = .object ms ∧ Members.get? "data" ms = some data ∧ x.data.SpelledBy data

/-- The value spells the relationships: an object whose members spell them one by one, in order and
under the same names. -/
def Relationships.SpelledBy (rs : Relationships) (v : Json) : Prop :=
  ∃ ms, v = .object ms ∧
    List.Forall₂ (fun e m => e.1 = m.1 ∧ e.2.SpelledBy m.2) rs.entries ms

theorem Relationship.ofPrimary_eq_ok_iff {name : Text} {v : Json} {x : Relationship} :
    ofPrimary name v = .ok x ↔ x.SpelledBy v := by
  constructor
  · intro h
    match v with
    | .object ms =>
      simp only [ofPrimary] at h
      split at h
      · rename_i data hdata
        obtain ⟨l, hl, rfl⟩ := Except.map_eq_ok_iff.1 h
        exact ⟨ms, data, rfl, hdata, Linkage.ofPrimary_eq_ok_iff.1 hl⟩
      · cases h
    | .null | .bool _ | .int _ | .float _ | .string _ | .array _ => cases h
  · rintro ⟨ms, data, rfl, hdata, hx⟩
    simp only [ofPrimary, hdata]
    exact Except.map_eq_ok_iff.2 ⟨x.data, Linkage.ofPrimary_eq_ok_iff.2 hx, rfl⟩

theorem Relationships.mapM_ofPrimary_eq_ok_iff {ms : Members} {es : List (Text × Relationship)} :
    (ms.mapM fun (name, v) => (Relationship.ofPrimary name v).map fun r => (name, r)) = .ok es ↔
      List.Forall₂ (fun e m => e.1 = m.1 ∧ e.2.SpelledBy m.2) es ms := by
  rw [Except.mapM_eq_ok_iff]
  constructor
  · refine List.Forall₂.imp fun e m h => ?_
    obtain ⟨x, hx, rfl⟩ := Except.map_eq_ok_iff.1 h
    exact ⟨rfl, Relationship.ofPrimary_eq_ok_iff.1 hx⟩
  · refine List.Forall₂.imp fun e m h => ?_
    exact Except.map_eq_ok_iff.2 ⟨e.2, Relationship.ofPrimary_eq_ok_iff.2 h.2, by rw [← h.1]⟩

theorem Relationships.names_of_forall₂ {es : List (Text × Relationship)} {ms : Members}
    (h : List.Forall₂ (fun e m => e.1 = m.1 ∧ e.2.SpelledBy m.2) es ms) :
    Members.names es = Members.names ms := by
  induction h with
  | nil => rfl
  | cons he _ ih => exact congrArg₂ List.cons he.1 ih

theorem Relationships.ofPrimary_eq_ok_iff {v : Json} (hv : v.Settled) {rs : Relationships} :
    ofPrimary v = .ok rs ↔ rs.SpelledBy v := by
  have hofPairs : ∀ {es : List (Text × Relationship)} (h : (Members.names es).Nodup),
      ofPairs es = ⟨es, h⟩ := fun h => by simp only [ofPairs, Members.ofPairs_of_nodup h]
  constructor
  · intro h
    cases hv with
    | @object ms hnames =>
      obtain ⟨es, hes, rfl⟩ := Except.map_eq_ok_iff.1 h
      have hes := mapM_ofPrimary_eq_ok_iff.1 hes
      rw [hofPairs (names_of_forall₂ hes ▸ hnames)]
      exact ⟨ms, rfl, hes⟩
    | null | bool | int | float | string | array => cases h
  · rintro ⟨ms, rfl, hes⟩
    exact Except.map_eq_ok_iff.2 ⟨_, mapM_ofPrimary_eq_ok_iff.2 hes, hofPairs rs.distinct⟩

/-! ### Attributes -/

/-- The attributes are those of a member that may be missing: none for a null, else the compact
bytes of the value. -/
inductive Attributes.SpelledBy : Option Attributes → Option Json → Prop
  | absent : SpelledBy none none
  | null : SpelledBy none (some .null)
  | value {a : Attributes} {v : Json} (hv : v ≠ .null) (h : v.toBytes .compact = .ok a.bytes) :
    SpelledBy (some a) (some v)

/-- A value that can be written spells attributes, none if it is null. -/
theorem Attributes.exists_spelledBy {v : Json} (hv : v.Settled) (h : v.Encodable) :
    ∃ as, Attributes.SpelledBy as (some v) := by
  by_cases hnull : v = .null
  · exact ⟨none, hnull ▸ .null⟩
  · obtain ⟨bs, hbs⟩ := (Json.exists_toBytes_iff Json.Layout.standard_compact).2 h
    obtain ⟨a, -, rfl, -⟩ := Attributes.ofJson_of_toBytes hv hbs
    exact ⟨some a, .value hnull hbs⟩

namespace Resource

variable {method : Text} {r : Resource} {ms : Members}

theorem attributesOfPrimary_of_ne {v : Json} (hv : v ≠ .null) :
    attributesOfPrimary (some v) = (v.toBytes .compact).map some := by
  unfold attributesOfPrimary
  split
  · rename_i h
    cases h
  · rename_i h
    exact absurd (Option.some.inj h) hv
  · rename_i h
    cases h
    rfl

/-- The bytes that a member gives make attributes: they are their own normal form. -/
theorem exists_attributes {v : Option Json} (hv : ∀ w ∈ v, w.Settled) {bs : Option Bytes}
    (h : attributesOfPrimary v = .ok bs) :
    ∃ as, Attributes.ofValue (bs.elim .null .bytes) = .ok as ∧ Attributes.SpelledBy as v := by
  match v with
  | none =>
    obtain rfl := Except.ok.inj h
    exact ⟨none, rfl, .absent⟩
  | some w =>
    by_cases hw : w = .null
    · subst hw
      obtain rfl := Except.ok.inj h
      exact ⟨none, rfl, .null⟩
    · rw [attributesOfPrimary_of_ne hw] at h
      obtain ⟨cs, hcs, rfl⟩ := Except.map_eq_ok_iff.1 h
      obtain ⟨a, ha, hbytes, -⟩ := Attributes.ofValue_toBytes (hv w rfl) hcs
      exact ⟨some a, ha, .value hw (hbytes ▸ hcs)⟩

theorem attributesOfPrimary_of_spelledBy {as : Option Attributes} {v : Option Json}
    (h : Attributes.SpelledBy as v) : attributesOfPrimary v = .ok (as.map (·.bytes)) := by
  cases h with
  | absent => rfl
  | null => rfl
  | value hv h =>
    rw [attributesOfPrimary_of_ne hv, h]
    rfl

theorem eq_of_spelledBy {as bs : Option Attributes} {v : Option Json}
    (ha : Attributes.SpelledBy as v) (hb : Attributes.SpelledBy bs v) : as = bs := by
  cases ha with
  | absent =>
    cases hb
    rfl
  | null =>
    cases hb with
    | null => rfl
    | value hv => exact absurd rfl hv
  | value hv h =>
    cases hb with
    | null => exact absurd rfl hv
    | value _ h' => exact congrArg some (Attributes.eq_of_bytes (Except.ok.inj (h.symm.trans h')))

/-! ### Resources -/

/-- The object spells the resource, in a document that belongs to a method. -/
structure SpelledBy (method : Text) (r : Resource) (ms : Members) : Prop where
  type : Members.get? "type" ms = some (.string r.type)
  type_ne : r.type ≠ []
  id : (Members.get? "id" ms).getD .null = .null ∧ r.id = [] ∨
    Members.get? "id" ms = some (.string r.id)
  id_ne : r.id = [] → method.upper = "POST"
  attributes : Attributes.SpelledBy r.attributes (Members.get? "attributes" ms)
  relationships : Option.Rel Relationships.SpelledBy r.relationships
    (Members.get? "relationships" ms)

theorem ofParts_eq_ok {type id : Text} {bs : Option Bytes} {as : Option Attributes}
    {rs : Option Relationships} (h : Attributes.ofValue (bs.elim .null .bytes) = .ok as) :
    ofParts type id bs rs = .ok ⟨type, id, as, rs⟩ := by
  rw [ofParts, h]
  rfl

theorem checkIdentity_eq_ok_iff {v w : Json} {type id : Text} :
    Violation.checkIdentity method v w = .ok (type, id) ↔
      v = .string type ∧ type ≠ [] ∧ w = .string id ∧ (id = [] → method.upper = "POST") := by
  have hcreates : ∀ t : Text, ¬ (t = [] ∧ (!Violation.creates method) = true) ↔
      (t = [] → method.upper = "POST") := by
    intro t
    simp [Violation.creates]
  unfold Violation.checkIdentity
  split
  · rename_i c t
    split
    · rename_i i
      split
      · rename_i h
        constructor
        · nofun
        · rintro ⟨-, -, hi, hid⟩
          cases hi
          exact absurd h ((hcreates _).2 hid)
      · rename_i h
        simp only [Except.ok.injEq, Prod.mk.injEq, Json.string.injEq]
        constructor
        · rintro ⟨rfl, rfl⟩
          exact ⟨rfl, List.cons_ne_nil _ _, rfl, (hcreates i).1 h⟩
        · rintro ⟨rfl, -, rfl, -⟩
          exact ⟨rfl, rfl⟩
    · rename_i h
      constructor
      · nofun
      · rintro ⟨-, -, hw, -⟩
        exact absurd hw (h id)
  · rename_i h
    constructor
    · nofun
    · rintro ⟨rfl, hne, -⟩
      obtain ⟨c, r, rfl⟩ := List.exists_cons_of_ne_nil hne
      exact absurd rfl (h c r)

theorem getD_eq_string_iff {v : Option Json} {t : Text} :
    v.getD .null = .string t ↔ v = some (.string t) := by
  cases v <;> simp

theorem idOfPrimary_eq_iff {v : Option Json} {id : Text} :
    idOfPrimary v = .string id ↔ v.getD .null = .null ∧ id = [] ∨ v = some (.string id) := by
  unfold idOfPrimary
  split
  · simp [eq_comm]
  · simp [eq_comm]
  · rename_i hnull
    have : ∀ w, some w = some Json.null → w = .null := fun w => Option.some.inj
    simp_all

theorem mapM_ofPrimary_eq_ok_iff {v : Option Json} (hv : ∀ w ∈ v, w.Settled)
    {rs : Option Relationships} :
    v.mapM Relationships.ofPrimary = .ok rs ↔ Option.Rel Relationships.SpelledBy rs v := by
  cases v with
  | none =>
    constructor
    · intro h
      obtain rfl := Except.ok.inj h
      exact .none
    · rintro ⟨⟩
      rfl
  | some v =>
    have hsome : (some v).mapM Relationships.ofPrimary =
        (Relationships.ofPrimary v).map some := rfl
    rw [hsome, Except.map_eq_ok_iff]
    constructor
    · rintro ⟨r, hr, rfl⟩
      exact .some ((Relationships.ofPrimary_eq_ok_iff (hv v rfl)).1 hr)
    · rintro (h | -)
      exact ⟨_, (Relationships.ofPrimary_eq_ok_iff (hv v rfl)).2 h, rfl⟩

theorem settled_of_get {name : Text} (hms : ∀ m ∈ ms, m.2.Settled) :
    ∀ w ∈ Members.get? name ms, w.Settled :=
  fun _ hw => hms _ (Members.mem_of_get? hw)

/-- **Reading an object** gives the resource that it spells, whatever the order of its members. -/
theorem ofPrimaryMembers_eq_ok_iff (hms : ∀ m ∈ ms, m.2.Settled) :
    ofPrimaryMembers method ms = .ok r ↔ r.SpelledBy method ms := by
  constructor
  · intro h
    obtain ⟨⟨type, id⟩, hidentity, h⟩ := Except.bind_eq_ok_iff.1 h
    obtain ⟨bs, hbs, h⟩ := Except.bind_eq_ok_iff.1 h
    obtain ⟨rs, hrs, h⟩ := Except.bind_eq_ok_iff.1 h
    rw [Except.mapError_eq_ok_iff] at hidentity hbs hrs h
    obtain ⟨htype, htype_ne, hid, hid_ne⟩ := checkIdentity_eq_ok_iff.1 hidentity
    obtain ⟨as, has, hspelled⟩ := exists_attributes (settled_of_get hms) hbs
    obtain rfl := Except.ok.inj ((ofParts_eq_ok has).symm.trans h)
    exact ⟨getD_eq_string_iff.1 htype, htype_ne, idOfPrimary_eq_iff.1 hid, hid_ne, hspelled,
      (mapM_ofPrimary_eq_ok_iff (settled_of_get hms)).1 hrs⟩
  · rintro ⟨htype, htype_ne, hid, hid_ne, hspelled, hrs⟩
    have hidentity := checkIdentity_eq_ok_iff.2
      ⟨getD_eq_string_iff.2 htype, htype_ne, idOfPrimary_eq_iff.2 hid, hid_ne⟩
    have hbs := attributesOfPrimary_of_spelledBy hspelled
    obtain ⟨as, has, hspelled'⟩ := exists_attributes (settled_of_get hms) hbs
    -- the bytes are normalised once more, which leaves them alone
    obtain rfl := eq_of_spelledBy hspelled hspelled'
    have hrelationships := (mapM_ofPrimary_eq_ok_iff (settled_of_get hms)).2 hrs
    simp only [ofPrimaryMembers, hidentity, hbs, hrelationships, Except.ok_mapError,
      Except.ok_bind, ofParts_eq_ok has]

end Resource

end JsonApi
