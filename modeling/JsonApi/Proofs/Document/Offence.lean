import JsonApi.Proofs.Document.Exits
import JsonApi.Proofs.Pointer

/-!
# The first offence

Which rule the relationships of a document break first, and where, said without the reader: for the
parts of a relationship from the identifiers outwards.  Reading fails with that rule at that place
(`Relationships.ofPrimary_eq_error_iff`), and the pointer of the error leads there
(`Document.pointed_at_first_offence`).
-/

namespace JsonApi

namespace Json

/-- The value is an object. -/
def IsObject (v : Json) : Prop := ∃ ms, v = .object ms

/-- The members hold a text that is not empty under a name. -/
def HoldsText (name : Text) (ms : Members) : Prop :=
  ∃ t, Members.get? name ms = some (.string t) ∧ t ≠ []

/-- The value is an object with data. -/
def HoldsData (v : Json) : Prop := ∃ ms data, v = .object ms ∧ Members.get? "data" ms = some data

theorem not_isObject_iff {v : Json} : ¬ v.IsObject ↔ ∀ ms, v ≠ .object ms := not_exists

end Json

open Json (HoldsText)

/-! ### Identifiers -/

/-- The first offence of a value in the place of an identifier: the rule that it breaks and how far
below it. -/
inductive Identifier.Offence : Json → Rule → Pointer → Prop
  | object {v : Json} (h : ¬ v.IsObject) : Offence v .identifier []
  | member {ms : Members} {m : IdentifierMember} (hbefore : m = .id → HoldsText "type" ms)
      (h : ¬ HoldsText m.name ms) : Offence (.object ms) (.identifierMember m) [m.name]

namespace Violation

variable {place : Pointer} {ms : Members} {w : Violation}

theorem exists_checkMember_iff {m : IdentifierMember} :
    (∃ t, checkMember place m ms = .ok t) ↔ HoldsText m.name ms := by
  simp only [HoldsText, checkMember_eq_ok_iff]

theorem checkMember_eq_error_iff {m : IdentifierMember} :
    checkMember place m ms = .error w ↔
      ¬ HoldsText m.name ms ∧ w = ⟨.identifierMember m, place ++ [m.name]⟩ := by
  have hexists : (∃ t, checkMember place m ms = .ok t) ↔ HoldsText m.name ms :=
    exists_checkMember_iff
  rw [← hexists]
  unfold checkMember
  split
  · simp
  · simp [eq_comm]

theorem checkIdentifier_eq_error_iff : checkIdentifier place ms = .error w ↔
    ∃ path, Identifier.Offence (.object ms) w.rule path ∧ w.place = place ++ path := by
  constructor
  · intro h
    rcases Except.bind_eq_error_iff.1 h with htype | ⟨type, htype, h⟩
    · obtain ⟨hnot, rfl⟩ := checkMember_eq_error_iff.1 htype
      exact ⟨_, .member nofun hnot, rfl⟩
    · rcases Except.bind_eq_error_iff.1 h with hid | ⟨id, -, h⟩
      · obtain ⟨hnot, rfl⟩ := checkMember_eq_error_iff.1 hid
        exact ⟨_, .member (fun _ => exists_checkMember_iff.1 ⟨type, htype⟩) hnot, rfl⟩
      · cases h
  · rintro ⟨path, h, hplace⟩
    obtain ⟨rule, place'⟩ := w
    obtain rfl : place' = place ++ path := hplace
    cases h with
    | object h => exact absurd ⟨ms, rfl⟩ h
    | @member _ m hbefore h =>
      have herror : checkMember place m ms = .error ⟨.identifierMember m, place ++ [m.name]⟩ :=
        checkMember_eq_error_iff.2 ⟨h, rfl⟩
      cases m with
      | type => rw [checkIdentifier, herror, Except.error_bind]
      | id =>
        obtain ⟨type, htype⟩ : ∃ t, checkMember place .type ms = .ok t :=
          exists_checkMember_iff.2 (hbefore rfl)
        rw [checkIdentifier, htype, Except.ok_bind, herror, Except.error_bind]

end Violation

variable {place : Pointer} {w : Violation}

theorem Identifier.ofPrimary_eq_error_iff {v : Json} : ofPrimary place v = .error w ↔
    ∃ path, Offence v w.rule path ∧ w.place = place ++ path := by
  unfold ofPrimary
  split
  · exact Violation.checkIdentifier_eq_error_iff
  · rename_i hv
    constructor
    · intro h
      obtain rfl := Except.error.inj h
      exact ⟨[], .object (Json.not_isObject_iff.2 hv), (List.append_nil place).symm⟩
    · rintro ⟨path, h, hplace⟩
      cases w
      cases h with
      | object => exact congrArg Except.error (by simp_all)
      | member => exact absurd rfl (hv _)

/-! ### Linkages -/

namespace Linkage

/-- The first offence of a value in the place of a linkage: the value itself, or the first item that
is no identifier. -/
inductive Offence : Json → Rule → Pointer → Prop
  | shape {v : Json} (hnull : v ≠ .null) (hobject : ¬ v.IsObject) (harray : ∀ vs, v ≠ .array vs) :
    Offence v .linkage []
  | one {ms : Members} {rule : Rule} {path : Pointer}
      (h : Identifier.Offence (.object ms) rule path) : Offence (.object ms) rule path
  | item {before after : List Json} {v : Json} {rule : Rule} {path : Pointer}
      (hbefore : ∀ x ∈ before, x.IsIdentifier) (h : Identifier.Offence v rule path) :
    Offence (.array (before ++ v :: after)) rule (Text.ofNat before.length :: path)

/-- Items fail as the first of them that is no identifier, under its number. -/
theorem itemsOfPrimary_eq_error_iff {n : Nat} {vs : List Json} :
    itemsOfPrimary place n vs = .error w ↔ ∃ before v after path, vs = before ++ v :: after ∧
      (∀ x ∈ before, x.IsIdentifier) ∧ Identifier.Offence v w.rule path ∧
      w.place = place ++ Text.ofNat (n + before.length) :: path := by
  induction vs generalizing n with
  | nil => simp [itemsOfPrimary]
  | cons v vs ih =>
    rw [itemsOfPrimary, Except.bind_eq_error_iff]
    constructor
    · rintro (h | ⟨i, hi, h⟩)
      · obtain ⟨path, hpath, hplace⟩ := Identifier.ofPrimary_eq_error_iff.1 h
        exact ⟨[], v, vs, path, rfl, List.forall_mem_nil _, hpath, by simpa using hplace⟩
      · have hv : v.IsIdentifier :=
          Identifier.exists_spelledBy_iff.1 ⟨i, Identifier.ofPrimary_eq_ok_iff.1 hi⟩
        rcases Except.bind_eq_error_iff.1 h with h | ⟨is, -, h⟩
        · obtain ⟨before, x, after, path, rfl, hbefore, hx, hplace⟩ := ih.1 h
          refine ⟨v :: before, x, after, path, rfl, List.forall_mem_cons.2 ⟨hv, hbefore⟩, hx, ?_⟩
          rw [hplace, List.length_cons, Nat.add_assoc, Nat.add_comm 1]
        · cases h
    · rintro ⟨before, x, after, path, hvs, hbefore, hx, hplace⟩
      cases before with
      | nil =>
        obtain ⟨rfl, rfl⟩ := List.cons.inj hvs
        exact .inl (Identifier.ofPrimary_eq_error_iff.2 ⟨path, hx, by simpa using hplace⟩)
      | cons v' before =>
        obtain ⟨rfl, rfl⟩ := List.cons.inj hvs
        obtain ⟨hv, hbefore⟩ := List.forall_mem_cons.1 hbefore
        obtain ⟨i, hi⟩ := Identifier.exists_spelledBy_iff.2 hv
        have hrest := (ih (n := n + 1)).2 ⟨before, x, after, path, rfl, hbefore, hx, by
          rw [hplace, List.length_cons, Nat.add_assoc, Nat.add_comm 1]⟩
        refine .inr ⟨i, Identifier.ofPrimary_eq_ok_iff.2 hi, ?_⟩
        rw [hrest, Except.error_bind]

theorem ofPrimary_eq_error_iff {v : Json} : ofPrimary place v = .error w ↔
    ∃ path, Offence v w.rule path ∧ w.place = place ++ path := by
  obtain ⟨rule, place'⟩ := w
  unfold ofPrimary
  split
  · constructor
    · nofun
    · rintro ⟨path, h, -⟩
      cases h with
      | shape hnull => exact absurd rfl hnull
  · rename_i ms
    rw [Except.map_eq_error_iff, Violation.checkIdentifier_eq_error_iff]
    refine exists_congr fun path => and_congr_left fun _ => ⟨.one, fun h => ?_⟩
    cases h with
    | shape _ hobject => exact absurd ⟨ms, rfl⟩ hobject
    | one h => exact h
  · rw [Except.map_eq_error_iff, itemsOfPrimary_eq_error_iff]
    constructor
    · rintro ⟨before, x, after, path, rfl, hbefore, hx, hplace⟩
      exact ⟨_, .item hbefore hx, by simpa using hplace⟩
    · rintro ⟨path, h, hplace⟩
      cases h with
      | shape _ _ harray => exact absurd rfl (harray _)
      | item hbefore hx => exact ⟨_, _, _, _, rfl, hbefore, hx, by simpa using hplace⟩
  · rename_i hnull hobject harray
    constructor
    · intro h
      obtain ⟨rfl, rfl⟩ := Violation.mk.inj (Except.error.inj h)
      refine ⟨[], .shape hnull (Json.not_isObject_iff.2 hobject) harray, ?_⟩
      exact (List.append_nil place).symm
    · rintro ⟨path, h, hplace⟩
      cases h with
      | shape => simpa [eq_comm] using hplace
      | one => exact absurd rfl (hobject _)
      | item => exact absurd rfl (harray _)

end Linkage

/-! ### Relationships -/

/-- The first offence of a value in the place of the relationship of a name: that it has no data, or
what is wrong with the linkage that these are. -/
inductive Relationship.Offence (name : Text) : Json → Rule → Pointer → Prop
  | data {v : Json} (h : ¬ v.HoldsData) : Offence name v (.relationship name) []
  | linkage {ms : Members} {data : Json} {rule : Rule} {path : Pointer}
      (hdata : Members.get? "data" ms = some data) (h : Linkage.Offence data rule path) :
    Offence name (.object ms) rule ("data" :: path)

/-- The first offence of a value in the place of relationships: the value itself, or the first
member that is no relationship. -/
inductive Relationships.Offence : Json → Rule → Pointer → Prop
  | object {v : Json} (h : ¬ v.IsObject) : Offence v .relationships []
  | member {before after : Members} {name : Text} {v : Json} {rule : Rule} {path : Pointer}
      (hbefore : ∀ m ∈ before, m.2.IsRelationship) (h : Relationship.Offence name v rule path) :
    Offence (.object (before ++ (name, v) :: after)) rule (name :: path)

theorem Relationship.ofPrimary_of_not_holdsData {name : Text} {v : Json} (h : ¬ v.HoldsData) :
    ofPrimary name v = .error ⟨.relationship name, Violation.relationshipsPlace ++ [name]⟩ := by
  match v with
  | .object ms =>
    cases hdata : Members.get? "data" ms with
    | some data => exact absurd ⟨ms, data, rfl, hdata⟩ h
    | none => simp only [ofPrimary, hdata]
  | .null | .bool _ | .int _ | .float _ | .string _ | .array _ => rfl

theorem Relationship.ofPrimary_eq_error_iff {name : Text} {v : Json} :
    ofPrimary name v = .error w ↔
      ∃ path, Offence name v w.rule path ∧
        w.place = Violation.relationshipsPlace ++ name :: path := by
  obtain ⟨rule, place'⟩ := w
  by_cases hv : v.HoldsData
  · obtain ⟨ms, data, rfl, hdata⟩ := hv
    simp only [ofPrimary, hdata]
    rw [Except.map_eq_error_iff, Linkage.ofPrimary_eq_error_iff]
    constructor
    · rintro ⟨path, h, hplace⟩
      exact ⟨_, .linkage hdata h, hplace⟩
    · rintro ⟨path, h, hplace⟩
      cases h with
      | data h => exact absurd ⟨ms, data, rfl, hdata⟩ h
      | linkage hdata' h =>
        obtain rfl := Option.some.inj (hdata.symm.trans hdata')
        exact ⟨_, h, hplace⟩
  · rw [ofPrimary_of_not_holdsData hv]
    constructor
    · intro h
      obtain ⟨rfl, rfl⟩ := Violation.mk.inj (Except.error.inj h)
      exact ⟨[], .data hv, rfl⟩
    · rintro ⟨path, h, hplace⟩
      cases h with
      | data => simpa [eq_comm] using hplace
      | linkage hdata => exact absurd ⟨_, _, rfl, hdata⟩ hv

theorem Relationships.ofPrimary_eq_error_iff {v : Json} : ofPrimary v = .error w ↔
    ∃ path, Offence v w.rule path ∧ w.place = Violation.relationshipsPlace ++ path := by
  obtain ⟨rule, place'⟩ := w
  unfold ofPrimary
  split
  · rw [Except.map_eq_error_iff, Except.mapM_eq_error_iff]
    simp only [Except.exists_map_eq_ok_iff, Except.map_eq_error_iff,
      Relationship.ofPrimary_eq_ok_iff, Relationship.exists_spelledBy_iff,
      Relationship.ofPrimary_eq_error_iff]
    constructor
    · rintro ⟨before, ⟨name, x⟩, after, rfl, hbefore, path, hx, hplace⟩
      exact ⟨_, .member hbefore hx, hplace⟩
    · rintro ⟨path, h, hplace⟩
      cases h with
      | object h => exact absurd ⟨_, rfl⟩ h
      | member hbefore hx => exact ⟨_, _, _, rfl, hbefore, _, hx, hplace⟩
  · rename_i hobject
    constructor
    · intro h
      obtain ⟨rfl, rfl⟩ := Violation.mk.inj (Except.error.inj h)
      exact ⟨[], .object (Json.not_isObject_iff.2 hobject), rfl⟩
    · rintro ⟨path, h, hplace⟩
      cases h with
      | object => simpa [eq_comm] using hplace
      | member => exact absurd rfl (hobject _)

/-! ### Documents -/

namespace Document

open Violation Pointer

/-- A rule of relationships is broken at a place of the document: pointers lead to values that are
not what the rule asks for. -/
inductive Breaks (document : Json) : Rule → Pointer → Prop
  | relationships {v : Json} (hv : eval? relationshipsPlace document = some v)
      (h : ¬ v.IsObject) : Breaks document .relationships relationshipsPlace
  | relationship {name : Text} {v : Json}
      (hv : eval? (relationshipsPlace ++ [name]) document = some v) (h : ¬ v.HoldsData) :
    Breaks document (.relationship name) (relationshipsPlace ++ [name])
  | linkage {name : Text} {v : Json} (hv : eval? (linkagePlace name) document = some v)
      (hnull : v ≠ .null) (hobject : ¬ v.IsObject) (harray : ∀ vs, v ≠ .array vs) :
    Breaks document .linkage (linkagePlace name)
  | item {name : Text} {n : Nat} {vs : List Json} {v : Json}
      (hvs : eval? (linkagePlace name) document = some (.array vs))
      (hv : eval? (linkagePlace name ++ [Text.ofNat n]) document = some v) (h : ¬ v.IsObject) :
    Breaks document .identifier (linkagePlace name ++ [Text.ofNat n])
  | memberOfOne {name : Text} {ms : Members} {m : IdentifierMember}
      (hms : eval? (linkagePlace name) document = some (.object ms)) (h : ¬ HoldsText m.name ms) :
    Breaks document (.identifierMember m) (linkagePlace name ++ [m.name])
  | memberOfItem {name : Text} {n : Nat} {vs : List Json} {ms : Members} {m : IdentifierMember}
      (hvs : eval? (linkagePlace name) document = some (.array vs))
      (hms : eval? (linkagePlace name ++ [Text.ofNat n]) document = some (.object ms))
      (h : ¬ HoldsText m.name ms) :
    Breaks document (.identifierMember m) (linkagePlace name ++ [Text.ofNat n, m.name])

/-- Nothing before the place is at fault: the relationships and the items before those on the way to
it, and the type if the id of an identifier is at fault. -/
structure SoundBefore (document : Json) (rule : Rule) (place : Pointer) : Prop where
  relationships : ∀ name rest, place = relationshipsPlace ++ name :: rest →
    ∃ before v after, eval? relationshipsPlace document =
      some (.object (before ++ (name, v) :: after)) ∧ ∀ m ∈ before, m.2.IsRelationship
  items : ∀ name number rest vs, place = linkagePlace name ++ number :: rest →
    eval? (linkagePlace name) document = some (.array vs) →
    ∃ before v after, vs = before ++ v :: after ∧ number = Text.ofNat before.length ∧
      ∀ x ∈ before, x.IsIdentifier
  type : rule = .identifierMember .id → ∃ front ms, place = front ++ [IdentifierMember.name .id] ∧
    eval? front document = some (.object ms) ∧ HoldsText "type" ms

variable {document v : Json} {rule : Rule} {path : Pointer}

theorem not_mem_names {before after : Members} {name : Text}
    (h : (Json.object (before ++ (name, v) :: after)).Settled) : name ∉ Members.names before := by
  cases h with
  | object hnames =>
    rw [Members.names, List.map_append, List.map_cons] at hnames
    exact fun hname => (List.nodup_append.1 hnames).2.2 _ hname _ List.mem_cons_self rfl

theorem eval?_name {before after : Members} {name : Text}
    (hsettled : (Json.object (before ++ (name, v) :: after)).Settled)
    (hv : eval? relationshipsPlace document = some (.object (before ++ (name, v) :: after))) :
    eval? (relationshipsPlace ++ [name]) document = some v := by
  rw [eval?_append, hv, Option.bind_some, eval?_member (not_mem_names hsettled)]
  rfl

theorem eval?_linkagePlace {name : Text} {ms : Members} {data : Json}
    (hname : eval? (relationshipsPlace ++ [name]) document = some (.object ms))
    (hdata : Members.get? "data" ms = some data) :
    eval? (linkagePlace name) document = some data := by
  rw [linkagePlace, List.append_cons, eval?_append, hname, Option.bind_some, eval?, hdata]
  rfl

theorem eval?_itemPlace {name : Text} {before after : List Json}
    (hlinkage : eval? (linkagePlace name) document = some (.array (before ++ v :: after))) :
    eval? (linkagePlace name ++ [Text.ofNat before.length]) document = some v := by
  rw [eval?_append, hlinkage, Option.bind_some, eval?_item]
  rfl

/-- The first offence of relationships is an offence of the document below their place. -/
theorem breaks_of_offence (hsettled : v.Settled)
    (hv : eval? relationshipsPlace document = some v) (h : Relationships.Offence v rule path) :
    Breaks document rule (relationshipsPlace ++ path) := by
  cases h with
  | object h => exact .relationships hv h
  | member hbefore h =>
    have hname := eval?_name hsettled hv
    cases h with
    | data h => exact .relationship hname h
    | linkage hdata h =>
      have hlinkage := eval?_linkagePlace hname hdata
      cases h with
      | shape hnull hobject harray => exact .linkage hlinkage hnull hobject harray
      | one h =>
        cases h with
        | object h => exact absurd ⟨_, rfl⟩ h
        | member _ h => exact .memberOfOne hlinkage h
      | item hbefore h =>
        cases h with
        | object h => exact .item hlinkage (eval?_itemPlace hlinkage) h
        | member _ h => exact .memberOfItem hlinkage (eval?_itemPlace hlinkage) h

/-- An id is at fault only when the type beside it is sound. -/
theorem type_of_offence (hsettled : v.Settled)
    (hv : eval? relationshipsPlace document = some v)
    (h : Relationships.Offence v (.identifierMember .id) path) :
    ∃ front ms, relationshipsPlace ++ path = front ++ [IdentifierMember.name .id] ∧
      eval? front document = some (.object ms) ∧ HoldsText "type" ms := by
  cases h with
  | @member before after name v rule path hbefore h =>
    cases h with
    | linkage hdata h =>
      have hlinkage := eval?_linkagePlace (eval?_name hsettled hv) hdata
      cases h with
      | one h =>
        cases h with
        | member hbefore => exact ⟨linkagePlace name, _, rfl, hlinkage, hbefore rfl⟩
      | item _ h =>
        cases h with
        | member hbefore =>
          exact ⟨linkagePlace name ++ [_], _, rfl, eval?_itemPlace hlinkage, hbefore rfl⟩

theorem soundBefore_of_offence (hsettled : v.Settled)
    (hv : eval? relationshipsPlace document = some v) (h : Relationships.Offence v rule path) :
    SoundBefore document rule (relationshipsPlace ++ path) := by
  refine ⟨fun name rest hplace => ?_, fun name number rest vs hplace hvs => ?_, ?_⟩
  · obtain rfl : path = name :: rest := List.append_cancel_left hplace
    cases h with
    | member hbefore => exact ⟨_, _, _, hv, hbefore⟩
  · obtain rfl : path = name :: "data" :: number :: rest := List.append_cancel_left hplace
    cases h with
    | member _ h =>
      cases h with
      | linkage hdata h =>
        have hlinkage := eval?_linkagePlace (eval?_name hsettled hv) hdata
        obtain rfl := Option.some.inj (hvs.symm.trans hlinkage)
        cases h with
        | item hbefore => exact ⟨_, _, _, rfl, rfl, hbefore⟩
  · rintro rfl
    exact type_of_offence hsettled hv h

/-! ### Where an offence is -/

/-- No number of an item is the name of a member of identifiers. -/
theorem ofNat_ne_name (n : Nat) (m : IdentifierMember) : Text.ofNat n ≠ m.name := by
  intro h
  have hdigit : ∀ c ∈ m.name, c.isDigit = true := fun c hc => Text.isDigit_of_mem_ofNat (h ▸ hc)
  revert hdigit
  cases m <;> decide

/-- The rule that can be broken at a place, which is given from the relationships on. -/
def ruleBelow : Pointer → Rule
  | [] => .relationships
  | [name] => .relationship name
  | [_, _] => .linkage
  | _ :: _ :: tokens =>
    if tokens.getLast? = some (IdentifierMember.name .type) then .identifierMember .type
    else if tokens.getLast? = some (IdentifierMember.name .id) then .identifierMember .id
    else .identifier

/-- The place alone tells which rule is broken there. -/
theorem Breaks.rule_eq {place : Pointer} (h : Breaks document rule place) :
    rule = ruleBelow (place.drop relationshipsPlace.length) := by
  cases h with
  | relationships | relationship | linkage => rfl
  | @item name n =>
    have hlast : ∀ m, [Text.ofNat n].getLast? ≠ some (IdentifierMember.name m) := fun m h =>
      ofNat_ne_name n m (Option.some.inj h)
    have hrule : ruleBelow [name, "data", Text.ofNat n] = .identifier := by
      rw [ruleBelow, if_neg (hlast .type), if_neg (hlast .id)]
      nofun
    exact hrule.symm
  | @memberOfOne _ _ m | @memberOfItem _ _ _ _ m => cases m <;> rfl

/-! ### What reading reports -/

variable {method : Text} {settings : Except ValidationError Settings} {headers : GivenHeaders}
  {body : Body} {e : ApiError}

theorem failsOnly_checkIdentity_place (type id : Json) :
    (checkIdentity method type id).FailsOnly (·.place ∈ [typePlace, idPlace]) := by
  unfold checkIdentity
  split
  · split
    · split_ifs
      · exact Except.failsOnly_error_iff.2 (by simp)
      · exact Except.failsOnly_ok _
    · exact Except.failsOnly_error_iff.2 (by simp)
  · exact Except.failsOnly_error_iff.2 (by simp)

/-- Primary data breaks a rule as a whole, by its type or id, or by its relationships. -/
theorem violation_of_ofPrimary {data : Json} {w : Violation}
    (h : Resource.ofPrimary method data = .error (.violation w)) :
    w.place ∈ [dataPlace, typePlace, idPlace] ∨ ∃ ms v, data = .object ms ∧
      Members.get? "relationships" ms = some v ∧ Relationships.ofPrimary v = .error w := by
  match data with
  | .object ms =>
    rcases Except.bind_eq_error_iff.1 h with h | ⟨_, -, h⟩
    · obtain ⟨w', hw', ⟨⟩⟩ := Except.mapError_eq_error_iff.1 h
      exact .inl (List.mem_cons_of_mem _ (failsOnly_checkIdentity_place _ _ _ hw'))
    rcases Except.bind_eq_error_iff.1 h with h | ⟨_, -, h⟩
    · obtain ⟨_, -, ⟨⟩⟩ := Except.mapError_eq_error_iff.1 h
    rcases Except.bind_eq_error_iff.1 h with h | ⟨_, -, h⟩
    · obtain ⟨w', hw', ⟨⟩⟩ := Except.mapError_eq_error_iff.1 h
      cases hget : Members.get? "relationships" ms with
      | none =>
        rw [hget] at hw'
        cases hw'
      | some v =>
        rw [hget] at hw'
        exact .inr ⟨ms, v, rfl, hget, Except.map_eq_error_iff.1 hw'⟩
    · obtain ⟨_, -, ⟨⟩⟩ := Except.mapError_eq_error_iff.1 h
  | .null | .bool _ | .int _ | .float _ | .string _ | .array _ =>
    obtain rfl := Rejection.violation.inj (Except.error.inj h)
    exact .inl List.mem_cons_self

theorem place_of_primary {w : Violation} (h : primary document = .error w) :
    w.place ∈ [[], dataPlace] := by
  unfold primary at h
  split at h
  · split at h
    · cases h
    · obtain rfl := Except.error.inj h
      simp
  · obtain rfl := Except.error.inj h
    simp

/-- An error for the structure of a document is an error for the document as a whole, for the type
or the id of its resource, or for its relationships. -/
theorem violation_of_readSingle
    (h : (readSingle method settings headers body).result = .error (.api e))
    (he : e.errorClass = .specification) :
    ∃ bs document w, body.read = .ok bs ∧ Json.ofBytes bs = .ok document ∧ e = w.error ∧
      (w.place ∈ [[], dataPlace, typePlace, idPlace] ∨ ∃ v,
        v.Settled ∧ eval? relationshipsPlace document = some v ∧
          Relationships.ofPrimary v = .error w) := by
  have hne : ∀ {classes}, .specification ∉ classes → ¬ (Failure.api e).Within classes :=
    fun hclasses hwithin => hclasses (he ▸ hwithin)
  rw [readSingle, result_read] at h
  rcases Except.bind_eq_error_iff.1 h with h | ⟨⟨⟩, -, hbody⟩
  · exact absurd (Negotiation.failsOnly_checkGiven_within _ h) (hne (by decide))
  rcases Except.bind_eq_error_iff.1 hbody with h | ⟨bs, hbs, hbytes⟩
  · exact absurd (body.failsOnly_read_within _ h) (hne (by decide))
  rcases Except.bind_eq_error_iff.1 hbytes with h | ⟨document, hdocument, hprimary⟩
  · obtain ⟨_, -, ⟨⟩⟩ := Except.mapError_eq_error_iff.1 h
    cases he
  rw [Except.mapError_eq_ok_iff] at hdocument
  rcases Except.bind_eq_error_iff.1 hprimary with h | ⟨data, hdata, hparse⟩
  · obtain ⟨w, hw, ⟨⟩⟩ := Except.mapError_eq_error_iff.1 h
    refine ⟨bs, document, w, hbs, hdocument, rfl, .inl ?_⟩
    exact List.subset_append_left [[], dataPlace] [typePlace, idPlace] (place_of_primary hw)
  obtain ⟨ms, rfl, hget⟩ := primary_eq_ok_iff.1 (Except.mapError_eq_ok_iff.1 hdata)
  obtain ⟨r, hr, hfailure⟩ := Except.mapError_eq_error_iff.1 hparse
  cases r with
  | attributes =>
    cases hfailure
    cases he
  | resource => cases hfailure
  | violation w =>
    cases hfailure
    refine ⟨bs, _, w, hbs, hdocument, rfl, ?_⟩
    rcases violation_of_ofPrimary hr with hplace | ⟨members, v, rfl, hv, hw⟩
    · exact .inl (List.mem_cons_of_mem _ hplace)
    have hsettled := settled_data (Json.settled_of_ofBytes hdocument) rfl hget
    refine .inr ⟨v, Resource.settled_of_get (settled_members hsettled) v hv, ?_, hw⟩
    rw [relationshipsPlace, eval?, hget, Option.bind_some, eval?, hv]
    rfl

/-- **A pointer at or below the relationships points at the first offence**: read as a pointer it
leads to a place of the document that breaks the rule of the error, nothing before that place is at
fault, and no other offence of the document has a pointer with this text. -/
theorem pointed_at_first_offence {p : Text}
    (h : (readSingle method settings headers body).result = .error (.api e))
    (he : e.errorClass = .specification) (hp : e.pointer = some p)
    (hbelow : p = relationshipsPlace.text ∨ relationshipsPlace.text ++ ("/" : Text) <+: p) :
    ∃ bs document rule place, body.read = .ok bs ∧ Json.ofBytes bs = .ok document ∧
      ofText? p = some place ∧ e = Violation.error ⟨rule, place⟩ ∧
      Breaks document rule place ∧ SoundBefore document rule place ∧
      ∀ other elsewhere, Breaks document other elsewhere → elsewhere.text = p →
        elsewhere = place ∧ other = rule := by
  obtain ⟨bs, document, ⟨rule, place⟩, hbs, hdocument, rfl, hplace⟩ :=
    violation_of_readSingle h he
  obtain rfl : place.text = p := Option.some.inj hp
  rcases hplace with hplace | ⟨v, hsettled, hv, hw⟩
  · have houtside : ∀ q ∈ ([[], dataPlace, typePlace, idPlace] : List Pointer),
        ¬ (q.text = relationshipsPlace.text ∨
          relationshipsPlace.text ++ ("/" : Text) <+: q.text) := by
      decide
    exact absurd hbelow (houtside place hplace)
  obtain ⟨path, hpath, rfl⟩ := Relationships.ofPrimary_eq_error_iff.1 hw
  have hbreaks := breaks_of_offence hsettled hv hpath
  refine ⟨bs, document, rule, _, hbs, hdocument, ofText?_text _, rfl, hbreaks,
    soundBefore_of_offence hsettled hv hpath, fun other elsewhere hother htext => ?_⟩
  obtain rfl := text_injective htext
  exact ⟨rfl, hother.rule_eq.trans hbreaks.rule_eq.symm⟩

/-- A user whose second friend has no id, under a name with a slash and a tilde. -/
def friendless : Json :=
  .object [("data", .object [("type", .string "user"), ("id", .string "1"),
    ("relationships", .object [("0", .object [("data", .null)]),
      ("a/b~", .object [("data", .array [.object [("type", .string "user"), ("id", .string "2")],
        .object [("type", .string "user")]])]),
      ("0/", .null)])])]

/-- The pointer leads to the friend that has no id. -/
theorem pointed_at_friend :
    ∃ e p, (readSingle "GET" (.ok .default)
        [(.text "Content-Type", .text "application/vnd.api+json")]
        (.bytes (Utf8.encodeScalars (friendless.write .oneLine)))).result = .error (.api e) ∧
      e.errorClass = .specification ∧ e.pointer = some p ∧
      relationshipsPlace.text ++ ("/" : Text) <+: p ∧
      ∃ document rule place, ofText? p = some place ∧
        place = ["data", "relationships", "a/b~", "data", "1", "id"] ∧
        e = Violation.error ⟨rule, place⟩ ∧ Breaks document rule place ∧
        SoundBefore document rule place := by
  obtain ⟨e, he, hp⟩ := Except.exists_api_of
    (x := (readSingle "GET" (.ok .default)
      [(.text "Content-Type", .text "application/vnd.api+json")]
      (.bytes (Utf8.encodeScalars (friendless.write .oneLine)))).result)
    (p := fun e => e.errorClass = .specification ∧
      e.pointer = some "/data/relationships/a~1b~0/data/1/id") (by decide +kernel)
  obtain ⟨hclass, hpointer⟩ := of_decide_eq_true hp
  have hbelow : relationshipsPlace.text ++ ("/" : Text) <+:
      ("/data/relationships/a~1b~0/data/1/id" : Text) := by
    decide
  obtain ⟨bs, document, rule, place, -, -, hspelled, herror, hbreaks, hsound, -⟩ :=
    pointed_at_first_offence he hclass hpointer (.inr hbelow)
  refine ⟨e, _, he, hclass, hpointer, hbelow, document, rule, place, hspelled, ?_, herror,
    hbreaks, hsound⟩
  have hplace : ofText? "/data/relationships/a~1b~0/data/1/id" =
      some (["data", "relationships", "a/b~", "data", "1", "id"] : Pointer) := by
    decide
  exact Option.some.inj (hspelled.symm.trans hplace)

end Document

end JsonApi
