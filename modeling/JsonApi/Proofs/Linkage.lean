import JsonApi.Proofs.Document.Complete
import JsonApi.Proofs.Pointer
import Mathlib.Data.List.Nodup

/-!
# Ways to a linkage

A linkage is made from one identifier or many, by its constructor, from a record, with a
relationship or from primary data.  Whatever the way (`Linkage.Route`), what comes out holds the
shape and the identifiers that were asked for and nothing else (`Linkage.linkage?_eq_some_iff`), and
its wire form, its places and its reading leave none of them out (`Linkage.Faithful`).
-/

namespace JsonApi

namespace Identifier

variable {i : Identifier} {v : Json}

/-- The value is an object that holds the type and the id, which may be empty. -/
def HeldBy (i : Identifier) (v : Json) : Prop :=
  ∃ ms, v = .object ms ∧ Members.get? "type" ms = some (.string i.type) ∧
    Members.get? "id" ms = some (.string i.id)

/-- Something stands for the identifier: it is the identifier, or a value with two parts that are
its type and its id. -/
inductive NamedBy (i : Identifier) : Like → Prop
  | identifier : NamedBy i (.identifier i)
  | value {v : Json} (h : parts v = .ok [.string i.type, .string i.id]) : NamedBy i (.value v)

theorem check_eq_ok_iff {type id : Option Json} :
    check type id = .ok i ↔ type = some (.string i.type) ∧ id = some (.string i.id) := by
  rw [check, Except.map_eq_ok_iff]
  simp only [Checked.pair_eq_ok_iff, Prod.exists]
  constructor
  · rintro ⟨t, u, ⟨htype, hid⟩, rfl⟩
    split at htype
    · cases htype
    · split at hid
      · cases hid
      · rw [Except.ok.inj htype, Except.ok.inj hid]
        exact ⟨rfl, rfl⟩
      · cases hid
    · cases htype
  · rintro ⟨rfl, rfl⟩
    exact ⟨i.type, i.id, ⟨rfl, rfl⟩, rfl⟩

theorem ofMembers_eq_ok_iff {c : Complaint} : ofMembers c v = .ok i ↔ i.HeldBy v := by
  cases v with
  | object ms =>
    rw [ofMembers, check_eq_ok_iff, HeldBy]
    simp
  | null | bool | int | float | string | array => exact iff_of_false nofun nofun

theorem ofParts_eq_ok_iff : ofParts v = .ok i ↔ parts v = .ok [.string i.type, .string i.id] := by
  rw [ofParts, Except.bind_eq_ok_iff]
  constructor
  · rintro ⟨ps, hps, h⟩
    split at h
    · cases h
    · cases h
    · rename_i type id
      obtain ⟨htype, hid⟩ := check_eq_ok_iff.1
        (Except.mapError_eq_ok_iff.1 (Except.mapError_eq_ok_iff.1 h))
      rw [hps, Option.some.inj htype, Option.some.inj hid]
    · cases h
  · intro hps
    refine ⟨_, hps, Except.mapError_eq_ok_iff.2 (Except.mapError_eq_ok_iff.2 ?_)⟩
    exact check_eq_ok_iff.2 ⟨rfl, rfl⟩

theorem resolve_eq_ok_iff {x : Like} : x.resolve = .ok i ↔ i.NamedBy x := by
  cases x with
  | identifier j =>
    constructor
    · intro h
      obtain rfl := Except.ok.inj h
      exact .identifier
    · rintro ⟨⟩
      rfl
  | value v =>
    rw [Like.resolve, ofParts_eq_ok_iff]
    exact ⟨.value, fun h => by cases h with | value h => exact h⟩

theorem HeldBy.unique {j : Identifier} (hi : i.HeldBy v) (hj : j.HeldBy v) : i = j := by
  have hi := ofMembers_eq_ok_iff (c := .missing).2 hi
  have hj := ofMembers_eq_ok_iff (c := .missing).2 hj
  exact Except.ok.inj (hi.symm.trans hj)

end Identifier

namespace Linkage

variable {l : Linkage} {shape : Shape} {is : List Identifier} {v : Json}

theorem check_eq_ok_iff : check shape is = .ok l ↔ l.shape = shape ∧ l.identifiers = is := by
  constructor
  · intro h
    unfold check at h
    split at h
    · obtain rfl := Except.ok.inj h
      exact ⟨rfl, rfl⟩
    · obtain rfl := Except.ok.inj h
      exact ⟨rfl, rfl⟩
    · obtain rfl := Except.ok.inj h
      exact ⟨rfl, rfl⟩
    · cases h
  · rintro ⟨rfl, rfl⟩
    cases l with
    | toOne i => cases i <;> rfl
    | toMany is => rfl

theorem eq_of_shape {m : Linkage} (hshape : l.shape = m.shape)
    (his : l.identifiers = m.identifiers) : l = m := by
  have hl : check m.shape m.identifiers = .ok l := check_eq_ok_iff.2 ⟨hshape, his⟩
  have hm : check m.shape m.identifiers = .ok m := check_eq_ok_iff.2 ⟨rfl, rfl⟩
  exact Except.ok.inj (hl.symm.trans hm)

theorem ofOne_eq_ok_iff {x : Option Identifier.Like} : ofOne x = .ok l ↔
    l.shape = .toOne ∧ List.Forall₂ Identifier.NamedBy l.identifiers x.toList := by
  cases x with
  | none =>
    rw [Option.toList_none, List.forall₂_nil_right_iff]
    constructor
    · intro h
      obtain rfl := Except.ok.inj h
      exact ⟨rfl, rfl⟩
    · exact fun ⟨hshape, his⟩ => congrArg Except.ok (eq_of_shape hshape his).symm
  | some x =>
    rw [ofOne, Except.map_eq_ok_iff, Option.toList_some, List.forall₂_cons_right_iff]
    simp only [List.forall₂_nil_right_iff, Identifier.resolve_eq_ok_iff]
    constructor
    · rintro ⟨i, hi, rfl⟩
      exact ⟨rfl, i, [], hi, rfl, rfl⟩
    · rintro ⟨hshape, i, _, hi, rfl, his⟩
      exact ⟨i, hi, (eq_of_shape hshape his).symm⟩

theorem ofMany_eq_ok_iff {xs : List Identifier.Like} : ofMany xs = .ok l ↔
    l.shape = .toMany ∧ List.Forall₂ Identifier.NamedBy l.identifiers xs := by
  rw [ofMany, Except.map_eq_ok_iff]
  simp only [Except.mapM_eq_ok_iff, Identifier.resolve_eq_ok_iff]
  constructor
  · rintro ⟨is, his, rfl⟩
    exact ⟨rfl, his⟩
  · exact fun ⟨hshape, his⟩ => ⟨l.identifiers, his, (eq_of_shape (m := .toMany _) hshape rfl).symm⟩

theorem spelledBy_iff : l.SpelledBy v ↔
    l.shape = .toOne ∧ v = .null ∧ l.identifiers = [] ∨
    l.shape = .toOne ∧ (∃ i : Identifier, i.SpelledBy v ∧ l.identifiers = [i]) ∨
    l.shape = .toMany ∧ ∃ vs, v = .array vs ∧
      List.Forall₂ Identifier.SpelledBy l.identifiers vs := by
  constructor
  · rintro (_ | @⟨i, _, h⟩ | @⟨is, vs, h⟩)
    · exact .inl ⟨rfl, rfl, rfl⟩
    · exact .inr (.inl ⟨rfl, i, h, rfl⟩)
    · exact .inr (.inr ⟨rfl, vs, rfl, h⟩)
  · rintro (⟨hshape, rfl, his⟩ | ⟨hshape, i, h, his⟩ | ⟨hshape, vs, rfl, h⟩)
    · rw [eq_of_shape (m := .toOne none) hshape his]
      exact .null
    · rw [eq_of_shape (m := .toOne (some i)) hshape his]
      exact .one h
    · rw [eq_of_shape (m := .toMany l.identifiers) hshape rfl]
      exact .many h

/-! ### Records -/

/-- The members of a record ask for a shape and for identifiers. -/
structure AskedBy (shape : Shape) (is : List Identifier) (ms : Members) : Prop where
  shape : (Members.get? "shape" ms).elim (shape = .toMany) (· = .string shape.name)
  identifiers : (Members.get? "identifiers" ms).elim (is = []) fun v =>
    ∃ vs, v = .array vs ∧ List.Forall₂ Identifier.HeldBy is vs

theorem name_injective : Function.Injective Shape.name := by
  intro s s' h
  cases s <;> cases s' <;> first | rfl | exact absurd h (by decide)

theorem ofJson_eq_ok_iff : Shape.ofJson v = .ok shape ↔ v = .string shape.name := by
  constructor
  · intro h
    unfold Shape.ofJson at h
    split at h
    · split_ifs at h with hone hmany
      · rw [hone, ← Except.ok.inj h]
      · rw [hmany, ← Except.ok.inj h]
      · cases h
    · cases h
  · rintro rfl
    cases shape <;> rfl

theorem itemsFrom_eq_ok_iff {n : Nat} {vs : List Json} :
    Checked.all (itemsFrom (Identifier.ofMembers (.record "ResourceIdentifier")) n vs) = .ok is ↔
      List.Forall₂ Identifier.HeldBy is vs := by
  rw [Checked.all_eq_ok_iff]
  induction vs generalizing n is with
  | nil => rw [itemsFrom, List.forall₂_nil_right_iff, List.forall₂_nil_right_iff]
  | cons v vs ih =>
    rw [itemsFrom, List.forall₂_cons_right_iff, List.forall₂_cons_right_iff]
    simp only [Checked.below_eq_ok_iff, Identifier.ofMembers_eq_ok_iff, ih]

theorem identifiersOf_eq_ok_iff {given : Option Json} : identifiersOf given = .ok is ↔
    given.elim (is = []) fun v => ∃ vs, v = .array vs ∧ List.Forall₂ Identifier.HeldBy is vs := by
  unfold identifiersOf
  split
  · exact ⟨fun h => (Except.ok.inj h).symm, fun h => congrArg Except.ok h.symm⟩
  · rw [itemsFrom_eq_ok_iff]
    simp
  · rename_i h
    refine iff_of_false nofun ?_
    rintro ⟨vs, rfl, -⟩
    exact h vs rfl

theorem ofRecord_eq_ok_iff : ofRecord v = .ok l ↔
    ∃ ms, v = .object ms ∧ AskedBy l.shape l.identifiers ms := by
  cases v with
  | object ms =>
    rw [ofRecord, Except.bind_eq_ok_iff]
    simp only [Checked.pair_eq_ok_iff, Checked.below_eq_ok_iff, identifiersOf_eq_ok_iff,
      check_eq_ok_iff, Prod.exists]
    constructor
    · rintro ⟨is, shape, ⟨his, h⟩, rfl, rfl⟩
      refine ⟨ms, rfl, ?_, his⟩
      split at h <;> rename_i hgiven <;> rw [hgiven]
      · exact (Except.ok.inj h).symm
      · exact ofJson_eq_ok_iff.1 h
    · rintro ⟨_, hms, h, his⟩
      obtain rfl := Json.object.inj hms
      refine ⟨_, l.shape, ⟨his, ?_⟩, rfl, rfl⟩
      split <;> rename_i hgiven <;> rw [hgiven] at h
      · exact congrArg Except.ok h.symm
      · exact ofJson_eq_ok_iff.2 h
  | null | bool | int | float | string | array => exact iff_of_false nofun nofun

/-- A record asks for one thing only. -/
theorem AskedBy.unique {shape' : Shape} {is' : List Identifier} {ms : Members}
    (h : AskedBy shape is ms) (h' : AskedBy shape' is' ms) : shape = shape' ∧ is = is' := by
  obtain ⟨hshape, his⟩ := h
  obtain ⟨hshape', his'⟩ := h'
  constructor
  · cases hgiven : Members.get? "shape" ms with
    | none =>
      rw [hgiven] at hshape hshape'
      exact Eq.trans hshape (Eq.symm hshape')
    | some v =>
      rw [hgiven] at hshape hshape'
      exact name_injective (Json.string.inj (Eq.trans (Eq.symm hshape) hshape'))
  · exact Except.ok.inj
      ((identifiersOf_eq_ok_iff.2 his).symm.trans (identifiersOf_eq_ok_iff.2 his'))

/-! ### All ways -/

/-- A way to a linkage. -/
inductive Route
  | one (x : Option Identifier.Like)
  | many (xs : List Identifier.Like)
  /-- The constructor. -/
  | fields (shape : Shape) (is : List Identifier)
  | record (v : Json)
  | relationshipToOne (type id : Json)
  | relationshipToMany (xs : List Identifier.Like)
  | relationshipRecord (v : Json)
  | primary (place : Pointer) (v : Json)

namespace Route

/-- The linkage that a way leads to, if it leads to one. -/
def linkage? : Route → Option Linkage
  | .one x => (ofOne x).toOption
  | .many xs => (ofMany xs).toOption
  | .fields shape is => (check shape is).toOption
  | .record v => (ofRecord v).toOption
  | .relationshipToOne type id => ((Relationship.ofOne type id).map (·.data)).toOption
  | .relationshipToMany xs => ((Relationship.ofMany xs).map (·.data)).toOption
  | .relationshipRecord v => ((Relationship.ofRecord v).map (·.data)).toOption
  | .primary place v => (ofPrimary place v).toOption

/-- A way asks for a shape and for identifiers in order. -/
def Asks : Route → Shape → List Identifier → Prop
  | .one x, shape, is => shape = .toOne ∧ List.Forall₂ Identifier.NamedBy is x.toList
  | .many xs, shape, is | .relationshipToMany xs, shape, is =>
    shape = .toMany ∧ List.Forall₂ Identifier.NamedBy is xs
  | .fields shape is, shape', is' => shape' = shape ∧ is' = is
  | .record v, shape, is => ∃ ms, v = .object ms ∧ AskedBy shape is ms
  | .relationshipToOne type id, shape, is =>
    shape = .toOne ∧ ∃ i : Identifier, type = .string i.type ∧ id = .string i.id ∧ is = [i]
  | .relationshipRecord v, shape, is => ∃ ms data, v = .object ms ∧
    Members.get? "data" ms = some (.object data) ∧ AskedBy shape is data
  | .primary _ v, shape, is =>
    shape = .toOne ∧ v = .null ∧ is = [] ∨
    shape = .toOne ∧ (∃ i : Identifier, i.SpelledBy v ∧ is = [i]) ∨
    shape = .toMany ∧ ∃ vs, v = .array vs ∧ List.Forall₂ Identifier.SpelledBy is vs

end Route

theorem ofOne_array_eq_ok_iff {type id : Json} :
    ofOne (some (.value (.array [type, id]))) = .ok l ↔ l.shape = .toOne ∧
      ∃ i : Identifier, type = .string i.type ∧ id = .string i.id ∧ l.identifiers = [i] := by
  have hnamed : ∀ i : Identifier, i.NamedBy (.value (.array [type, id])) ↔
      type = .string i.type ∧ id = .string i.id := by
    intro i
    constructor
    · intro h
      cases h with
      | value h =>
        have hparts := Except.ok.inj h
        exact ⟨List.head_eq_of_cons_eq hparts,
          List.head_eq_of_cons_eq (List.tail_eq_of_cons_eq hparts)⟩
    · rintro ⟨rfl, rfl⟩
      exact .value rfl
  rw [ofOne_eq_ok_iff, Option.toList_some, List.forall₂_cons_right_iff]
  simp only [List.forall₂_nil_right_iff, hnamed]
  refine and_congr_right fun _ => ⟨?_, ?_⟩
  · rintro ⟨i, _, ⟨htype, hid⟩, rfl, his⟩
    exact ⟨i, htype, hid, his⟩
  · rintro ⟨i, htype, hid, his⟩
    exact ⟨i, [], ⟨htype, hid⟩, rfl, his⟩

theorem map_data_map_mk {ε : Type} (x : Except ε Linkage) :
    (x.map Relationship.mk).map (·.data) = x := by
  cases x <;> rfl

theorem map_data_ofRecord_eq_ok_iff : (Relationship.ofRecord v).map (·.data) = .ok l ↔
    ∃ ms data, v = .object ms ∧ Members.get? "data" ms = some (.object data) ∧
      AskedBy l.shape l.identifiers data := by
  cases v with
  | object ms =>
    rw [Relationship.ofRecord, map_data_map_mk, Checked.below_eq_ok_iff]
    cases hdata : Members.get? "data" ms with
    | none =>
      refine iff_of_false nofun ?_
      rintro ⟨_, data, hms, hget, -⟩
      obtain rfl := Json.object.inj hms
      rw [hdata] at hget
      cases hget
    | some v =>
      refine ofRecord_eq_ok_iff.trans ⟨?_, ?_⟩
      · rintro ⟨data, rfl, hasked⟩
        exact ⟨ms, data, rfl, hdata, hasked⟩
      · rintro ⟨_, data, hms, hget, hasked⟩
        obtain rfl := Json.object.inj hms
        exact ⟨data, Option.some.inj (hdata.symm.trans hget), hasked⟩
  | null | bool | int | float | string | array => exact iff_of_false nofun nofun

/-- **A way leads to the linkage that it asks for**, if there is one. -/
theorem linkage?_eq_some_iff {route : Route} :
    route.linkage? = some l ↔ route.Asks l.shape l.identifiers := by
  cases route with
  | one x => exact Except.toOption_eq_some_iff.trans ofOne_eq_ok_iff
  | many xs => exact Except.toOption_eq_some_iff.trans ofMany_eq_ok_iff
  | fields shape is => exact Except.toOption_eq_some_iff.trans check_eq_ok_iff
  | record v => exact Except.toOption_eq_some_iff.trans ofRecord_eq_ok_iff
  | relationshipToOne type id =>
    rw [Route.linkage?, Relationship.ofOne, map_data_map_mk]
    exact Except.toOption_eq_some_iff.trans ofOne_array_eq_ok_iff
  | relationshipToMany xs =>
    rw [Route.linkage?, Relationship.ofMany, map_data_map_mk]
    exact Except.toOption_eq_some_iff.trans ofMany_eq_ok_iff
  | relationshipRecord v =>
    exact Except.toOption_eq_some_iff.trans map_data_ofRecord_eq_ok_iff
  | primary place v =>
    exact Except.toOption_eq_some_iff.trans (ofPrimary_eq_ok_iff.trans spelledBy_iff)

/-- Two identifiers or more never make a to-one linkage. -/
theorem linkage?_eq_none {route : Route} (h : route.Asks .toOne is) (his : 2 ≤ is.length) :
    route.linkage? = none := by
  rw [Option.eq_none_iff_forall_ne_some]
  intro l hl
  have hasks := linkage?_eq_some_iff.1 hl
  have hlength : l.shape = .toOne → l.identifiers = is → False := fun hshape hsame => by
    have hle := length_le_one_of_shape hshape
    rw [length, hsame] at hle
    omega
  cases route with
  | one x =>
    have hlength := h.2.length_eq
    have hle : x.toList.length ≤ 1 := by cases x <;> simp
    omega
  | many xs | relationshipToMany xs => cases h.1
  | fields shape js => exact hlength (hasks.1.trans h.1.symm) (hasks.2.trans h.2.symm)
  | record v =>
    obtain ⟨ms, rfl, h⟩ := h
    obtain ⟨_, hms, hasks⟩ := hasks
    obtain rfl := Json.object.inj hms
    exact hlength (hasks.unique h).1 (hasks.unique h).2
  | relationshipToOne type id =>
    obtain ⟨-, i, -, -, rfl⟩ := h
    exact absurd his (by simp)
  | relationshipRecord v =>
    obtain ⟨ms, data, rfl, hdata, h⟩ := h
    obtain ⟨_, data', hms, hdata', hasks⟩ := hasks
    obtain rfl := Json.object.inj hms
    obtain rfl := Json.object.inj (Option.some.inj (hdata.symm.trans hdata'))
    exact hlength (hasks.unique h).1 (hasks.unique h).2
  | primary place v =>
    rcases h with ⟨-, -, rfl⟩ | ⟨-, i, -, rfl⟩ | ⟨hshape, -⟩
    · exact absurd his (by simp)
    · exact absurd his (by simp)
    · cases hshape

end Linkage

/-! ### What a linkage tells -/

/-- The object of an identifier with nothing but its type and its id. -/
def Identifier.bare : Json → Json
  | .object ms => .object [("type", (Members.get? "type" ms).getD .null),
      ("id", (Members.get? "id" ms).getD .null)]
  | v => v

theorem Identifier.toJson_eq_bare {i : Identifier} {v : Json} (h : i.SpelledBy v) :
    i.toJson = bare v := by
  obtain ⟨ms, rfl, hms⟩ := h
  rw [bare, hms.type, hms.id]
  rfl

namespace Linkage

variable {l : Linkage} {v : Json}

/-- The value of a linkage whose identifiers have nothing but a type and an id. -/
def bare : Json → Json
  | .array vs => .array (vs.map Identifier.bare)
  | v => Identifier.bare v

theorem toJson_eq_bare (h : l.SpelledBy v) : l.toJson = bare v := by
  cases h with
  | null => rfl
  | one h =>
    obtain ⟨ms, rfl, -⟩ := id h
    exact Identifier.toJson_eq_bare h
  | many h =>
    refine congrArg Json.array ?_
    induction h with
    | nil => rfl
    | cons hi _ ih => exact congrArg₂ List.cons (Identifier.toJson_eq_bare hi) ih

/-- The places of the identifiers of a to-many linkage have different pointers. -/
theorem nodup_places (place : Pointer) (is : List Identifier) :
    (((toMany is).places place).map Pointer.text).Nodup := by
  rw [places, List.map_map]
  refine List.Nodup.map (fun m n h => ?_) List.nodup_range
  have hplace : place ++ [Text.ofNat m] = place ++ [Text.ofNat n] := Pointer.text_injective h
  exact Text.ofNat_injective (List.singleton_inj.1 (List.append_cancel_left hplace))

/-- The linkage is told completely: its wire form, its places and its reading leave out none of its
identifiers. -/
structure Faithful (l : Linkage) : Prop where
  length_le : l.shape = .toOne → l.length ≤ 1
  toJson_one : l.shape = .toOne → l.identifiers = [] ∧ l.toJson = .null ∨
    ∃ i, l.identifiers = [i] ∧ l.toJson = i.toJson
  toJson_many : l.shape = .toMany → l.toJson = .array (l.identifiers.map Identifier.toJson)
  length_places : ∀ place, (l.places place).length = l.length
  nodup_places : ∀ place, l.shape = .toMany → ((l.places place).map Pointer.text).Nodup
  read_toJson : ∀ place, ofPrimary place l.toJson = .ok l ↔ ∀ i ∈ l.identifiers, i.Complete
  toJson_read : ∀ place v, ofPrimary place v = .ok l → l.toJson = bare v

theorem faithful (l : Linkage) : l.Faithful where
  length_le := length_le_one_of_shape
  toJson_one h := by
    cases l with
    | toOne i =>
      cases i with
      | none => exact .inl ⟨rfl, rfl⟩
      | some i => exact .inr ⟨i, rfl, rfl⟩
    | toMany is => cases h
  toJson_many h := by
    cases l with
    | toOne i => cases h
    | toMany is => rfl
  length_places place := length_places place l
  nodup_places place h := by
    cases l with
    | toOne i => cases h
    | toMany is => exact nodup_places place is
  read_toJson place := by
    rw [ofPrimary_toJson, Except.map_eq_ok_iff, ← validateItems_eq_ok_iff place]
    exact ⟨fun ⟨_, h, _⟩ => h, fun h => ⟨(), h, rfl⟩⟩
  toJson_read place v h := toJson_eq_bare (ofPrimary_eq_ok_iff.1 h)

/-- **Every way to a linkage leads to the one that it asks for**, which is told completely, and no
way leads to a to-one linkage of several identifiers. -/
theorem obtained_faithfully (route : Route) :
    (∀ l, route.linkage? = some l → route.Asks l.shape l.identifiers ∧ l.Faithful) ∧
      ∀ is, route.Asks .toOne is → 2 ≤ is.length → route.linkage? = none :=
  ⟨fun l h => ⟨linkage?_eq_some_iff.1 h, l.faithful⟩, fun _ => linkage?_eq_none⟩

/-- A record with two tags makes a to-many linkage, unless it asks for a to-one linkage. -/
theorem obtained_faithfully_tags :
    ∃ (tags : Json) (l : Linkage), tags = .array [Identifier.toJson ⟨"tag", "a"⟩,
        .object [("id", .string "b"), ("type", .string "tag"), ("meta", .null)]] ∧
      l = .toMany [⟨"tag", "a"⟩, ⟨"tag", "b"⟩] ∧
      (Route.record (.object [("identifiers", tags)])).linkage? = some l ∧ l.Faithful ∧
      (Route.record (.object [("identifiers", tags), ("shape", .string "to-one")])).linkage? =
        none := by
  obtain ⟨tags, htags⟩ : ∃ tags : Json, tags = .array [Identifier.toJson ⟨"tag", "a"⟩,
      .object [("id", .string "b"), ("type", .string "tag"), ("meta", .null)]] := ⟨_, rfl⟩
  have hmany : (Route.record (.object [("identifiers", tags)])).linkage? =
      some (.toMany [⟨"tag", "a"⟩, ⟨"tag", "b"⟩]) := by
    rw [htags]
    decide
  have hheld : List.Forall₂ Identifier.HeldBy [⟨"tag", "a"⟩, ⟨"tag", "b"⟩]
      [Identifier.toJson ⟨"tag", "a"⟩,
        .object [("id", .string "b"), ("type", .string "tag"), ("meta", .null)]] :=
    .cons ⟨_, rfl, rfl, rfl⟩ (.cons ⟨_, rfl, rfl, rfl⟩ .nil)
  have hone : (Route.record (.object [("identifiers", tags), ("shape", .string "to-one")])).Asks
      .toOne [⟨"tag", "a"⟩, ⟨"tag", "b"⟩] := ⟨_, rfl, rfl, _, htags, hheld⟩
  exact ⟨tags, _, htags, rfl, hmany, ((obtained_faithfully _).1 _ hmany).2,
    (obtained_faithfully _).2 _ hone (by decide)⟩

end Linkage

end JsonApi
