import JsonApi.Json.Writer

/-!
# The leaves of a value

The numbers and texts of a value, at whatever depth they stand.  A value is `Writable` when none
of its numbers is without a JSON form, which is when the search for such a number fails
(`unwritable_eq_none_iff`).  Changing the texts of a value changes nothing but its leaves that are
texts (`leaves_mapTexts`).
-/

namespace JsonApi

namespace Json

/-- A number, a string or a member name of a value. -/
inductive Leaf
  | int (n : Int)
  | float (x : Double)
  | text (t : Text)

mutual

/-- The numbers and texts of a value in the order of writing. -/
def leaves : Json → List Leaf
  | .int n => [.int n]
  | .float x => [.float x]
  | .string t => [.text t]
  | .array vs => leavesOfItems vs
  | .object ms => leavesOfMembers ms
  | _ => []

/-- The numbers and texts of items. -/
def leavesOfItems : List Json → List Leaf
  | [] => []
  | v :: vs => leaves v ++ leavesOfItems vs

/-- The numbers and texts of members, the name before the value. -/
def leavesOfMembers : List (Text × Json) → List Leaf
  | [] => []
  | (name, v) :: ms => .text name :: leaves v ++ leavesOfMembers ms

end

namespace Leaf

/-- Why a number has no JSON form. -/
def unwritable? : Leaf → Option Unwritable
  | .int n => if 10 ^ digitLimit ≤ n.natAbs then some .tooManyDigits else none
  | .float x => if x.isFinite then none else some (.notFinite x)
  | .text _ => none

/-- The text of a leaf that is one. -/
def points : Leaf → Text
  | .text t => t
  | _ => []

theorem unwritable_int {n : Int} : (int n).unwritable? = none ↔ n.natAbs < 10 ^ digitLimit := by
  rw [unwritable?, ite_eq_right_iff, ← Nat.not_le]
  simp

theorem unwritable_float {x : Double} : (float x).unwritable? = none ↔ x.isFinite = true := by
  rw [unwritable?]
  cases x.isFinite <;> simp

end Leaf

/-- A value whose numbers all have a JSON form. -/
def Writable (v : Json) : Prop := ∀ x ∈ v.leaves, x.unwritable? = none

/-- A value whose texts hold no halves of surrogate pairs. -/
def Scalar (v : Json) : Prop := ∀ x ∈ v.leaves, x.points.isScalar = true

/-- A value that has bytes: its numbers have a JSON form and its texts a UTF-8 form. -/
def Encodable (v : Json) : Prop := v.Writable ∧ v.Scalar

mutual

theorem unwritable_eq_findSome (v : Json) :
    v.unwritable? = v.leaves.findSome? Leaf.unwritable? := by
  match v with
  | .null | .bool _ | .string _ => rfl
  | .int n =>
    rw [unwritable?, leaves, List.findSome?_singleton, Leaf.unwritable?]
  | .float x =>
    rw [unwritable?, leaves, List.findSome?_singleton, Leaf.unwritable?]
  | .array vs =>
    rw [unwritable?, leaves, unwritableItem_eq_findSome vs]
  | .object ms =>
    rw [unwritable?, leaves, unwritableMember_eq_findSome ms]

theorem unwritableItem_eq_findSome (vs : List Json) :
    unwritableItem? vs = (leavesOfItems vs).findSome? Leaf.unwritable? := by
  match vs with
  | [] => rfl
  | v :: vs =>
    rw [unwritableItem?, leavesOfItems, List.findSome?_append, unwritable_eq_findSome v,
      unwritableItem_eq_findSome vs]

theorem unwritableMember_eq_findSome (ms : List (Text × Json)) :
    unwritableMember? ms = (leavesOfMembers ms).findSome? Leaf.unwritable? := by
  match ms with
  | [] => rfl
  | (name, v) :: ms =>
    rw [unwritableMember?, leavesOfMembers, List.cons_append, List.findSome?_cons_of_isNone rfl,
      List.findSome?_append, unwritable_eq_findSome v, unwritableMember_eq_findSome ms]

end

theorem unwritable_eq_none_iff {v : Json} : v.unwritable? = none ↔ v.Writable := by
  rw [unwritable_eq_findSome, List.findSome?_eq_none_iff, Writable]

/-! ### The leaves of containers -/

theorem mem_leavesOfItems {x : Leaf} {vs : List Json} :
    x ∈ leavesOfItems vs ↔ ∃ v ∈ vs, x ∈ v.leaves := by
  induction vs with
  | nil => simp [leavesOfItems]
  | cons v vs ih => simp [leavesOfItems, ih]

theorem mem_leavesOfMembers {x : Leaf} {ms : List (Text × Json)} :
    x ∈ leavesOfMembers ms ↔ ∃ m ∈ ms, x = .text m.1 ∨ x ∈ m.2.leaves := by
  induction ms with
  | nil => simp [leavesOfMembers]
  | cons m ms ih => simp [leavesOfMembers, ih, or_assoc]

theorem encodable_array {vs : List Json} : (array vs).Encodable ↔ ∀ v ∈ vs, v.Encodable := by
  constructor
  · rintro ⟨hwritable, hscalar⟩ v hv
    exact ⟨fun x hx => hwritable x (mem_leavesOfItems.2 ⟨v, hv, hx⟩),
      fun x hx => hscalar x (mem_leavesOfItems.2 ⟨v, hv, hx⟩)⟩
  · intro h
    refine ⟨fun x hx => ?_, fun x hx => ?_⟩ <;> obtain ⟨v, hv, hx⟩ := mem_leavesOfItems.1 hx
    · exact (h v hv).1 x hx
    · exact (h v hv).2 x hx

theorem encodable_object {ms : List (Text × Json)} :
    (object ms).Encodable ↔ ∀ m ∈ ms, m.1.isScalar = true ∧ m.2.Encodable := by
  constructor
  · rintro ⟨hwritable, hscalar⟩ m hm
    exact ⟨hscalar _ (mem_leavesOfMembers.2 ⟨m, hm, .inl rfl⟩),
      fun x hx => hwritable x (mem_leavesOfMembers.2 ⟨m, hm, .inr hx⟩),
      fun x hx => hscalar x (mem_leavesOfMembers.2 ⟨m, hm, .inr hx⟩)⟩
  · intro h
    refine ⟨fun x hx => ?_, fun x hx => ?_⟩ <;>
      obtain ⟨m, hm, rfl | hx⟩ := mem_leavesOfMembers.1 hx
    · rfl
    · exact (h m hm).2.1 x hx
    · exact (h m hm).1
    · exact (h m hm).2.2 x hx

theorem encodable_string {t : Text} : (string t).Encodable ↔ t.isScalar = true := by
  simp [Encodable, Writable, Scalar, leaves, Leaf.unwritable?, Leaf.points]

theorem encodable_null : null.Encodable := ⟨List.forall_mem_nil _, List.forall_mem_nil _⟩

theorem writable_int {n : Int} : (int n).Writable ↔ n.natAbs < 10 ^ digitLimit := by
  rw [Writable, leaves, List.forall_mem_singleton, Leaf.unwritable_int]

theorem writable_float {x : Double} : (float x).Writable ↔ x.isFinite = true := by
  rw [Writable, leaves, List.forall_mem_singleton, Leaf.unwritable_float]

theorem writable_array_cons {v : Json} {vs : List Json} :
    (array (v :: vs)).Writable ↔ v.Writable ∧ (array vs).Writable := by
  simp only [Writable, leaves, leavesOfItems, List.forall_mem_append]

theorem writable_object_cons {name : Text} {v : Json} {ms : List (Text × Json)} :
    (object ((name, v) :: ms)).Writable ↔ v.Writable ∧ (object ms).Writable := by
  simp only [Writable, leaves, leavesOfMembers, List.cons_append, List.forall_mem_cons,
    List.forall_mem_append, Leaf.unwritable?, true_and]

/-! ### Values with other texts -/

mutual

/-- A value with each of its texts changed. -/
def mapTexts (f : Text → Text) : Json → Json
  | .string t => .string (f t)
  | .array vs => .array (mapTextsOfItems f vs)
  | .object ms => .object (mapTextsOfMembers f ms)
  | v => v

/-- Items with each of their texts changed. -/
def mapTextsOfItems (f : Text → Text) : List Json → List Json
  | [] => []
  | v :: vs => mapTexts f v :: mapTextsOfItems f vs

/-- Members with each of their texts changed. -/
def mapTextsOfMembers (f : Text → Text) : List (Text × Json) → List (Text × Json)
  | [] => []
  | (name, v) :: ms => (f name, mapTexts f v) :: mapTextsOfMembers f ms

end

/-- A leaf with its text changed, if it is one. -/
def Leaf.mapText (f : Text → Text) : Leaf → Leaf
  | .text t => .text (f t)
  | x => x

mutual

theorem leaves_mapTexts (f : Text → Text) (v : Json) :
    (mapTexts f v).leaves = v.leaves.map (Leaf.mapText f) := by
  match v with
  | .null | .bool _ | .int _ | .float _ | .string _ => rfl
  | .array vs => rw [mapTexts, leaves, leaves, leavesOfItems_mapTexts f vs]
  | .object ms => rw [mapTexts, leaves, leaves, leavesOfMembers_mapTexts f ms]

theorem leavesOfItems_mapTexts (f : Text → Text) (vs : List Json) :
    leavesOfItems (mapTextsOfItems f vs) = (leavesOfItems vs).map (Leaf.mapText f) := by
  match vs with
  | [] => rfl
  | v :: vs =>
    rw [mapTextsOfItems, leavesOfItems, leavesOfItems, List.map_append, leaves_mapTexts f v,
      leavesOfItems_mapTexts f vs]

theorem leavesOfMembers_mapTexts (f : Text → Text) (ms : List (Text × Json)) :
    leavesOfMembers (mapTextsOfMembers f ms) = (leavesOfMembers ms).map (Leaf.mapText f) := by
  match ms with
  | [] => rfl
  | (name, v) :: ms =>
    rw [mapTextsOfMembers, leavesOfMembers, leavesOfMembers, List.map_append, List.map_cons,
      leaves_mapTexts f v, leavesOfMembers_mapTexts f ms]
    rfl

end

mutual

/-- A change that leaves the texts of a value alone leaves the value alone. -/
theorem mapTexts_of_forall {f : Text → Text} (v : Json) (h : ∀ t, .text t ∈ v.leaves → f t = t) :
    mapTexts f v = v := by
  match v with
  | .null | .bool _ | .int _ | .float _ => rfl
  | .string t => rw [mapTexts, h t List.mem_cons_self]
  | .array vs => rw [mapTexts, mapTextsOfItems_of_forall vs h]
  | .object ms => rw [mapTexts, mapTextsOfMembers_of_forall ms h]

theorem mapTextsOfItems_of_forall {f : Text → Text} (vs : List Json)
    (h : ∀ t, .text t ∈ leavesOfItems vs → f t = t) : mapTextsOfItems f vs = vs := by
  match vs with
  | [] => rfl
  | v :: vs =>
    rw [mapTextsOfItems, mapTexts_of_forall v fun t ht => h t (List.mem_append_left _ ht),
      mapTextsOfItems_of_forall vs fun t ht => h t (List.mem_append_right _ ht)]

theorem mapTextsOfMembers_of_forall {f : Text → Text} (ms : List (Text × Json))
    (h : ∀ t, .text t ∈ leavesOfMembers ms → f t = t) : mapTextsOfMembers f ms = ms := by
  match ms with
  | [] => rfl
  | (name, v) :: ms =>
    rw [mapTextsOfMembers, h name List.mem_cons_self,
      mapTexts_of_forall v fun t ht => h t (List.mem_cons_of_mem _ (List.mem_append_left _ ht)),
      mapTextsOfMembers_of_forall ms fun t ht =>
        h t (List.mem_cons_of_mem _ (List.mem_append_right _ ht))]

end

theorem mapTexts_id (v : Json) : mapTexts (fun t => t) v = v :=
  mapTexts_of_forall v fun _ _ => rfl

theorem names_mapTextsOfMembers (f : Text → Text) (ms : List (Text × Json)) :
    Members.names (mapTextsOfMembers f ms) = (Members.names ms).map f := by
  induction ms with
  | nil => rfl
  | cons m ms ih => exact congrArg (f m.1 :: ·) ih

/-! ### Integers within the limit -/

/-- A value whose integers have a JSON form. -/
def Bounded (v : Json) : Prop := ∀ n, .int n ∈ v.leaves → n.natAbs < 10 ^ digitLimit

theorem bounded_of_writable {v : Json} (h : v.Writable) : v.Bounded :=
  fun _ hn => Leaf.unwritable_int.1 (h _ hn)

theorem bounded_int {n : Int} : (int n).Bounded ↔ n.natAbs < 10 ^ digitLimit := by
  simp [Bounded, leaves]

theorem bounded_string {t : Text} : (string t).Bounded := by
  simp [Bounded, leaves]

theorem bounded_array_cons {v : Json} {vs : List Json} :
    (array (v :: vs)).Bounded ↔ v.Bounded ∧ (array vs).Bounded := by
  simp only [Bounded, leaves, leavesOfItems, List.mem_append, or_imp, forall_and]

theorem bounded_object_cons {name : Text} {v : Json} {ms : List (Text × Json)} :
    (object ((name, v) :: ms)).Bounded ↔ v.Bounded ∧ (object ms).Bounded := by
  simp [Bounded, leaves, leavesOfMembers, or_imp, forall_and]

end Json

end JsonApi
