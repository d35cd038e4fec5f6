import JsonApi.Proofs.Attributes
import Mathlib.Data.List.Nodup

/-!
# What attributes keep of a value

A value in the shape of JSON is taken as it is, except that members are left out whose names are
bookkeeping.

* `Json.kept` : what is left of a value;
* `Draft.ofValue_toValue` : the draft of a value is what is kept of it;
* `Draft.settle_toValue` : which is written as it is;
* `Attributes.ofValue_toValue` : so the attributes of a value are those of what is kept of it.
-/

namespace JsonApi

/-! ### Members that are kept -/

namespace Json

mutual

/-- A value without the members, at whatever depth, whose names are bookkeeping. -/
def kept : Json → Json
  | .array vs => .array (keptItems vs)
  | .object ms => .object (keptMembers ms)
  | v => v

/-- Items without the members whose names are bookkeeping. -/
def keptItems : List Json → List Json
  | [] => []
  | v :: vs => kept v :: keptItems vs

/-- Members without those whose names are bookkeeping. -/
def keptMembers : List (Text × Json) → List (Text × Json)
  | [] => []
  | (name, v) :: ms =>
    if Draft.isBookkeeping name then keptMembers ms else (name, kept v) :: keptMembers ms

end

theorem names_keptMembers (ms : List (Text × Json)) :
    Members.names (keptMembers ms) = (Members.names ms).filter (!Draft.isBookkeeping ·) := by
  induction ms with
  | nil => rfl
  | cons m ms ih =>
    obtain ⟨name, v⟩ := m
    rw [keptMembers]
    by_cases h : Draft.isBookkeeping name = true <;> simp_all [Members.names]

mutual

theorem leaves_kept (v : Json) : v.kept.leaves ⊆ v.leaves := by
  match v with
  | .null | .bool _ | .int _ | .float _ | .string _ => exact List.Subset.refl _
  | .array vs => exact leavesOfItems_kept vs
  | .object ms => exact leavesOfMembers_kept ms

theorem leavesOfItems_kept (vs : List Json) : leavesOfItems (keptItems vs) ⊆ leavesOfItems vs := by
  match vs with
  | [] => exact List.Subset.refl _
  | v :: vs =>
    exact List.append_subset.2
      ⟨List.subset_append_of_subset_left _ (leaves_kept v),
        List.subset_append_of_subset_right _ (leavesOfItems_kept vs)⟩

theorem leavesOfMembers_kept (ms : List (Text × Json)) :
    leavesOfMembers (keptMembers ms) ⊆ leavesOfMembers ms := by
  match ms with
  | [] => exact List.Subset.refl _
  | (name, v) :: ms =>
    have hms := leavesOfMembers_kept ms
    rw [keptMembers]
    split_ifs
    · exact List.subset_cons_of_subset _ (List.subset_append_of_subset_right _ hms)
    · exact List.cons_subset_cons _ (List.append_subset.2
        ⟨List.subset_append_of_subset_left _ (leaves_kept v),
          List.subset_append_of_subset_right _ hms⟩)

end

mutual

theorem distinct_kept (v : Json) (h : v.Distinct) : v.kept.Distinct := by
  match v with
  | .null | .bool _ | .int _ | .float _ | .string _ => exact h
  | .array vs => exact .array (distinct_keptItems vs (distinct_array.1 h))
  | .object ms =>
    obtain ⟨hnames, hvalues⟩ := distinct_object.1 h
    refine .object ?_ (distinct_keptMembers ms hvalues)
    rw [names_keptMembers]
    exact hnames.filter _

theorem distinct_keptItems (vs : List Json) (h : ∀ v ∈ vs, v.Distinct) :
    ∀ v ∈ keptItems vs, v.Distinct := by
  match vs with
  | [] => exact h
  | v :: vs =>
    obtain ⟨hv, hvs⟩ := List.forall_mem_cons.1 h
    exact List.forall_mem_cons.2 ⟨distinct_kept v hv, distinct_keptItems vs hvs⟩

theorem distinct_keptMembers (ms : List (Text × Json)) (h : ∀ m ∈ ms, m.2.Distinct) :
    ∀ m ∈ keptMembers ms, m.2.Distinct := by
  match ms with
  | [] => exact h
  | (name, v) :: ms =>
    obtain ⟨hv, hms⟩ := List.forall_mem_cons.1 h
    rw [keptMembers]
    split_ifs
    · exact distinct_keptMembers ms hms
    · exact List.forall_mem_cons.2 ⟨distinct_kept v hv, distinct_keptMembers ms hms⟩

end

end Json

/-! ### The draft of a value in the shape of JSON -/

theorem Value.same_text_of_ne {a b : Text} (h : a ≠ b) : same (.text a) (.text b) = false := by
  rw [same]
  exact beq_false_of_ne h

namespace Draft

open Json in
mutual

/-- **The draft of a value** in the shape of JSON is what is kept of it. -/
theorem ofValue_toValue (v : Json) (h : v.Distinct) : ofValue v.toValue = .ok v.kept.toValue := by
  match v with
  | .null | .bool _ | .int _ | .float _ | .string _ => rfl
  | .array vs =>
    rw [toValue, ofValue, ofItems_toValues vs (distinct_array.1 h)]
    rfl
  | .object ms =>
    obtain ⟨hnames, hvalues⟩ := distinct_object.1 h
    rw [toValue, ofValue, ofEntries_toEntries ms hnames hvalues [] (List.forall_mem_nil _)]
    rfl

theorem ofItems_toValues (vs : List Json) (h : ∀ v ∈ vs, v.Distinct) :
    ofItems (itemsToValues vs) = .ok (itemsToValues (keptItems vs)) := by
  match vs with
  | [] => rfl
  | v :: vs =>
    obtain ⟨hv, hvs⟩ := List.forall_mem_cons.1 h
    rw [itemsToValues, ofItems, ofValue_toValue v hv, ofItems_toValues vs hvs]
    rfl

theorem ofEntries_toEntries (ms : List (Text × Json)) (hnames : (Members.names ms).Nodup)
    (h : ∀ m ∈ ms, m.2.Distinct) (before : List (Value × Value))
    (hbefore : ∀ e ∈ before, ∀ name ∈ Members.names ms, e.1.same (.text name) = false) :
    ofEntries before (membersToEntries ms) =
      .ok (before ++ membersToEntries (keptMembers ms)) := by
  match ms with
  | [] => rw [membersToEntries, ofEntries, keptMembers, membersToEntries, List.append_nil]
  | (name, v) :: ms =>
    obtain ⟨hv, hvalues⟩ := List.forall_mem_cons.1 h
    obtain ⟨hname, hnodup⟩ := List.nodup_cons.1 hnames
    have hrest : ∀ e ∈ before, ∀ n ∈ Members.names ms, e.1.same (.text n) = false :=
      fun e he n hn => hbefore e he n (List.mem_cons_of_mem _ hn)
    rw [membersToEntries, ofEntries, keptMembers]
    split_ifs
    · exact ofEntries_toEntries ms hnodup hvalues before hrest
    · -- the name is none of those before it, so its draft gets a place at the end
      have hput : Entries.put Value.same (.text name) v.kept.toValue before =
          before ++ [(.text name, v.kept.toValue)] :=
        Entries.put_of_forall fun e he => hbefore e he name List.mem_cons_self
      have hnew : ∀ e ∈ before ++ [(Value.text name, v.kept.toValue)],
          ∀ n ∈ Members.names ms, e.1.same (.text n) = false := by
        refine List.forall_mem_append.2 ⟨hrest, List.forall_mem_singleton.2 fun n hn => ?_⟩
        refine Value.same_text_of_ne ?_
        rintro rfl
        exact hname hn
      rw [ofValue_toValue v hv, Except.ok_bind, hput,
        ofEntries_toEntries ms hnodup hvalues _ hnew, List.append_assoc]
      rfl

end

/-- The error for a number that has no JSON form. -/
def refusal : Json.Unwritable → Attributes.Error
  | .tooManyDigits => .coding (.unwritable .tooManyDigits)
  | .notFinite _ => .coding (.unwritable (.notFinite none))

/-- A value, unless a number in it has no JSON form. -/
def guarded {α : Type} (unwritable : Option Json.Unwritable) (x : α) :
    Except Attributes.Error α :=
  match unwritable with
  | none => .ok x
  | some e => .error (refusal e)

theorem guarded_eq_ok_iff {α : Type} {unwritable : Option Json.Unwritable} {x y : α} :
    guarded unwritable x = .ok y ↔ unwritable = none ∧ x = y := by
  cases unwritable <;> simp [guarded]

open Json in
mutual

/-- **A value in the shape of JSON is written as it is**, unless a number in it has no JSON form. -/
theorem settle_toValue (v : Json) : settle v.toValue = guarded v.unwritable? v := by
  match v with
  | .null | .bool _ | .string _ => rfl
  | .int n =>
    rw [toValue, settle, settleInt, unwritable?]
    split_ifs <;> rfl
  | .float x =>
    rw [toValue, settle, settleDouble, unwritable?]
    split_ifs <;> rfl
  | .array vs =>
    rw [toValue, settle, settleItems_toValues vs, unwritable?]
    cases unwritableItem? vs <;> rfl
  | .object ms =>
    rw [toValue, settle, settleEntries_toEntries ms, unwritable?]
    cases unwritableMember? ms <;> rfl

theorem settleItems_toValues (vs : List Json) :
    settleItems (itemsToValues vs) = guarded (unwritableItem? vs) vs := by
  match vs with
  | [] => rfl
  | v :: vs =>
    rw [itemsToValues, settleItems, settle_toValue v, settleItems_toValues vs, unwritableItem?]
    cases v.unwritable? <;> cases unwritableItem? vs <;> rfl

theorem settleEntries_toEntries (ms : List (Text × Json)) :
    settleEntries (membersToEntries ms) = guarded (unwritableMember? ms) ms := by
  match ms with
  | [] => rfl
  | (text, v) :: ms =>
    rw [membersToEntries, settleEntries, name, settle_toValue v, settleEntries_toEntries ms,
      unwritableMember?]
    cases v.unwritable? <;> cases unwritableMember? ms <;> rfl

end

end Draft

/-! ### The attributes of what is kept -/

/-- Whether a value is none at all or a payload; all others are brought into the shape of JSON. -/
def Value.isPayload : Value → Bool
  | .null | .text _ | .bytes _ => true
  | _ => false

namespace Attributes

variable {v : Json}

theorem ofValue_of_isPayload {v : Value} (h : v.isPayload = false) :
    ofValue v = (do
      let j ← Draft.settle (← Draft.ofValue v)
      return some (← (ofJson j).mapError .coding)) := by
  cases v with
  | null => cases h
  | text t => cases h
  | bytes bs => cases h
  | _ => rfl

theorem ofJson_of_error {e : CodingError} (h : v.toBytes .compact = .error e) :
    ofJson v = .error e := by
  unfold ofJson
  split
  · rename_i hwritten
    exact congrArg Except.error (Except.error.inj (hwritten.symm.trans h))
  · rename_i hwritten
    rw [h] at hwritten
    cases hwritten

theorem toBytes_of_unwritable {e : Json.Unwritable} (h : v.unwritable? = some e) :
    (v.toBytes .compact).mapError Error.coding = .error (Draft.refusal e) := by
  rw [Json.toBytes, Json.render, h]
  cases e <;> rfl

/-- **The attributes of a value** in the shape of JSON are those of what is kept of it. -/
theorem ofValue_toValue (hv : v.Distinct) (hnull : v ≠ .null) (htext : ∀ t, v ≠ .string t) :
    ofValue v.toValue = ((ofJson v.kept).mapError .coding).map some := by
  have hvalue : v.toValue.isPayload = false := by
    cases v with
    | null => exact absurd rfl hnull
    | string t => exact absurd rfl (htext t)
    | _ => rfl
  rw [ofValue_of_isPayload hvalue, Draft.ofValue_toValue v hv, Except.ok_bind, Draft.settle_toValue]
  cases hkept : v.kept.unwritable? with
  | none =>
    rw [Draft.guarded, Except.ok_bind]
    cases ofJson v.kept <;> rfl
  | some e =>
    have herror := toBytes_of_unwritable hkept
    obtain ⟨e', he, hrefusal⟩ := Except.mapError_eq_error_iff.1 herror
    rw [ofJson_of_error he, Draft.guarded, ← hrefusal]
    rfl

/-- The attributes of a value have what is kept of it as their value, in its compact text. -/
theorem ofJson_kept (hv : v.Distinct) :
    (v.kept.Encodable → ∃ a, ofJson v.kept = .ok a ∧ a.value = v.kept ∧
        v.kept.toBytes .compact = .ok a.bytes) ∧
      (¬ v.kept.Encodable → ∃ e, ofJson v.kept = .error e) := by
  rw [← Json.exists_toBytes_iff Json.Layout.standard_compact]
  constructor
  · rintro ⟨bs, hbs⟩
    have hwritable := (Json.toBytes_eq_ok_iff.1 hbs).1
    obtain ⟨a, ha, hbytes, hvalue⟩ :=
      ofJson_of_toBytes (Json.settled_of_distinct (Json.distinct_kept v hv) hwritable) hbs
    exact ⟨a, ha, hvalue, hbytes ▸ hbs⟩
  · intro h
    cases hbs : v.kept.toBytes .compact with
    | error e => exact ⟨e, ofJson_of_error hbs⟩
    | ok bs => exact absurd ⟨bs, hbs⟩ h

end Attributes

end JsonApi
