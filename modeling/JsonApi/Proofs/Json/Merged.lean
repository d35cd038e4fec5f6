import JsonApi.Proofs.Json.Leaves
import Mathlib.Data.List.Induction

/-!
# Merging the members of one name

Reading merges the members of one name: the first gives the place, the last the value.
`Json.merged` does the same to a value at every depth, and values whose objects hold no name twice
are left alone (`Json.merged_of_distinct`).
-/

namespace JsonApi

/-- A key that none is the same as gets a place at the end. -/
theorem Entries.put_of_forall {κ α : Type} {same : κ → κ → Bool} {key : κ} {value : α}
    {es : List (κ × α)} (h : ∀ e ∈ es, same e.1 key = false) :
    put same key value es = es ++ [(key, value)] := by
  induction es with
  | nil => rfl
  | cons e es ih =>
    obtain ⟨he, hes⟩ := List.forall_mem_cons.1 h
    rw [put, he, if_neg Bool.false_ne_true, ih hes, List.cons_append]

namespace Members

variable {α : Type}

theorem put_of_not_mem {name : Text} {value : α} {ms : List (Text × α)} (h : name ∉ names ms) :
    put name value ms = ms ++ [(name, value)] := by
  refine Entries.put_of_forall fun m hm => beq_false_of_ne ?_
  rintro rfl
  exact h (List.mem_map_of_mem hm)

theorem ofPairs_concat (pairs : List (Text × α)) (p : Text × α) :
    ofPairs (pairs ++ [p]) = put p.1 p.2 (ofPairs pairs) := by
  rw [ofPairs, Entries.ofPairs, List.foldl_append]
  rfl

/-- Members whose names are distinct stand for themselves. -/
theorem ofPairs_of_nodup {ms : List (Text × α)} (h : (names ms).Nodup) : ofPairs ms = ms := by
  -- a pair is put behind those before it, so the induction takes the last one away
  induction ms using List.reverseRecOn with
  | nil => rfl
  | append_singleton ms m ih =>
    rw [names, List.map_append, List.nodup_append] at h
    obtain ⟨hms, -, hm⟩ := h
    have hnew : m.1 ∉ names ms := fun hmem => hm m.1 hmem m.1 (List.mem_singleton.2 rfl) rfl
    rw [ofPairs_concat, ih hms, put_of_not_mem hnew]

/-- Every value under a name comes from one of the pairs. -/
theorem exists_mem_of_mem_put {name : Text} {value : α} {ms : List (Text × α)} {m : Text × α}
    (h : m ∈ put name value ms) : m.2 = value ∨ m ∈ ms := by
  induction ms with
  | nil => simp_all
  | cons m' ms ih =>
    obtain ⟨n, v⟩ := m'
    rw [put_cons] at h
    split at h
    · rcases List.mem_cons.1 h with rfl | h
      · exact .inl rfl
      · exact .inr (List.mem_cons_of_mem _ h)
    · rcases List.mem_cons.1 h with rfl | h
      · exact .inr List.mem_cons_self
      · exact (ih h).imp_right (List.mem_cons_of_mem _)

theorem exists_mem_of_mem_ofPairs {pairs : List (Text × α)} {m : Text × α}
    (h : m ∈ ofPairs pairs) : ∃ p ∈ pairs, p.2 = m.2 := by
  induction pairs using List.reverseRecOn with
  | nil => cases h
  | append_singleton pairs p ih =>
    rw [ofPairs_concat] at h
    rcases exists_mem_of_mem_put h with hvalue | h
    · exact ⟨p, List.mem_append_right _ (List.mem_singleton.2 rfl), hvalue.symm⟩
    · obtain ⟨q, hq, hvalue⟩ := ih h
      exact ⟨q, List.mem_append_left _ hq, hvalue⟩

theorem mem_names_ofPairs {pairs : List (Text × α)} {name : Text} :
    name ∈ names (ofPairs pairs) ↔ name ∈ names pairs := by
  induction pairs using List.reverseRecOn with
  | nil => rfl
  | append_singleton pairs p ih =>
    rw [ofPairs_concat, mem_names_put, ih, names, names, List.map_append, List.mem_append]
    simp

theorem mem_of_get? {name : Text} {value : α} {ms : List (Text × α)}
    (h : get? name ms = some value) : (name, value) ∈ ms := by
  induction ms with
  | nil => simp [get?] at h
  | cons m ms ih =>
    obtain ⟨n, v⟩ := m
    rw [get?] at h
    split at h
    · cases h
      subst_vars
      exact List.mem_cons_self
    · exact List.mem_cons_of_mem _ (ih h)

/-- Where no name is repeated, every member is found under its name. -/
theorem get?_of_mem {m : Text × α} {ms : List (Text × α)} (hnames : (names ms).Nodup)
    (h : m ∈ ms) : get? m.1 ms = some m.2 := by
  induction ms with
  | nil => cases h
  | cons m' ms ih =>
    obtain ⟨hname, hnames⟩ : m'.1 ∉ names ms ∧ (names ms).Nodup := List.nodup_cons.1 hnames
    rw [get?]
    rcases List.mem_cons.1 h with rfl | h
    · exact if_pos rfl
    · have hne : m'.1 ≠ m.1 := by
        intro heq
        rw [heq] at hname
        exact hname (List.mem_map_of_mem h)
      rw [if_neg hne, ih hnames h]

end Members

namespace Json

mutual

/-- A value with the members of one name merged. -/
def merged : Json → Json
  | .null => .null
  | .bool b => .bool b
  | .int n => .int n
  | .float x => .float x
  | .string t => .string t
  | .array vs => .array (mergedItems vs)
  | .object ms => .object (Members.ofPairs (mergedMembers ms))

/-- Items with the members of one name merged in each. -/
def mergedItems : List Json → List Json
  | [] => []
  | v :: vs => merged v :: mergedItems vs

/-- Members with the members of one name merged in the value of each. -/
def mergedMembers : List (Text × Json) → List (Text × Json)
  | [] => []
  | (name, v) :: ms => (name, merged v) :: mergedMembers ms

end

theorem mergedItems_eq_map (vs : List Json) : mergedItems vs = vs.map merged := by
  induction vs with
  | nil => rfl
  | cons v vs ih => rw [mergedItems, ih, List.map_cons]

theorem names_mergedMembers (ms : List (Text × Json)) :
    Members.names (mergedMembers ms) = Members.names ms := by
  induction ms with
  | nil => rfl
  | cons m ms ih => exact congrArg (m.1 :: ·) ih

theorem mergedMembers_eq_map (ms : List (Text × Json)) :
    mergedMembers ms = ms.map fun (name, v) => (name, merged v) := by
  induction ms with
  | nil => rfl
  | cons m ms ih => rw [mergedMembers, ih, List.map_cons]

/-- A name that merged members hold is one of theirs, and so is a value, perhaps of another member
of that name. -/
theorem exists_of_mem_merged {ms : List (Text × Json)} {m : Text × Json}
    (h : m ∈ Members.ofPairs (mergedMembers ms)) :
    m.1 ∈ Members.names ms ∧ ∃ p ∈ ms, m.2 = p.2.merged := by
  constructor
  · rw [← names_mergedMembers, ← Members.mem_names_ofPairs]
    exact List.mem_map_of_mem h
  · obtain ⟨q, hq, hvalue⟩ := Members.exists_mem_of_mem_ofPairs h
    rw [mergedMembers_eq_map] at hq
    obtain ⟨p, hp, rfl⟩ := List.mem_map.1 hq
    exact ⟨p, hp, hvalue.symm⟩

mutual

/-- Merging adds no leaves. -/
theorem leaves_merged (v : Json) : v.merged.leaves ⊆ v.leaves := by
  match v with
  | .null | .bool _ | .int _ | .float _ | .string _ => exact List.Subset.refl _
  | .array vs =>
    intro x hx
    rw [merged, leaves, mem_leavesOfItems, mergedItems_eq_map] at hx
    obtain ⟨w, hw, hx⟩ := hx
    obtain ⟨u, hu, rfl⟩ := List.mem_map.1 hw
    exact mem_leavesOfItems.2 ⟨u, hu, leaves_mergedItems vs u hu hx⟩
  | .object ms =>
    intro x hx
    obtain ⟨m, hm, hx⟩ := mem_leavesOfMembers.1 hx
    obtain ⟨hname, p, hp, hvalue⟩ := exists_of_mem_merged hm
    rw [leaves, mem_leavesOfMembers]
    rcases hx with rfl | hx
    · obtain ⟨q, hq, hname⟩ := List.mem_map.1 hname
      exact ⟨q, hq, .inl (congrArg Leaf.text hname.symm)⟩
    · rw [hvalue] at hx
      exact ⟨p, hp, .inr (leaves_mergedMembers ms p hp hx)⟩

theorem leaves_mergedItems (vs : List Json) : ∀ v ∈ vs, v.merged.leaves ⊆ v.leaves := by
  match vs with
  | [] => exact List.forall_mem_nil _
  | v :: vs => exact List.forall_mem_cons.2 ⟨leaves_merged v, leaves_mergedItems vs⟩

theorem leaves_mergedMembers (ms : List (Text × Json)) :
    ∀ m ∈ ms, m.2.merged.leaves ⊆ m.2.leaves := by
  match ms with
  | [] => exact List.forall_mem_nil _
  | m :: ms => exact List.forall_mem_cons.2 ⟨leaves_merged m.2, leaves_mergedMembers ms⟩

end

/-- A value in which no object holds a name twice. -/
inductive Distinct : Json → Prop
  | null : Distinct .null
  | bool (b : Bool) : Distinct (.bool b)
  | int (n : Int) : Distinct (.int n)
  | float (x : Double) : Distinct (.float x)
  | string (t : Text) : Distinct (.string t)
  | array {vs : List Json} (h : ∀ v ∈ vs, Distinct v) : Distinct (.array vs)
  | object {ms : List (Text × Json)} (hnames : (Members.names ms).Nodup)
      (h : ∀ m ∈ ms, Distinct m.2) : Distinct (.object ms)

theorem distinct_array {vs : List Json} : (array vs).Distinct ↔ ∀ v ∈ vs, v.Distinct :=
  ⟨fun h => by cases h; assumption, .array⟩

theorem distinct_object {ms : List (Text × Json)} :
    (object ms).Distinct ↔ (Members.names ms).Nodup ∧ ∀ m ∈ ms, m.2.Distinct :=
  ⟨fun h => by cases h; exact ⟨‹_›, ‹_›⟩, fun h => .object h.1 h.2⟩

theorem merged_of_distinct {v : Json} (h : v.Distinct) : v.merged = v := by
  induction h with
  | null | bool | int | float | string => rfl
  | array h ih =>
    rw [merged, mergedItems_eq_map, List.map_congr_left ih, List.map_id']
  | @object ms hnames h ih =>
    have hms : mergedMembers ms = ms :=
      calc mergedMembers ms = ms.map fun m => (m.1, merged m.2) := mergedMembers_eq_map ms
        _ = ms.map id := List.map_congr_left fun m hm => by rw [ih m hm]; rfl
        _ = ms := List.map_id ms
    rw [merged, hms, Members.ofPairs_of_nodup hnames]

end Json

end JsonApi
