import JsonApi.Proofs.Json.Coding
import Mathlib.Algebra.Ring.Nat

/-!
# Names that are repeated

A value whose objects repeat a name is read with the members of that name merged, and is written
shorter then (`length_writeAt_merged`).  So a value has the bytes of its merged form exactly when no
name is repeated in it (`toBytes_merged_iff`).
-/

namespace JsonApi

/-! ### What merging drops -/

namespace Members

variable {α : Type} {w : Text × α → Nat} {name : Text} {value : α} {ms ps : List (Text × α)}

theorem sum_put_of_not_mem (h : name ∉ names ms) :
    ((put name value ms).map w).sum = (ms.map w).sum + w (name, value) := by
  rw [put_of_not_mem h, List.map_append, List.sum_append, List.map_singleton, List.sum_singleton]

theorem sum_put_lt (hw : ∀ m, 0 < w m) (value : α) (h : name ∈ names ms) :
    ((put name value ms).map w).sum < (ms.map w).sum + w (name, value) := by
  induction ms with
  | nil => cases h
  | cons m ms ih =>
    obtain ⟨n, v⟩ := m
    rw [put_cons]
    have hpos := hw (n, v)
    split_ifs with hn
    · rw [hn, List.map_cons, List.map_cons, List.sum_cons, List.sum_cons]
      rw [hn] at hpos
      omega
    · have hrest := ih ((List.mem_cons.1 h).resolve_left (Ne.symm hn))
      rw [List.map_cons, List.map_cons, List.sum_cons, List.sum_cons]
      omega

/-- Merging drops the weight of every pair whose name is repeated. -/
theorem sum_ofPairs_le (hw : ∀ m, 0 < w m) (ps : List (Text × α)) :
    ((ofPairs ps).map w).sum ≤ (ps.map w).sum ∧
      (((ofPairs ps).map w).sum = (ps.map w).sum → ofPairs ps = ps) := by
  induction ps using List.reverseRecOn with
  | nil => exact ⟨Nat.le_refl _, fun _ => rfl⟩
  | append_singleton ps p ih =>
    obtain ⟨name, value⟩ := p
    have hconcat : ofPairs (ps ++ [(name, value)]) = put name value (ofPairs ps) :=
      ofPairs_concat ps _
    rw [hconcat, List.map_append, List.sum_append, List.map_singleton, List.sum_singleton]
    by_cases h : name ∈ names (ofPairs ps)
    · have hlt := sum_put_lt hw value h
      exact ⟨by omega, fun heq => by omega⟩
    · rw [sum_put_of_not_mem h, put_of_not_mem h]
      refine ⟨by omega, fun heq => ?_⟩
      rw [ih.2 (by omega)]

theorem ofPairs_ne_nil (h : ps ≠ []) : ofPairs ps ≠ [] := by
  obtain ⟨ps, p, rfl⟩ := (List.eq_nil_or_concat' ps).resolve_left h
  rw [ofPairs_concat]
  cases ofPairs ps with
  | nil => exact List.cons_ne_nil _ _
  | cons m ms =>
    rw [put_cons]
    split_ifs <;> exact List.cons_ne_nil _ _

end Members

namespace Json

variable {l : Layout} {level : Nat}

/-- The length of a member in the text of an object, with a separator and a line break. -/
def memberLength (l : Layout) (level : Nat) (m : Text × Json) : Nat :=
  l.itemSeparator.length + (l.lineBreak level).length + (writeString m.1).length +
    l.nameSeparator.length + (writeAt l level m.2).length

theorem memberLength_pos (l : Layout) (level : Nat) (m : Text × Json) :
    0 < memberLength l level m := by
  have hname : 0 < (writeString m.1).length := List.length_pos_of_ne_nil (List.cons_ne_nil _ _)
  unfold memberLength
  omega

theorem length_writeMembers (ms : Members) :
    (writeMembers l level ms).length = (ms.map (memberLength l level)).sum := by
  induction ms with
  | nil => rfl
  | cons m ms ih =>
    simp only [writeMembers, List.length_append, ih, List.map_cons, List.sum_cons, memberLength]

/-- Every member adds its length; the first has no separator, and there are two braces. -/
theorem length_writeAt_object (l : Layout) (level : Nat) {ms : Members} (h : ms ≠ []) :
    (writeAt l level (.object ms)).length + l.itemSeparator.length =
      (writeMembers l (level + 1) ms).length + (l.lineBreak level).length + 2 := by
  obtain ⟨⟨name, v⟩, ms, rfl⟩ := List.exists_cons_of_ne_nil h
  simp only [writeAt, writeMembers, List.length_append, List.length_cons, List.length_nil]
  omega

mutual

/-- **Merging shortens the text of a value** unless it leaves the value alone. -/
theorem length_writeAt_merged (l : Layout) (level : Nat) (v : Json) :
    (writeAt l level v.merged).length ≤ (writeAt l level v).length ∧
      ((writeAt l level v.merged).length = (writeAt l level v).length → v.merged = v) := by
  match v with
  | .null | .bool _ | .int _ | .float _ | .string _ | .array [] | .object [] =>
    exact ⟨Nat.le_refl _, fun _ => rfl⟩
  | .array (v :: vs) =>
    obtain ⟨hle, heq⟩ := length_writeAt_merged l (level + 1) v
    obtain ⟨hles, heqs⟩ := length_writeItems_merged l (level + 1) vs
    simp only [merged, mergedItems, writeAt, List.length_append, List.length_cons]
    refine ⟨by omega, fun h => ?_⟩
    rw [heq (by omega), heqs (by omega)]
  | .object (m :: ms) =>
    obtain ⟨hle, heq⟩ := length_writeMembers_merged l (level + 1) (m :: ms)
    have hne : mergedMembers (m :: ms) ≠ [] := List.cons_ne_nil _ _
    have hsum := Members.sum_ofPairs_le (memberLength_pos l (level + 1)) (mergedMembers (m :: ms))
    rw [← length_writeMembers, ← length_writeMembers] at hsum
    have hlength := length_writeAt_object l level (List.cons_ne_nil m ms)
    have hmerged := length_writeAt_object l level (Members.ofPairs_ne_nil hne)
    rw [merged]
    refine ⟨by omega, fun h => ?_⟩
    rw [hsum.2 (by omega), heq (by omega)]

theorem length_writeItems_merged (l : Layout) (level : Nat) (vs : List Json) :
    (writeItems l level (mergedItems vs)).length ≤ (writeItems l level vs).length ∧
      ((writeItems l level (mergedItems vs)).length = (writeItems l level vs).length →
        mergedItems vs = vs) := by
  match vs with
  | [] => exact ⟨Nat.le_refl _, fun _ => rfl⟩
  | v :: vs =>
    obtain ⟨hle, heq⟩ := length_writeAt_merged l level v
    obtain ⟨hles, heqs⟩ := length_writeItems_merged l level vs
    simp only [mergedItems, writeItems, List.length_append]
    refine ⟨by omega, fun h => ?_⟩
    rw [heq (by omega), heqs (by omega)]

theorem length_writeMembers_merged (l : Layout) (level : Nat) (ms : Members) :
    (writeMembers l level (mergedMembers ms)).length ≤ (writeMembers l level ms).length ∧
      ((writeMembers l level (mergedMembers ms)).length = (writeMembers l level ms).length →
        mergedMembers ms = ms) := by
  match ms with
  | [] => exact ⟨Nat.le_refl _, fun _ => rfl⟩
  | (name, v) :: ms =>
    obtain ⟨hle, heq⟩ := length_writeAt_merged l level v
    obtain ⟨hles, heqs⟩ := length_writeMembers_merged l level ms
    simp only [mergedMembers, writeMembers, List.length_append]
    refine ⟨by omega, fun h => ?_⟩
    rw [heq (by omega), heqs (by omega)]

end

/-- **The bytes of a value are those of what they are read as** exactly when the value holds no name
twice in an object. -/
theorem toBytes_merged_iff (hl : l.Standard) {v : Json} {bs : Bytes} (h : v.toBytes l = .ok bs) :
    v.merged.toBytes l = .ok bs ↔ v.Settled := by
  obtain ⟨hv, hscalar, hbs⟩ := toBytes_eq_ok_iff.1 h
  constructor
  · intro hmerged
    obtain ⟨-, hscalar', hbs'⟩ := toBytes_eq_ok_iff.1 hmerged
    have htext : write l v.merged = write l v := by
      rw [← Utf8.decodeLenient_encodeScalars hscalar', hbs', ← hbs,
        Utf8.decodeLenient_encodeScalars hscalar]
    rw [← (length_writeAt_merged l 0 v).2 (congrArg List.length htext)]
    exact settled_of_ofText (ofText_write false hl hv)
  · intro hsettled
    rw [merged_of_settled hsettled, h]

end Json

end JsonApi
