import JsonApi.Json.Shown
import JsonApi.Proofs.Except
import JsonApi.Proofs.Json.Leaves

/-!
# Values in messages

A value is shown in a message exactly when none of its integers has too many digits
(`Json.exists_quoted_iff`).
-/

namespace JsonApi.Json

theorem exists_quotedInt_iff {n : Int} :
    (∃ t, quotedInt n = .ok t) ↔ n.natAbs < 10 ^ digitLimit := by
  unfold quotedInt
  split_ifs with h
  · exact iff_of_false (fun ⟨_, h⟩ => nomatch h) (Nat.not_lt.2 h)
  · exact iff_of_true ⟨_, rfl⟩ (Nat.not_le.1 h)

/-- Two texts can be joined when there are both. -/
theorem exists_bind_pure_iff {α : Type} {x y : Except WriteError Text} {f : Text → Text → α} :
    (∃ a, (x >>= fun s => y >>= fun t => pure (f s t)) = .ok a) ↔
      (∃ s, x = .ok s) ∧ ∃ t, y = .ok t := by
  simp only [Except.bind_eq_ok_iff]
  exact ⟨fun ⟨_, s, hs, t, ht, _⟩ => ⟨⟨s, hs⟩, t, ht⟩,
    fun ⟨⟨s, hs⟩, t, ht⟩ => ⟨f s t, s, hs, t, ht, rfl⟩⟩

mutual

/-- **A value is shown** exactly when its integers are. -/
theorem exists_quoted_iff (v : Json) : (∃ t, v.quoted = .ok t) ↔ v.Bounded := by
  match v with
  | .null | .float _ | .string _ | .array [] | .object [] =>
    exact iff_of_true ⟨_, rfl⟩ (by simp [Bounded, leaves, leavesOfItems, leavesOfMembers])
  | .bool true | .bool false => exact iff_of_true ⟨_, rfl⟩ (by simp [Bounded, leaves])
  | .int n => exact exists_quotedInt_iff.trans bounded_int.symm
  | .array (v :: vs) =>
    rw [bounded_array_cons, ← exists_quoted_iff v, ← exists_quotedItems_iff vs]
    exact exists_bind_pure_iff
  | .object ((name, v) :: ms) =>
    rw [bounded_object_cons, ← exists_quoted_iff v, ← exists_quotedMembers_iff ms]
    exact exists_bind_pure_iff

theorem exists_quotedItems_iff (vs : List Json) :
    (∃ t, quotedItems vs = .ok t) ↔ (array vs).Bounded := by
  match vs with
  | [] => exact iff_of_true ⟨_, rfl⟩ (by simp [Bounded, leaves, leavesOfItems])
  | v :: vs =>
    rw [bounded_array_cons, ← exists_quoted_iff v, ← exists_quotedItems_iff vs]
    exact exists_bind_pure_iff

theorem exists_quotedMembers_iff (ms : List (Text × Json)) :
    (∃ t, quotedMembers ms = .ok t) ↔ (object ms).Bounded := by
  match ms with
  | [] => exact iff_of_true ⟨_, rfl⟩ (by simp [Bounded, leaves, leavesOfMembers])
  | (name, v) :: ms =>
    rw [bounded_object_cons, ← exists_quoted_iff v, ← exists_quotedMembers_iff ms]
    exact exists_bind_pure_iff

end

end JsonApi.Json
