import JsonApi.Double
import JsonApi.Entries
import JsonApi.Text

/-!
# JSON values

Integers and doubles are kept apart, and the members of an object keep their order.  An object
holds a name at most once: `Members.put` gives a repeated name its new value in the old place.
-/

namespace JsonApi

/-- A JSON value. -/
inductive Json
  | null
  | bool (b : Bool)
  | int (n : Int)
  | float (x : Double)
  | string (t : Text)
  | array (items : List Json)
  | object (members : List (Text × Json))
  deriving Inhabited

/-- The members of an object in order. -/
abbrev Members := List (Text × Json)

namespace Members

variable {α : Type}

/-- Members with a value under a name: in the place of that name if it is there, else at the
end. -/
def put (name : Text) (value : α) (ms : List (Text × α)) : List (Text × α) :=
  Entries.put (· == ·) name value ms

/-- The members that pairs stand for when a later pair wins over an earlier one of its name. -/
def ofPairs (pairs : List (Text × α)) : List (Text × α) := Entries.ofPairs (· == ·) pairs

/-- The value under a name. -/
def get? (name : Text) : List (Text × α) → Option α
  | [] => none
  | (n, v) :: ms => if n = name then some v else get? name ms

/-- The names of members in order. -/
def names (ms : List (Text × α)) : List Text := ms.map (·.1)

@[simp] theorem put_nil (name : Text) (value : α) : put name value [] = [(name, value)] := rfl

@[simp] theorem put_cons (name n : Text) (value v : α) (ms : List (Text × α)) :
    put name value ((n, v) :: ms) =
      if n = name then (n, value) :: ms else (n, v) :: put name value ms := by
  simp [put, Entries.put]

theorem mem_names_put {name other : Text} (value : α) (ms : List (Text × α)) :
    other ∈ names (put name value ms) ↔ other ∈ names ms ∨ other = name := by
  induction ms with
  | nil => simp [names]
  | cons m ms ih =>
    obtain ⟨n, v⟩ := m
    by_cases h : n = name
    · simp only [put_cons, h, if_true, names, List.map_cons, List.mem_cons]
      grind
    · simp only [put_cons, h, if_false, names, List.map_cons, List.mem_cons] at ih ⊢
      grind

theorem nodup_names_put (name : Text) (value : α) (ms : List (Text × α)) (h : (names ms).Nodup) :
    (names (put name value ms)).Nodup := by
  induction ms with
  | nil => simp [names]
  | cons m ms ih =>
    obtain ⟨n, v⟩ := m
    simp only [names, List.map_cons, List.nodup_cons] at h
    by_cases hn : n = name
    · subst hn
      simpa only [put_cons, if_true, names, List.map_cons, List.nodup_cons] using h
    · simp only [put_cons, hn, if_false, names, List.map_cons, List.nodup_cons]
      refine ⟨fun hm => ?_, ih h.2⟩
      rcases (mem_names_put value ms).1 hm with hm | hm
      · exact h.1 hm
      · exact hn hm

/-- A name stands at most once among the members that pairs stand for. -/
theorem nodup_names_ofPairs (pairs : List (Text × α)) : (names (ofPairs pairs)).Nodup := by
  suffices ∀ ms : List (Text × α), (names ms).Nodup →
      (names (pairs.foldl (fun ms (name, value) => put name value ms) ms)).Nodup from
    this [] (by simp [names])
  intro ms h
  induction pairs generalizing ms with
  | nil => exact h
  | cons p pairs ih => exact ih _ (nodup_names_put p.1 p.2 ms h)

end Members

namespace Json

/-- The text of a string value. -/
def text? : Json → Option Text
  | .string t => some t
  | _ => none

end Json

end JsonApi
