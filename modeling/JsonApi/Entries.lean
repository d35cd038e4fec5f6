/-!
# Entries

Values under keys, in order.  When two keys count as the same is for the caller to say; of entries
whose keys are the same the first gives the place and the key, and the last the value.
-/

namespace JsonApi.Entries

variable {κ α : Type}

/-- Entries with a value under a key: in the place of the first key that is the same, or at the end
when there is none. -/
def put (same : κ → κ → Bool) (key : κ) (value : α) : List (κ × α) → List (κ × α)
  | [] => [(key, value)]
  | (k, v) :: es => if same k key then (k, value) :: es else (k, v) :: put same key value es

/-- The entries that pairs stand for when a later pair wins over an earlier one of its key. -/
def ofPairs (same : κ → κ → Bool) (pairs : List (κ × α)) : List (κ × α) :=
  pairs.foldl (fun es (key, value) => put same key value es) []

end JsonApi.Entries
