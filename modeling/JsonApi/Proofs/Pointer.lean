import JsonApi.Pointer
import JsonApi.Proofs.Json.Merged
import JsonApi.Proofs.Text

/-!
# Pointers and their texts

Escaping keeps the slash for what stands between tokens, so the text of a pointer spells that
pointer and no other (`ofText?_text`, `text_injective`), whatever is in its tokens.  A pointer is
evaluated token by token (`eval?_append`): the name of a member leads to its value
(`eval?_member`), and the number of an item to the item (`eval?_item`).
-/

namespace JsonApi

theorem Text.ofNat_injective : Function.Injective ofNat := by
  intro m n h
  have hdigits : Nat.toDigits 10 m = Nat.toDigits 10 n :=
    List.map_injective_iff.2 (fun _ _ => CodePoint.scalar.inj) h
  rw [← Nat.ofDigitChars_ten_toDigits (n := m), hdigits, Nat.ofDigitChars_ten_toDigits]

namespace Pointer

/-! ### Tokens -/

/-- A code point of a token as it is written. -/
def escapePoint (c : CodePoint) : Text :=
  if c = .scalar '~' then "~0" else if c = .scalar '/' then "~1" else [c]

/-- The tilde that stands for a slash is not escaped itself. -/
theorem escape_eq_flatMap (token : Text) : escape token = token.flatMap escapePoint := by
  rw [escape, Text.replace, Text.replace, List.flatMap_assoc]
  congr 1
  funext c
  by_cases htilde : c = .scalar '~'
  · simp [htilde, escapePoint, Text.ofString, Text.ofChars]
  · simp [htilde, escapePoint]

theorem slash_not_mem_escape (token : Text) : .scalar '/' ∉ escape token := by
  rw [escape_eq_flatMap, List.mem_flatMap]
  rintro ⟨c, -, hc⟩
  unfold escapePoint at hc
  split_ifs at hc with htilde hslash
  · exact absurd hc (by decide)
  · exact absurd hc (by decide)
  · exact hslash (List.mem_singleton.1 hc).symm

theorem unescape_cons {c : CodePoint} (hc : c ≠ .scalar '~') (t : Text) :
    unescape (c :: t) = c :: unescape t := by
  rw [unescape.eq_def]
  split <;> simp_all

theorem unescape_escape (token : Text) : unescape (escape token) = token := by
  rw [escape_eq_flatMap]
  induction token with
  | nil => rfl
  | cons c token ih =>
    rw [List.flatMap_cons, escapePoint]
    split_ifs with htilde hslash
    · rw [htilde]
      exact congrArg (CodePoint.scalar '~' :: ·) ih
    · rw [hslash]
      exact congrArg (CodePoint.scalar '/' :: ·) ih
    · rw [List.singleton_append, unescape_cons htilde, ih]

/-! ### Texts of pointers -/

/-- Behind the first slash of a pointer stand its tokens with slashes between them. -/
theorem text_cons (token : Text) (p : Pointer) :
    text (token :: p) = .scalar '/' :: Text.join [.scalar '/'] ((token :: p).map escape) := by
  induction p generalizing token with
  | nil => simp [text, Text.join]
  | cons next p ih =>
    rw [text, List.flatMap_cons, ← text, ih next]
    simp [Text.join, List.intercalate_cons_cons]

/-- **The text of a pointer spells the pointer.** -/
theorem ofText?_text (p : Pointer) : ofText? p.text = some p := by
  cases p with
  | nil => rfl
  | cons token p =>
    have hslash : ∀ t ∈ (token :: p).map escape, CodePoint.scalar '/' ∉ t := by
      intro t ht
      obtain ⟨token', -, rfl⟩ := List.mem_map.1 ht
      exact slash_not_mem_escape token'
    have hsplit := Text.splitAt_join (by simp) hslash
    have hunescape : ((token :: p).map escape).map unescape = token :: p := by
      rw [List.map_map]
      exact (List.map_congr_left fun t _ => unescape_escape t).trans (List.map_id _)
    rw [text_cons, ofText?, hsplit, hunescape]

theorem text_injective : Function.Injective text := by
  intro p q h
  have hspelled := ofText?_text p
  rw [h, ofText?_text] at hspelled
  exact (Option.some.inj hspelled).symm

/-! ### Evaluation -/

theorem eval?_append (p q : Pointer) (v : Json) :
    eval? (p ++ q) v = (eval? p v).bind (eval? q) := by
  induction p generalizing v with
  | nil => rfl
  | cons token p ih =>
    cases v with
    | object ms => simp only [List.cons_append, eval?, Option.bind_assoc, funext ih]
    | array vs => simp only [List.cons_append, eval?, Option.bind_assoc, funext ih]
    | null | bool | int | float | string => rfl

/-- A name leads to the first member of that name. -/
theorem eval?_member {before : Members} {name : Text} (h : name ∉ Members.names before)
    (after : Members) (v : Json) (p : Pointer) :
    eval? (name :: p) (.object (before ++ (name, v) :: after)) = eval? p v := by
  have hget : Members.get? name (before ++ (name, v) :: after) = some v := by
    induction before with
    | nil => rw [List.nil_append, Members.get?, if_pos rfl]
    | cons m before ih =>
      rw [Members.names, List.map_cons, List.mem_cons, not_or] at h
      rw [List.cons_append, Members.get?, if_neg (Ne.symm h.1), ih h.2]
  rw [eval?, hget, Option.bind_some]

/-- The number of an item leads to the item. -/
theorem eval?_item (before after : List Json) (v : Json) (p : Pointer) :
    eval? (Text.ofNat before.length :: p) (.array (before ++ v :: after)) = eval? p v := by
  have hfind : (List.range (before ++ v :: after).length).find?
      (fun n => Text.ofNat n = Text.ofNat before.length) = some before.length := by
    rw [List.find?_range_eq_some]
    refine ⟨decide_eq_true rfl, List.mem_range.2 (by simp), fun n hn => ?_⟩
    simp [Text.ofNat_injective.eq_iff, Nat.ne_of_lt hn]
  rw [eval?, hfind]
  simp

end Pointer

end JsonApi
