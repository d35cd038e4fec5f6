import JsonApi.Json.Limits
import JsonApi.Proofs.Json.RoundTrip

/-!
# Values within the limits of a reader

A reader that takes integers of as many digits as are written never finds one too long in what was
written.  So the tokens of a value go past a limit exactly when its containers are nested too deep.

* `excess_writeAt` : which holds of the text of a value wherever it stands in a document;
* `excess_write` : and so of a document.
-/

namespace JsonApi

namespace Json

/-! ### The depth of a value -/

mutual

/-- The number of containers that a value is nested in, of those that hold something. -/
def depth : Json → Nat
  | .array vs => depthOfItems vs
  | .object ms => depthOfMembers ms
  | _ => 0

/-- The depth of an array with the given items. -/
def depthOfItems : List Json → Nat
  | [] => 0
  | v :: vs => max (depth v + 1) (depthOfItems vs)

/-- The depth of an object with the given members. -/
def depthOfMembers : List (Text × Json) → Nat
  | [] => 0
  | (_, v) :: ms => max (depth v + 1) (depthOfMembers ms)

end

theorem depthOfItems_le_iff {vs : List Json} {n : Nat} :
    depthOfItems vs ≤ n ↔ ∀ v ∈ vs, v.depth + 1 ≤ n := by
  induction vs with
  | nil => simp [depthOfItems]
  | cons v vs ih => rw [depthOfItems, Nat.max_le, ih, List.forall_mem_cons]

theorem depthOfMembers_le_iff {ms : List (Text × Json)} {n : Nat} :
    depthOfMembers ms ≤ n ↔ ∀ m ∈ ms, m.2.depth + 1 ≤ n := by
  induction ms with
  | nil => simp [depthOfMembers]
  | cons m ms ih => rw [depthOfMembers, Nat.max_le, ih, List.forall_mem_cons]

theorem depth_array_le_iff {vs : List Json} {n : Nat} :
    (array vs).depth ≤ n + 1 ↔ ∀ v ∈ vs, v.depth ≤ n :=
  depthOfItems_le_iff.trans (forall₂_congr fun _ _ => Nat.succ_le_succ_iff)

theorem depth_object_le_iff {ms : List (Text × Json)} {n : Nat} :
    (object ms).depth ≤ n + 1 ↔ ∀ m ∈ ms, m.2.depth ≤ n :=
  depthOfMembers_le_iff.trans (forall₂_congr fun _ _ => Nat.succ_le_succ_iff)

/-- A container that holds something takes a level. -/
theorem depth_array_cons_pos (v : Json) (vs : List Json) : 0 < (array (v :: vs)).depth :=
  Nat.lt_of_lt_of_le (Nat.succ_pos _) (depthOfItems_le_iff.1 (Nat.le_refl _) v List.mem_cons_self)

theorem depth_object_cons_pos (m : Text × Json) (ms : List (Text × Json)) :
    0 < (object (m :: ms)).depth :=
  Nat.lt_of_lt_of_le (Nat.succ_pos _) (depthOfMembers_le_iff.1 (Nat.le_refl _) m List.mem_cons_self)

mutual

theorem depth_merged_le (v : Json) : v.merged.depth ≤ v.depth := by
  match v with
  | .null | .bool _ | .int _ | .float _ | .string _ => exact Nat.le_refl _
  | .array vs =>
    refine depthOfItems_le_iff.2 fun w hw => ?_
    rw [mergedItems_eq_map] at hw
    obtain ⟨u, hu, rfl⟩ := List.mem_map.1 hw
    exact depth_mergedItems_lt vs u hu
  | .object ms =>
    refine depthOfMembers_le_iff.2 fun m hm => ?_
    obtain ⟨-, p, hp, hvalue⟩ := exists_of_mem_merged hm
    rw [hvalue]
    exact depth_mergedMembers_lt ms p hp

theorem depth_mergedItems_lt (vs : List Json) : ∀ v ∈ vs, v.merged.depth < depthOfItems vs := by
  match vs with
  | [] => exact List.forall_mem_nil _
  | v :: vs =>
    rw [depthOfItems]
    refine List.forall_mem_cons.2 ⟨?_, fun w hw => ?_⟩
    · exact Nat.lt_of_lt_of_le (Nat.lt_succ_of_le (depth_merged_le v)) (Nat.le_max_left ..)
    · exact Nat.lt_of_lt_of_le (depth_mergedItems_lt vs w hw) (Nat.le_max_right ..)

theorem depth_mergedMembers_lt (ms : List (Text × Json)) :
    ∀ m ∈ ms, m.2.merged.depth < depthOfMembers ms := by
  match ms with
  | [] => exact List.forall_mem_nil _
  | (name, v) :: ms =>
    rw [depthOfMembers]
    refine List.forall_mem_cons.2 ⟨?_, fun m hm => ?_⟩
    · exact Nat.lt_of_lt_of_le (Nat.lt_succ_of_le (depth_merged_le v)) (Nat.le_max_left ..)
    · exact Nat.lt_of_lt_of_le (depth_mergedMembers_lt ms m hm) (Nat.le_max_right ..)

end

/-! ### The tokens of a value -/

variable {digits levels level opened k : Nat} {rest : Text}

/-- The text of a value starts with a token that closes nothing. -/
theorem exists_lexemes_writeAt (v : Json) (hv : v.Writable) (hrest : EndsNumber rest) :
    ∃ front token ls, lexemes (writeAt .compact level v ++ rest) = ⟨front, .ok token⟩ :: ls ∧
      (token == .closeBracket) = false := by
  cases v with
  | null => exact ⟨_, .null, _, lexemes_scan rfl rfl, rfl⟩
  | bool b => cases b <;> exact ⟨_, .bool _, _, lexemes_scan rfl rfl, rfl⟩
  | int n =>
    have hn := lexemes_numeral (Numeral.wellFormed_ofInt n) hrest
    exact ⟨_, .number _, _, Numeral.text_ofInt n ▸ hn, rfl⟩
  | float x =>
    obtain ⟨n, hn, htext, -⟩ := exists_numeral (writable_float.1 hv)
    exact ⟨_, .number n, _, htext ▸ lexemes_numeral hn hrest, rfl⟩
  | string t => exact ⟨_, _, _, lexemes_writeString t rest, rfl⟩
  | array vs => cases vs <;> exact ⟨_, .openBracket, _, lexemes_scan rfl rfl, rfl⟩
  | object ms => cases ms <;> exact ⟨_, .openBrace, _, lexemes_scan rfl rfl, rfl⟩

theorem writeAt_array_cons (v : Json) (vs : List Json) :
    writeAt .compact level (.array (v :: vs)) ++ rest =
      .scalar '[' :: (writeAt .compact (level + 1) v ++
        (writeItems .compact (level + 1) vs ++ .scalar ']' :: rest)) := by
  simp [writeAt, Layout.lineBreak_compact]

theorem writeItems_cons (v : Json) (vs : List Json) :
    writeItems .compact level (v :: vs) ++ rest =
      .scalar ',' :: (writeAt .compact level v ++ (writeItems .compact level vs ++ rest)) := by
  have hseparator : Layout.compact.itemSeparator = [.scalar ','] := rfl
  simp [writeItems, Layout.lineBreak_compact, hseparator]

theorem writeAt_object_cons (name : Text) (v : Json) (ms : List (Text × Json)) :
    writeAt .compact level (.object ((name, v) :: ms)) ++ rest =
      .scalar '{' :: (writeString name ++ .scalar ':' :: (writeAt .compact (level + 1) v ++
        (writeMembers .compact (level + 1) ms ++ .scalar '}' :: rest))) := by
  have hseparator : Layout.compact.nameSeparator = [.scalar ':'] := rfl
  simp [writeAt, Layout.lineBreak_compact, hseparator]

theorem writeMembers_cons (name : Text) (v : Json) (ms : List (Text × Json)) :
    writeMembers .compact level ((name, v) :: ms) ++ rest =
      .scalar ',' :: (writeString name ++ .scalar ':' :: (writeAt .compact level v ++
        (writeMembers .compact level ms ++ rest))) := by
  have hitem : Layout.compact.itemSeparator = [.scalar ','] := rfl
  have hname : Layout.compact.nameSeparator = [.scalar ':'] := rfl
  simp [writeMembers, Layout.lineBreak_compact, hitem, hname]

/-- The numeral of an integer that can be written is not too long for a reader that takes as many
digits. -/
theorem isLong_ofInt {n : Int} (hn : (int n).Writable) (hdigits : digitLimit ≤ digits) :
    (Numeral.ofInt n).isLong digits = false := by
  have hlength : (Nat.toDigits 10 n.natAbs).length ≤ digitLimit :=
    (Nat.length_toDigits_le_iff (by decide) (by decide)).2 (writable_int.1 hn)
  have hwhole : ¬ digits < (Nat.toDigits 10 n.natAbs).length := by omega
  simp [Numeral.isLong, Numeral.ofInt, hwhole]

/-- The numeral of a double has a fraction or an exponent. -/
theorem isLong_of_value {n : Numeral} {x : Double} (h : n.value = .ok (.float x)) :
    n.isLong digits = false := by
  obtain ⟨negative, whole, fraction, exponent⟩ := n
  cases fraction with
  | some ds => rfl
  | none =>
    cases exponent with
    | some e => rfl
    | none =>
      rw [Numeral.value] at h
      split_ifs at h <;> cases h

/-! ### The first excess -/

theorem lexemes_closeBracket (rest : Text) : lexemes (.scalar ']' :: rest) =
    ⟨.scalar ']' :: rest, .ok .closeBracket⟩ :: lexemes rest :=
  lexemes_scan rfl rfl

theorem lexemes_closeBrace (rest : Text) : lexemes (.scalar '}' :: rest) =
    ⟨.scalar '}' :: rest, .ok .closeBrace⟩ :: lexemes rest :=
  lexemes_scan rfl rfl

theorem excess_string {front t : Text} {ls : List Lexeme} :
    excess? digits levels opened (⟨front, .ok (.string t)⟩ :: ls) =
      excess? digits levels opened ls := rfl

theorem excess_colon {front : Text} {ls : List Lexeme} :
    excess? digits levels opened (⟨front, .ok .colon⟩ :: ls) =
      excess? digits levels opened ls := rfl

theorem excess_comma {front : Text} {ls : List Lexeme} :
    excess? digits levels opened (⟨front, .ok .comma⟩ :: ls) =
      excess? digits levels opened ls := rfl

theorem excess_closeBracket {front : Text} {ls : List Lexeme} :
    excess? digits levels (opened + 1) (⟨front, .ok .closeBracket⟩ :: ls) =
      excess? digits levels opened ls := rfl

theorem excess_closeBrace {front : Text} {ls : List Lexeme} :
    excess? digits levels (opened + 1) (⟨front, .ok .closeBrace⟩ :: ls) =
      excess? digits levels opened ls := rfl

/-- A container that holds something may be opened while levels are left. -/
theorem excess_openBracket {front : Text} {ls : List Lexeme}
    (hls : startsWith .closeBracket ls = false) :
    excess? digits levels opened (⟨front, .ok .openBracket⟩ :: ls) = none ↔
      opened < levels ∧ excess? digits levels (opened + 1) ls = none := by
  rw [excess?, hls]
  by_cases h : levels ≤ opened
  · simp [h, Nat.not_lt.2 h]
  · simp [h, Nat.not_le.1 h]

theorem excess_openBrace {front : Text} {ls : List Lexeme}
    (hls : startsWith .closeBrace ls = false) :
    excess? digits levels opened (⟨front, .ok .openBrace⟩ :: ls) = none ↔
      opened < levels ∧ excess? digits levels (opened + 1) ls = none := by
  rw [excess?, hls]
  by_cases h : levels ≤ opened
  · simp [h, Nat.not_lt.2 h]
  · simp [h, Nat.not_le.1 h]

theorem startsWith_of_exists {ls : List Lexeme}
    (h : ∃ front token ls', ls = ⟨front, .ok token⟩ :: ls' ∧ (token == .closeBracket) = false) :
    startsWith .closeBracket ls = false := by
  obtain ⟨front, token, ls', rfl, hne⟩ := h
  exact hne

theorem endsNumber_writeItems (level : Nat) (vs : List Json) (rest : Text) :
    EndsNumber (writeItems .compact level vs ++ .scalar ']' :: rest) := by
  cases vs with
  | nil => exact endsNumber_closeBracket
  | cons v vs => exact endsNumber_comma

theorem endsNumber_writeMembers (level : Nat) (ms : List (Text × Json)) (rest : Text) :
    EndsNumber (writeMembers .compact level ms ++ .scalar '}' :: rest) := by
  cases ms with
  | nil => exact endsNumber_closeBrace
  | cons m ms => exact endsNumber_comma

mutual

/-- **The text of a value goes past a limit** when the value is nested too deep; otherwise what
stands behind it decides. -/
theorem excess_writeAt (hdigits : digitLimit ≤ digits) (level : Nat) (v : Json) (hv : v.Writable)
    {opened k : Nat} {rest : Text} (hlevels : opened + k = levels) (hrest : EndsNumber rest) :
    excess? digits levels opened (lexemes (writeAt .compact level v ++ rest)) = none ↔
      v.depth ≤ k ∧ excess? digits levels opened (lexemes rest) = none := by
  -- on the value; `k` levels are left where it stands, and a container that holds something takes
  -- one of them
  match v with
  | .null =>
    have htoken : lexemes (writeAt .compact level .null ++ rest) = ⟨_, .ok .null⟩ :: lexemes rest :=
      lexemes_scan rfl rfl
    rw [htoken]
    exact (and_iff_right (Nat.zero_le k)).symm
  | .bool true =>
    have htoken : lexemes (writeAt .compact level (.bool true) ++ rest) =
        ⟨_, .ok (.bool true)⟩ :: lexemes rest := lexemes_scan rfl rfl
    rw [htoken]
    exact (and_iff_right (Nat.zero_le k)).symm
  | .bool false =>
    have htoken : lexemes (writeAt .compact level (.bool false) ++ rest) =
        ⟨_, .ok (.bool false)⟩ :: lexemes rest := lexemes_scan rfl rfl
    rw [htoken]
    exact (and_iff_right (Nat.zero_le k)).symm
  | .string t =>
    rw [writeAt, lexemes_writeString]
    exact (and_iff_right (Nat.zero_le k)).symm
  | .int n =>
    rw [writeAt, ← Numeral.text_ofInt, lexemes_numeral (Numeral.wellFormed_ofInt n) hrest, excess?,
      isLong_ofInt hv hdigits]
    exact (and_iff_right (Nat.zero_le k)).symm
  | .float x =>
    -- only the digits of integers are counted
    obtain ⟨n, hn, htext, hvalue⟩ := exists_numeral (writable_float.1 hv)
    rw [writeAt, ← htext, lexemes_numeral hn hrest, excess?, isLong_of_value hvalue]
    exact (and_iff_right (Nat.zero_le k)).symm
  | .array [] =>
    have hopen : lexemes (writeAt .compact level (.array []) ++ rest) =
        ⟨_, .ok .openBracket⟩ :: lexemes (.scalar ']' :: rest) := lexemes_scan rfl rfl
    rw [hopen, lexemes_closeBracket, excess?, if_neg (by simp [startsWith]), excess_closeBracket]
    exact (and_iff_right (Nat.zero_le k)).symm
  | .array (v :: vs) =>
    rw [writable_array_cons] at hv
    have hend := endsNumber_writeItems (level + 1) vs rest
    have hinner := startsWith_of_exists (@exists_lexemes_writeAt (level + 1) _ v hv.1 hend)
    rw [writeAt_array_cons, lexemes_scan rfl rfl, excess_openBracket hinner]
    cases k with
    | zero =>
      refine iff_of_false (fun h => by omega) fun h => ?_
      exact Nat.not_le.2 (depth_array_cons_pos v vs) h.1
    | succ k =>
      rw [excess_writeAt hdigits (level + 1) v hv.1 (k := k) (by omega) hend,
        excess_writeItems hdigits (level + 1) vs hv.2 (k := k) (by omega), depth_array_le_iff,
        List.forall_mem_cons, and_assoc, and_iff_right (by omega)]
  | .object [] =>
    have hopen : lexemes (writeAt .compact level (.object []) ++ rest) =
        ⟨_, .ok .openBrace⟩ :: lexemes (.scalar '}' :: rest) := lexemes_scan rfl rfl
    rw [hopen, lexemes_closeBrace, excess?, if_neg (by simp [startsWith]), excess_closeBrace]
    exact (and_iff_right (Nat.zero_le k)).symm
  | .object ((name, v) :: ms) =>
    rw [writable_object_cons] at hv
    have hend := endsNumber_writeMembers (level + 1) ms rest
    rw [writeAt_object_cons, lexemes_scan rfl rfl, lexemes_writeString, excess_openBrace rfl,
      lexemes_scan rfl rfl, excess_string, excess_colon]
    cases k with
    | zero =>
      refine iff_of_false (fun h => by omega) fun h => ?_
      exact Nat.not_le.2 (depth_object_cons_pos (name, v) ms) h.1
    | succ k =>
      rw [excess_writeAt hdigits (level + 1) v hv.1 (k := k) (by omega) hend,
        excess_writeMembers hdigits (level + 1) ms hv.2 (k := k) (by omega), depth_object_le_iff,
        List.forall_mem_cons, and_assoc, and_iff_right (by omega)]

/-- The items behind the first one go past a limit when one of them is nested too deep. -/
theorem excess_writeItems (hdigits : digitLimit ≤ digits) (level : Nat) (vs : List Json)
    (hvs : (array vs).Writable) {opened k : Nat} {rest : Text} (hlevels : opened + 1 + k = levels) :
    excess? digits levels (opened + 1)
        (lexemes (writeItems .compact level vs ++ .scalar ']' :: rest)) = none ↔
      (∀ v ∈ vs, v.depth ≤ k) ∧
        excess? digits levels opened (lexemes rest) = none := by
  match vs with
  | [] =>
    rw [writeItems, List.nil_append, lexemes_closeBracket, excess_closeBracket]
    exact (and_iff_right (List.forall_mem_nil _)).symm
  | v :: vs =>
    rw [writable_array_cons] at hvs
    have hend := endsNumber_writeItems level vs rest
    rw [writeItems_cons, lexemes_scan rfl rfl, excess_comma,
      excess_writeAt hdigits level v hvs.1 hlevels hend,
      excess_writeItems hdigits level vs hvs.2 hlevels, List.forall_mem_cons, and_assoc]

/-- The members behind the first one go past a limit when the value of one is nested too deep. -/
theorem excess_writeMembers (hdigits : digitLimit ≤ digits) (level : Nat)
    (ms : List (Text × Json)) (hms : (object ms).Writable) {opened k : Nat} {rest : Text}
    (hlevels : opened + 1 + k = levels) :
    excess? digits levels (opened + 1)
        (lexemes (writeMembers .compact level ms ++ .scalar '}' :: rest)) = none ↔
      (∀ m ∈ ms, m.2.depth ≤ k) ∧
        excess? digits levels opened (lexemes rest) = none := by
  match ms with
  | [] =>
    rw [writeMembers, List.nil_append, lexemes_closeBrace, excess_closeBrace]
    exact (and_iff_right (List.forall_mem_nil _)).symm
  | (name, v) :: ms =>
    rw [writable_object_cons] at hms
    have hend := endsNumber_writeMembers level ms rest
    rw [writeMembers_cons, lexemes_scan rfl rfl, lexemes_writeString, lexemes_scan rfl rfl,
      excess_comma, excess_string, excess_colon, excess_writeAt hdigits level v hms.1 hlevels hend,
      excess_writeMembers hdigits level ms hms.2 hlevels, List.forall_mem_cons, and_assoc]

end

/-- **A document goes past a limit** exactly when the value that was written is nested too deep. -/
theorem excess_write (hdigits : digitLimit ≤ digits) {v : Json} (hv : v.Writable) :
    excess? digits levels 0 (lexemes (write .compact v)) = none ↔ v.depth ≤ levels := by
  have hnil : lexemes [] = [] := lexemes_of_nil rfl
  rw [write, ← List.append_nil (writeAt .compact 0 v),
    excess_writeAt hdigits 0 v hv (Nat.zero_add levels) endsNumber_nil, hnil]
  exact and_iff_left rfl

end Json

end JsonApi
