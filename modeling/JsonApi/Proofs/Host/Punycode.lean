import JsonApi.Host.Punycode
import JsonApi.Proofs.Text
import Mathlib.Tactic.SplitIfs

/-!
# Characters of Punycode

What `Punycode.encode` writes are ASCII characters of the text itself, a hyphen and digits, and what
`Punycode.decode` reads is nothing else.
-/

namespace JsonApi.Host.Punycode

variable {c : CodePoint} {t r base : Text}

/-! ### Writing -/

/-- The character of a digit to the base 36. -/
def IsDigit (x : Char) : Prop := ∃ d < 36, x = digit d

theorem isDigit_of_mem_number {bias fuel place n : Nat} {x : Char}
    (h : x ∈ number bias fuel place n) : IsDigit x := by
  induction fuel generalizing place n with
  | zero => cases h
  | succ fuel ih =>
    have ht : threshold place bias ≤ 26 := Nat.min_le_left ..
    simp only [number] at h
    split at h
    · exact ⟨n, by omega, List.mem_singleton.1 h⟩
    · rcases List.mem_cons.1 h with rfl | h
      · have := Nat.mod_lt (n - threshold place bias) (show 0 < 36 - threshold place bias by omega)
        exact ⟨_, by omega, rfl⟩
      · exact ih h

theorem isDigit_of_mem_insertionsOf {ascii length code : Nat} {p : Progress} {cs : List Nat}
    {x : Char} (h : x ∈ (insertionsOf ascii length code p cs).2) : IsDigit x := by
  induction cs generalizing p with
  | nil => cases h
  | cons c cs ih =>
    rw [insertionsOf] at h
    split at h
    · exact ih h
    · split at h
      · rcases List.mem_append.1 h with h | h
        · exact isDigit_of_mem_number h
        · exact ih h
      · exact ih h

theorem isDigit_of_mem_insertions {ascii : Nat} {text codes : List Nat} {p : Progress} {x : Char}
    (h : x ∈ insertions ascii text p codes) : IsDigit x := by
  induction codes generalizing p with
  | nil => cases h
  | cons code codes ih =>
    rw [insertions] at h
    rcases List.mem_append.1 h with h | h
    · exact isDigit_of_mem_insertionsOf h
    · exact ih h

theorem mem_encode (h : c ∈ encode t) :
    c ∈ t ∧ c.isAscii = true ∨ c = .scalar '-' ∨ ∃ x, IsDigit x ∧ c = .scalar x := by
  rw [encode] at h
  rcases List.mem_append.1 h with h | h
  · split at h
    · cases h
    · rcases List.mem_append.1 h with h | h
      · exact .inl (List.mem_filter.1 h)
      · exact .inr (.inl (List.mem_singleton.1 h))
  · obtain ⟨x, hx, rfl⟩ := List.mem_map.1 h
    exact .inr (.inr ⟨x, isDigit_of_mem_insertions hx, rfl⟩)

/-! ### Reading -/

theorem isSome_digit_of_number? {bias place weight sum n : Nat} {rest : Text}
    (h : number? bias place weight sum t = some (n, rest)) :
    ∀ c ∈ t, (digit? c).isSome = true ∨ c ∈ rest := by
  induction t generalizing place weight sum with
  | nil => exact List.forall_mem_nil _
  | cons c t ih =>
    cases hd : digit? c with
    | none => simp [number?, hd] at h
    | some d =>
      simp only [number?, hd, Option.bind_eq_bind, Option.bind_some] at h
      refine List.forall_mem_cons.2 ⟨.inl (by rw [hd]; rfl), fun x hx => ?_⟩
      split at h
      · obtain ⟨-, rfl⟩ := Prod.mk.inj (Option.some.inj h)
        exact .inr hx
      · exact ih h x hx

/-- One insertion takes a number from the front of what is left and puts a character somewhere into
the text. -/
theorem exists_step {first : Bool} {code place bias : Nat}
    (h : insertAll first code place bias base (c :: t) = some r) :
    ∃ delta rest code' place' bias' front x back,
      number? bias 1 1 0 (c :: t) = some (delta, rest) ∧ front ++ back = base ∧
        insertAll false code' place' bias' (front ++ x :: back) rest = some r := by
  rw [insertAll] at h
  split at h
  · cases h
  · rename_i delta rest hn
    simp only at h
    split at h
    · cases h
    · exact ⟨delta, rest, _, _, _, base.take _, _, base.drop _, hn, List.take_append_drop .., h⟩

/-- Insertions are digits, and they leave the text that they are made in. -/
theorem mem_of_insertAll {first : Bool} {code place bias : Nat} {base t r : Text}
    (h : insertAll first code place bias base t = some r) :
    (∀ c ∈ t, (digit? c).isSome = true) ∧ ∀ c ∈ base, c ∈ r := by
  match t, h with
  | [], h =>
    rw [insertAll] at h
    exact ⟨List.forall_mem_nil _, fun c hc => Option.some.inj h ▸ hc⟩
  | c :: t, h =>
    obtain ⟨delta, rest, _, _, _, front, x, back, hn, rfl, hrest⟩ := exists_step h
    have hlt := length_lt_of_number? hn
    obtain ⟨hdigits, hmem⟩ := mem_of_insertAll hrest
    refine ⟨fun y hy => ?_, fun y hy => hmem y ?_⟩
    · exact (isSome_digit_of_number? hn y hy).elim id (hdigits y)
    · exact (List.mem_append.1 hy).elim (List.mem_append_left _)
        fun hy => List.mem_append_right _ (List.mem_cons_of_mem _ hy)
termination_by t.length
decreasing_by exact hlt

/-- A text that is read consists of characters of the result, digits and a hyphen. -/
theorem mem_of_decode (h : decode t = some r) (hc : c ∈ t) :
    c ∈ r ∨ c = .scalar '-' ∨ (digit? c).isSome = true := by
  rw [decode] at h
  split at h
  · rename_i hhyphen
    obtain ⟨back, front, hsplit, hback⟩ :=
      List.eq_append_cons_of_mem (List.mem_reverse.2 (List.contains_iff_mem.1 hhyphen))
    have hextended : t.reverse.takeWhile (· ≠ .scalar '-') = back := by
      rw [hsplit, List.takeWhile_append_of_pos, List.takeWhile_cons_of_neg (by simp),
        List.append_nil]
      exact fun x hx => decide_eq_true fun h => hback (h ▸ hx)
    have ht : t = front.reverse ++ .scalar '-' :: back.reverse := by
      rw [← List.reverse_reverse t, hsplit]
      simp
    have hbase : t.take (t.length - back.reverse.length - 1) = front.reverse := by
      rw [ht, List.take_left']
      simp only [List.length_append, List.length_cons, List.length_reverse]
      omega
    dsimp only at h
    rw [hextended, hbase] at h
    obtain ⟨hdigits, hmem⟩ := mem_of_insertAll h
    rw [ht, List.mem_append, List.mem_cons] at hc
    rcases hc with hc | rfl | hc
    · exact .inl (hmem c hc)
    · exact .inr (.inl rfl)
    · exact .inr (.inr (hdigits c hc))
  · exact .inr (.inr ((mem_of_insertAll h).1 c hc))

end JsonApi.Host.Punycode
