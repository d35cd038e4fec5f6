import JsonApi.Proofs.Except
import JsonApi.Proofs.Json.Dense
import JsonApi.Proofs.Json.Scanning
import JsonApi.Proofs.Json.Settled

/-!
# The text of a token

A token that is scanned takes a solid text off the front, and the same token is scanned from that
text whatever stands behind it (`exists_front`); only a number looks further, for where it ends.
Inside a string literal an escape looks at what follows it (`StringPart`), but never further than
the closing quote (`exists_literal`).
-/

namespace JsonApi

namespace Json

/-! ### String literals -/

/-- The first part of the rest of a string literal, the code point that it spells, and what stands
behind it.  An escape by code is followed by something, and unless it is a pair that is no escape
that it makes a pair with. -/
inductive StringPart : Text → CodePoint → Text → Prop
  | plain {c : CodePoint} {rest : Text} (hc : 0x20 ≤ c.toNat) (hquote : c ≠ .scalar '"')
      (hbackslash : c ≠ .scalar '\\') : StringPart [c] c rest
  | letter {l : CodePoint} {c : Char} {rest : Text} (hc : escaped? l = some c) :
      StringPart [.scalar '\\', l] (.scalar c) rest
  | pair {a b c d a' b' c' d' e : CodePoint} {n code : Nat} {rest : Text}
      (hn : hexUnit? a b c d = some n)
      (hcode : (hexUnit? a' b' c' d').bind (escapedPair? n) = some code) :
      StringPart [.scalar '\\', .scalar 'u', a, b, c, d, .scalar '\\', .scalar 'u', a', b', c', d']
        (.ofNat code) (e :: rest)
  | unit {a b c d e : CodePoint} {n : Nat} {rest : Text} (hn : hexUnit? a b c d = some n)
      (hrest : ∀ {a' b' c' d' f tail},
        e :: rest = .scalar '\\' :: .scalar 'u' :: a' :: b' :: c' :: d' :: f :: tail →
          (hexUnit? a' b' c' d').bind (escapedPair? n) = none) :
      StringPart [.scalar '\\', .scalar 'u', a, b, c, d] (.ofNat n) (e :: rest)

variable {opening t rest s x : Text} {c : CodePoint} {q : Position}

theorem stringItem_of_part (h : StringPart s c rest) :
    stringItem opening (s ++ rest) = .ok (some c, rest) := by
  cases h with
  | plain hc hquote hbackslash =>
    rw [List.singleton_append]
    unfold stringItem
    split <;> simp_all
  | letter hc =>
    unfold escaped? at hc
    split at hc <;> cases hc <;> rfl
  | pair hn hcode => simp [stringItem, hn, hcode]
  | unit hn hrest =>
    simp only [List.cons_append, List.nil_append, stringItem, hn]
    split
    · simp only [hrest rfl]
    · rfl

theorem exists_stringPart (h : stringItem opening t = .ok (some c, rest)) :
    ∃ s, t = s ++ rest ∧ StringPart s c rest := by
  unfold stringItem at h
  split at h
  · cases h
  · cases h
  · -- behind a backslash
    split at h
    · cases h
    · split at h
      · split at h
        · cases h
        · -- the code is read, and what follows it is an escape by code or is none
          split at h
          · split at h
            · cases h
              exact ⟨_, rfl, .pair ‹_› ‹_›⟩
            · cases h
              refine ⟨_, rfl, .unit ‹_› ?_⟩
              rintro a' b' c' d' f tail ⟨⟩
              assumption
          · rename_i hnone
            cases h
            refine ⟨_, rfl, .unit ‹_› ?_⟩
            rintro a' b' c' d' f tail ⟨⟩
            exact (hnone _ _ _ _ _ _ rfl rfl).elim
      · cases h
    · split at h
      · cases h
        exact ⟨_, rfl, .letter ‹_›⟩
      · cases h
  · split at h
    · cases h
    · cases h
      exact ⟨_, rfl, .plain (Nat.not_lt.1 ‹_›) ‹_› ‹_›⟩

/-- A hexadecimal digit is no quote, no backslash and no null character. -/
theorem solid_hexDigit {d : CodePoint} {n : Nat} (hd : d.hexDigit? = some n)
    (hs : Solid .inside s q) : Solid .inside (d :: s) q := by
  refine .inside ?_ ?_ ?_ hs
  · intro hzero
    rw [← CodePoint.ofNat_toNat d, hzero] at hd
    cases hd
  · rintro rfl
    cases hd
  · rintro rfl
    cases hd

/-- An escape by code stays inside the literal. -/
theorem solid_unit {a b c d : CodePoint} {n : Nat} (hn : hexUnit? a b c d = some n)
    (hs : Solid .inside s q) :
    Solid .inside (.scalar '\\' :: .scalar 'u' :: a :: b :: c :: d :: s) q := by
  obtain ⟨m, ha, hn⟩ := Option.bind_eq_some_iff.1 hn
  obtain ⟨m, hb, hn⟩ := Option.bind_eq_some_iff.1 hn
  obtain ⟨m, hc, hn⟩ := Option.bind_eq_some_iff.1 hn
  obtain ⟨m, hd, -⟩ := Option.bind_eq_some_iff.1 hn
  have hdigits := solid_hexDigit ha (solid_hexDigit hb (solid_hexDigit hc (solid_hexDigit hd hs)))
  exact .cons nofun nofun (.cons nofun nofun hdigits)

theorem StringPart.solid (h : StringPart s c rest) : Solid .inside s .inside := by
  cases h with
  | plain hc hquote hbackslash =>
    refine .inside ?_ hquote hbackslash (.nil _)
    omega
  | letter hc =>
    unfold escaped? at hc
    split at hc <;> cases hc <;> exact .cons nofun nofun (.cons nofun nofun (.nil _))
  | pair hn hcode =>
    obtain ⟨low, hlow, -⟩ := Option.bind_eq_some_iff.1 hcode
    exact solid_unit hn (solid_unit hlow (.nil _))
  | unit hn => exact solid_unit hn (.nil _)

theorem solid_quote : Solid .inside [.scalar '"'] .outside :=
  .cons (by decide) (fun h => by cases h) (.nil _)

theorem eq_of_stringItem_none (h : stringItem opening t = .ok (none, rest)) :
    t = .scalar '"' :: rest := by
  unfold stringItem at h
  repeat' split at h
  all_goals simp_all

theorem ne_nil_of_stringRest {cs : Text} (h : stringRest opening t = .ok (cs, rest)) :
    t ≠ [] := by
  rintro rfl
  rw [stringRest_of_error rfl] at h
  cases h

/-- An escape by code at the front of what a string literal goes on with, up to its end, is all
there. -/
theorem exists_of_stringRest {r tail cs : Text} {a b c d f : CodePoint}
    (hr : stringRest opening r = .ok (cs, []))
    (h : r ++ x = .scalar '\\' :: .scalar 'u' :: a :: b :: c :: d :: f :: tail) :
    ∃ t, r = .scalar '\\' :: .scalar 'u' :: a :: b :: c :: d :: f :: t := by
  match hi : stringItem opening r with
  | .error e =>
    rw [stringRest_of_error hi] at hr
    cases hr
  | .ok (none, r') =>
    obtain rfl := eq_of_stringItem_none hi
    cases h
  | .ok (some c', r') =>
    obtain ⟨s, rfl, hs⟩ := exists_stringPart hi
    cases hs with
    | plain hc hquote hbackslash => exact absurd (List.cons.inj h).1 hbackslash
    | letter hc =>
      obtain rfl : _ = CodePoint.scalar 'u' := (List.cons.inj (List.cons.inj h).2).1
      cases hc
    | pair => cases h; exact ⟨_, rfl⟩
    | unit => cases h; exact ⟨_, rfl⟩

/-- A part of a string literal is read alike whatever stands behind the literal. -/
theorem StringPart.append {r : Text} {cs : Text} (hs : StringPart s c (r ++ rest))
    (hr : stringRest opening r = .ok (cs, [])) : StringPart s c (r ++ x) := by
  obtain ⟨e, r, rfl⟩ := List.exists_cons_of_ne_nil (ne_nil_of_stringRest hr)
  cases hs with
  | plain hc hquote hbackslash => exact .plain hc hquote hbackslash
  | letter hc => exact .letter hc
  | pair hn hcode => exact .pair hn hcode
  | unit hn hrest =>
    refine .unit hn fun h => ?_
    obtain ⟨t, ht⟩ := exists_of_stringRest hr h
    exact hrest ((congrArg (· ++ rest) ht).trans rfl)

/-- The rest of a string literal is read alike whatever stands behind its closing quote. -/
theorem exists_literal {cs : Text} (h : stringRest opening t = .ok (cs, rest)) :
    ∃ r, t = r ++ rest ∧ Solid .inside r .outside ∧
      ∀ opening x, stringRest opening (r ++ x) = .ok (cs, x) := by
  fun_induction stringRest opening t generalizing cs rest with
  | case1 t e he => cases h
  | case2 t r hnone =>
    cases h
    exact ⟨[.scalar '"'], eq_of_stringItem_none hnone, solid_quote,
      fun opening x => stringRest_of_none rfl⟩
  | case3 t c r hsome hlt ih =>
    obtain ⟨⟨cs, rest'⟩, hrest, he⟩ := Except.map_eq_ok_iff.1 h
    cases he
    obtain ⟨r', rfl, hr', hread⟩ := ih hrest
    obtain ⟨s, rfl, hs⟩ := exists_stringPart hsome
    refine ⟨s ++ r', (List.append_assoc ..).symm, hs.solid.append hr', fun opening x => ?_⟩
    have hs' : StringPart s c (r' ++ x) := hs.append (by simpa using hread opening [])
    rw [List.append_assoc, stringRest_of_some (stringItem_of_part hs'), hread]
    rfl

/-! ### Words and numbers -/

theorem eq_append_of_word {w : List Char} (h : word? w t = some rest) :
    t = Text.ofChars w ++ rest := by
  fun_induction word? w t with
  | case1 => exact Option.some.inj h
  | case2 c w t ih => rw [ih h]; rfl
  | case3 => cases h
  | case4 => cases h

theorem word_append (w : List Char) : word? w (Text.ofChars w ++ x) = some x := by
  induction w with
  | nil => rfl
  | cons c w ih =>
    rw [Text.ofChars, List.map_cons, List.cons_append, word?, if_pos rfl]
    exact ih

theorem eq_append_of_digits {ds : List Char} (h : digits t = (ds, rest)) :
    t = Text.ofChars ds ++ rest := by
  fun_induction digits t generalizing ds rest with
  | case1 c t hc cs rest' hr ih =>
    cases h
    rw [ih hr]
    rfl
  | case2 => cases h; rfl
  | case3 => cases h; rfl

theorem head_of_digits {ds : List Char} (h : digits t = (ds, rest)) :
    ∀ c ∈ rest.head?, c.isDigit = false := by
  fun_induction digits t generalizing ds rest with
  | case1 c t hc cs rest' hr ih =>
    cases h
    exact ih hr
  | case2 c t hc =>
    cases h
    rintro _ ⟨⟩
    exact Bool.eq_false_iff.2 hc
  | case3 t ht =>
    cases h
    rintro c hc
    cases c with
    | scalar c => exact (ht c t.tail (List.eq_cons_of_mem_head? hc)).elim
    | surrogate => rfl

theorem areDigits_of_digits {ds : List Char} (h : digits t = (ds, rest)) (hne : ds ≠ []) :
    Numeral.AreDigits ds :=
  ⟨hne, fun c hc => isDigit_of_mem_digits (t := t) (by rwa [h])⟩

theorem solid_digit {d : Char} (hd : d.isDigit = true) (hs : Solid .outside s q) :
    Solid .outside (.scalar d :: s) q := by
  obtain ⟨hlow, hhigh⟩ := Char.isDigit_iff_toNat.1 hd
  have hvisible : isVisible (.scalar d) = true := decide_eq_true
    ⟨Nat.lt_of_lt_of_le (by decide) hlow, Nat.lt_of_le_of_lt hhigh (by decide)⟩
  have hquote : (d != '"') = true := bne_iff_ne.2 (by rintro rfl; cases hd)
  exact .outside (by rw [isBare, hvisible, hquote]; rfl) hs

theorem solid_digits {ds : List Char} (hd : ∀ d ∈ ds, d.isDigit = true) :
    Solid .outside (Text.ofChars ds) .outside := by
  induction ds with
  | nil => exact .nil _
  | cons d ds ih =>
    obtain ⟨hd, hds⟩ := List.forall_mem_cons.1 hd
    exact solid_digit hd (ih hds)

/-- The fraction of a number is taken off as it is written. -/
theorem eq_append_of_fraction {f : Option (List Char)} (h : fraction t = (f, rest)) :
    t = Numeral.fractionText f ++ rest ∧ ∀ ds ∈ f, Numeral.AreDigits ds := by
  unfold fraction at h
  split at h
  · rename_i t
    split at h
    · cases h
      exact ⟨rfl, nofun⟩
    · rename_i ds rest' hne hd
      cases h
      refine ⟨by rw [eq_append_of_digits hd]; rfl, ?_⟩
      rintro ds ⟨⟩
      exact areDigits_of_digits hd hne
  · cases h
    exact ⟨rfl, nofun⟩

theorem exists_sign (t : Text) : ∃ s, t = s ++ (sign t).2 ∧ Solid .outside s .outside ∧
    ∀ c x, c.isDigit = true → sign (s ++ .scalar c :: x) = ((sign t).1, .scalar c :: x) := by
  unfold sign
  split
  · exact ⟨Text.ofChars ['-'], rfl, .ofChars rfl, fun c x hc => rfl⟩
  · exact ⟨Text.ofChars ['+'], rfl, .ofChars rfl, fun c x hc => rfl⟩
  · refine ⟨[], rfl, .nil _, fun c x hc => ?_⟩
    rw [List.nil_append]
    split
    · rename_i h
      cases h
      cases hc
    · rename_i h
      cases h
      cases hc
    · rfl

/-- A text that is read as the exponent of a number where the number ends behind it. -/
structure SpellsExponent (r : Text) (e : Option (Bool × List Char)) : Prop where
  solid : Solid .outside r .outside
  read : ∀ x, EndsNumber x → exponent (r ++ x) = (e, x)
  head : ∀ x, EndsNumber x → ∀ c ∈ (r ++ x).head?, c.isDigit = false ∧ c ≠ .scalar '.'

theorem spellsExponent_nil : SpellsExponent [] none where
  solid := .nil _
  read x hx := by
    have hnone : ∀ e ∈ (none : Option (Bool × List Char)), Numeral.AreDigits e.2 := nofun
    exact exponent_exponentText hnone hx
  head _ hx c hc := ⟨(hx c hc).1, (hx c hc).2.1⟩

theorem exists_exponent {e : Option (Bool × List Char)} (h : exponent t = (e, rest)) :
    ∃ r, t = r ++ rest ∧ SpellsExponent r e := by
  unfold exponent at h
  split at h
  · rename_i c t
    split at h
    · rename_i hc
      split at h
      · cases h
        exact ⟨[], rfl, spellsExponent_nil⟩
      · rename_i ds rest' hne hd
        cases h
        obtain ⟨s, hs, hsolid, hsign⟩ := exists_sign t
        obtain ⟨hne, hdigits⟩ := areDigits_of_digits hd hne
        refine ⟨.scalar c :: (s ++ Text.ofChars ds), ?_, ?_, fun x hx => ?_, fun x _ => ?_⟩
        · rw [List.cons_append, List.append_assoc, ← eq_append_of_digits hd, ← hs]
        · refine .outside ?_ (hsolid.append (solid_digits hdigits))
          rcases hc with rfl | rfl <;> rfl
        · obtain ⟨d, ds, rfl⟩ := List.exists_cons_of_ne_nil hne
          have hsign' : sign (s ++ (Text.ofChars (d :: ds) ++ x)) =
              ((sign t).1, Text.ofChars (d :: ds) ++ x) := hsign d _ (hdigits d List.mem_cons_self)
          have hd' := digits_ofChars_append hdigits fun y hy => (hx y hy).1
          simp only [List.cons_append, List.append_assoc, exponent, if_pos hc, hsign', hd']
        · rintro y ⟨⟩
          rcases hc with rfl | rfl <;> exact ⟨rfl, by decide⟩
    · cases h
      exact ⟨[], rfl, spellsExponent_nil⟩
  · cases h
    exact ⟨[], rfl, spellsExponent_nil⟩

theorem solid_fractionText {f : Option (List Char)} (hf : ∀ ds ∈ f, Numeral.AreDigits ds) :
    Solid .outside (Numeral.fractionText f) .outside := by
  cases f with
  | none => exact .nil _
  | some ds => exact .outside rfl (solid_digits (hf ds rfl).2)

/-- The digits of a number before the point, behind the first one. -/
theorem exists_whole (c : Char) (t : Text) : ∃ ds t', t = Text.ofChars ds ++ t' ∧
    (∀ d ∈ ds, d.isDigit = true) ∧ (c = '0' → ds = []) ∧
      (c ≠ '0' → ∀ d ∈ t'.head?, d.isDigit = false) := by
  by_cases hz : c = '0'
  · exact ⟨[], t, rfl, List.forall_mem_nil _, fun _ => rfl, fun h => absurd hz h⟩
  · have hd : digits t = ((digits t).1, (digits t).2) := rfl
    exact ⟨_, _, eq_append_of_digits hd, fun d => isDigit_of_mem_digits, fun h => absurd h hz,
      fun _ => head_of_digits hd⟩

/-- A number takes its own text off the front, and is read from it where it ends. -/
theorem exists_number {negative : Bool} {token : Token}
    (h : numeral negative t = .ok (token, rest)) :
    ∃ c r, t = .scalar c :: (r ++ rest) ∧ c.isDigit = true ∧ Solid .outside r .outside ∧
      (∃ n, token = .number n) ∧
      ∀ x, EndsNumber x → numeral negative (.scalar c :: (r ++ x)) = .ok (token, x) := by
  match t with
  | [] => cases h
  | .surrogate _ :: _ => cases h
  | .scalar c :: t =>
    have hc : c.isDigit = true := by
      by_contra hc
      rw [numeral, if_neg hc] at h
      cases h
    obtain ⟨ds, t, rfl, hd, hzero, ht⟩ := exists_whole c t
    obtain ⟨f, t', hf⟩ : ∃ f t', fraction t = (f, t') := ⟨_, _, rfl⟩
    obtain ⟨e, t'', he⟩ : ∃ e t'', exponent t' = (e, t'') := ⟨_, _, rfl⟩
    rw [numeral_cons hc hd hzero ht, hf, he] at h
    cases h
    obtain ⟨rfl, hfraction⟩ := eq_append_of_fraction hf
    obtain ⟨r, rfl, hexponent⟩ := exists_exponent he
    refine ⟨c, Text.ofChars ds ++ (Numeral.fractionText f ++ r), ?_, hc, ?_, ⟨_, rfl⟩,
      fun x hx => ?_⟩
    · rw [List.append_assoc, List.append_assoc]
    · exact (solid_digits hd).append ((solid_fractionText hfraction).append hexponent.solid)
    · have hhead := head_fractionText f fun c hc => (hexponent.head x hx c hc).1
      rw [List.append_assoc, List.append_assoc, numeral_cons hc hd hzero fun _ => hhead,
        fraction_fractionText hfraction (hexponent.head x hx), hexponent.read x hx]

/-! ### Tokens -/

theorem exists_word {w : List Char} {token token' : Token} (hw : w.all isBare = true)
    (h : wordToken w token t = .ok (token', rest)) :
    ∃ r, t = r ++ rest ∧ Solid .outside r .outside ∧
      ∀ x, wordToken w token (r ++ x) = .ok (token', x) := by
  unfold wordToken at h
  split at h
  · rename_i hrest
    cases h
    refine ⟨Text.ofChars w, eq_append_of_word hrest, .ofChars hw, fun x => ?_⟩
    rw [wordToken, word_append]
  · cases h

/-- **A token takes a solid text off the front**, and is scanned from it whatever stands behind it;
a number has to end there. -/
theorem exists_front {c : CodePoint} {token : Token} (h : scan c t = .ok (token, rest)) :
    ∃ r, t = r ++ rest ∧ Solid .outside (c :: r) .outside ∧
      ∀ x, ((∃ n, token = .number n) → EndsNumber x) → scan c (r ++ x) = .ok (token, x) := by
  unfold scan at h
  split at h
  case h_7 =>
    obtain ⟨⟨cs, rest'⟩, hrest, he⟩ := Except.map_eq_ok_iff.1 h
    cases he
    obtain ⟨r, ht, hr, hread⟩ := exists_literal hrest
    refine ⟨r, ht, .cons nofun (fun _ => rfl) hr, fun x _ => ?_⟩
    simp only [scan, hread, Except.ok_map]
  case h_13 =>
    split at h
    · rename_i hrest
      cases h
      refine ⟨_, eq_append_of_word hrest, .outside rfl (.ofChars rfl), ?_⟩
      intro x _
      simp only [scan, word_append]
    · obtain ⟨d, r, rfl, hd, hr, hnumber, hread⟩ := exists_number h
      refine ⟨.scalar d :: r, rfl, .outside rfl (solid_digit hd hr), fun x hx => ?_⟩
      -- behind a minus sign the scanner looks for a constant first
      have hword :
          word? ['I', 'n', 'f', 'i', 'n', 'i', 't', 'y'] (.scalar d :: (r ++ x)) = none := by
        have : d ≠ 'I' := by rintro rfl; contradiction
        rw [word?, if_neg this]
      simp only [List.cons_append, scan, hword, hread x (hx hnumber)]
  case h_14 =>
    obtain ⟨d, r, hcons, hd, hr, hnumber, hread⟩ := exists_number h
    obtain ⟨rfl, rfl⟩ := List.cons.inj hcons
    exact ⟨r, rfl, solid_digit hd hr, fun x hx =>
      (scan_of_isDigit hd).trans (hread x (hx hnumber))⟩
  case h_8 | h_9 | h_10 | h_11 | h_12 =>
    obtain ⟨r, ht, hr, hread⟩ := exists_word rfl h
    exact ⟨r, ht, .outside rfl hr, fun x _ => hread x⟩
  all_goals
    cases h
    exact ⟨[], rfl, .outside rfl (.nil _), fun x _ => rfl⟩

end Json

end JsonApi
