import JsonApi.Encoding.Detect
import JsonApi.Proofs.Except
import Mathlib.Tactic.SplitIfs

/-!
# UTF-8 is read back

A text has a UTF-8 form when all its code points are scalar values (`encode_eq_ok_iff`), and that
form is read back as the text (`text_encodeScalars`).  Bytes that are read, in turn, are the form of
what they are read as (`encode_of_decode`).  Bytes without zeros that start with ASCII are taken for
UTF-8 (`Encoding.detect_of_ascii`).
-/

namespace JsonApi

theorem Text.firstRun_eq_none_iff {p : CodePoint → Bool} (position : Nat) {t : Text} :
    t.firstRun? p position = none ↔ t.all (! p ·) = true := by
  induction t generalizing position with
  | nil => simp [firstRun?]
  | cons c t ih =>
    rw [firstRun?, List.all_cons]
    cases p c <;> simp [ih]

theorem Text.exists_cons_of_firstRun {p : CodePoint → Bool} {position place : Nat} {t run : Text}
    (h : t.firstRun? p position = some (place, run)) : ∃ c rest, run = c :: rest := by
  induction t generalizing position with
  | nil => cases h
  | cons c t ih =>
    rw [firstRun?] at h
    split_ifs at h with hc
    · obtain ⟨-, rfl⟩ := Prod.mk.inj (Option.some.inj h)
      exact ⟨c, t.takeWhile p, List.takeWhile_cons_of_pos hc⟩
    · exact ih h

theorem Piece.lenient_of_text? {encoding : Encoding} {position : Nat} {ps : List Piece} {t : Text}
    (h : text? encoding position ps = .ok t) : lenient ps = t := by
  induction ps generalizing position t with
  | nil => exact Except.ok.inj h
  | cons p ps ih =>
    cases p with
    | fault => cases h
    | point c width =>
      rw [text?] at h
      cases hrest : text? encoding (position + width) ps with
      | error e =>
        rw [hrest] at h
        cases h
      | ok rest =>
        rw [hrest] at h
        obtain rfl := Except.ok.inj h
        exact congrArg (c :: ·) (ih hrest)

theorem CodePoint.toNat_ofNat {n : Nat} (h : n < 0x110000) : (CodePoint.ofNat n).toNat = n := by
  unfold CodePoint.ofNat
  split_ifs with hhalf
  · simp only [toNat]
    omega
  · have hvalid : n.isValidChar := by
      unfold Nat.isValidChar
      omega
    exact congrArg Char.toNat (dif_pos hvalid)

namespace Utf8

theorem encode_eq_ok_iff {t : Text} {bs : Bytes} :
    encode t = .ok bs ↔ t.isScalar = true ∧ encodeScalars t = bs := by
  rw [Text.isScalar, ← Text.firstRun_eq_none_iff 0, encode]
  split
  · rename_i h
    simp [h]
  · rename_i h
    simp [h]

/-! ### One code point -/

variable {halves : Bool} {a b c d : UInt8} {r : Bytes}

theorem pieces_one (ha : a.toNat < 0x80) :
    pieces halves (a :: r) = .point (.ofNat a.toNat) 1 :: pieces halves r := by
  rw [pieces.eq_def]
  simp only [if_pos ha]

theorem pieces_two (ha : 0xC2 ≤ a.toNat ∧ a.toNat < 0xE0) (hb : isTail b = true) :
    pieces halves (a :: b :: r) = .point (.ofNat (code2 a b)) 2 :: pieces halves r := by
  rw [pieces.eq_def]
  simp only [if_neg (show ¬ a.toNat < 0x80 by omega), if_neg (show ¬ a.toNat < 0xC2 by omega),
    if_pos ha.2, hb, if_true]

theorem pieces_three (ha : 0xE0 ≤ a.toNat ∧ a.toNat < 0xF0) (hb : secondOfThree a b = true)
    (hc : isTail c = true) :
    pieces halves (a :: b :: c :: r) = .point (.ofNat (code3 a b c)) 3 :: pieces halves r := by
  rw [pieces.eq_def]
  simp only [if_neg (show ¬ a.toNat < 0x80 by omega), if_neg (show ¬ a.toNat < 0xC2 by omega),
    if_neg (show ¬ a.toNat < 0xE0 by omega), if_pos ha.2, hb, hc, if_true]

theorem pieces_four (ha : 0xF0 ≤ a.toNat ∧ a.toNat < 0xF5) (hb : secondOfFour a b = true)
    (hc : isTail c = true) (hd : isTail d = true) :
    pieces halves (a :: b :: c :: d :: r) =
      .point (.ofNat (code4 a b c d)) 4 :: pieces halves r := by
  rw [pieces.eq_def]
  simp only [if_neg (show ¬ a.toNat < 0x80 by omega), if_neg (show ¬ a.toNat < 0xC2 by omega),
    if_neg (show ¬ a.toNat < 0xE0 by omega), if_neg (show ¬ a.toNat < 0xF0 by omega), if_pos ha.2,
    hb, hc, hd, if_true]

theorem toNat_byte {n : Nat} (h : n < 0x100) : (UInt8.ofNat n).toNat = n :=
  UInt8.toNat_ofNat_of_lt' h

theorem toNat_tail (n : Nat) : (UInt8.ofNat (0x80 + n % 0x40)).toNat = 0x80 + n % 0x40 :=
  toNat_byte (by omega)

theorem isTail_tail (n : Nat) : isTail (.ofNat (0x80 + n % 0x40)) = true := by
  simp only [isTail, toNat_tail, Bool.and_eq_true, decide_eq_true_eq]
  omega

theorem toNat_of_scalar (c : Char) : c.toNat < 0xD800 ∨ 0xE000 ≤ c.toNat ∧ c.toNat < 0x110000 := by
  have := c.valid
  simp only [UInt32.isValidChar, Nat.isValidChar] at this
  simp only [Char.toNat]
  omega

/-- The code of a scalar value is read back from its UTF-8 form. -/
theorem exists_pieces_encodeCode (halves : Bool) {n : Nat}
    (h : n < 0xD800 ∨ 0xE000 ≤ n ∧ n < 0x110000) :
    ∃ width, pieces halves (encodeCode n ++ r) = .point (.ofNat n) width :: pieces halves r := by
  unfold encodeCode
  -- one case for each number of bytes; the second byte is restricted where there are three or four
  split_ifs with h₁ h₂ h₃
  · refine ⟨1, ?_⟩
    have hn : (UInt8.ofNat n).toNat = n := toNat_byte (by omega)
    rw [List.singleton_append, pieces_one (by omega), hn]
  · refine ⟨2, ?_⟩
    have ha : (UInt8.ofNat (0xC0 + n / 0x40)).toNat = 0xC0 + n / 0x40 := toNat_byte (by omega)
    have hcode : code2 (.ofNat (0xC0 + n / 0x40)) (.ofNat (0x80 + n % 0x40)) = n := by
      unfold code2
      rw [ha, toNat_tail]
      omega
    have hlead : 0xC2 ≤ (UInt8.ofNat (0xC0 + n / 0x40)).toNat ∧
        (UInt8.ofNat (0xC0 + n / 0x40)).toNat < 0xE0 := by omega
    exact (pieces_two hlead (isTail_tail n)).trans (hcode.symm ▸ rfl)
  · refine ⟨3, ?_⟩
    have ha : (UInt8.ofNat (0xE0 + n / 0x1000)).toNat = 0xE0 + n / 0x1000 := toNat_byte (by omega)
    have hsecond :
        secondOfThree (.ofNat (0xE0 + n / 0x1000)) (.ofNat (0x80 + n / 0x40 % 0x40)) = true := by
      simp only [secondOfThree, isTail_tail, ha, toNat_tail, Bool.true_and, Bool.and_eq_true,
        Bool.or_eq_true, bne_iff_ne, decide_eq_true_eq]
      omega
    have hcode : code3 (.ofNat (0xE0 + n / 0x1000)) (.ofNat (0x80 + n / 0x40 % 0x40))
        (.ofNat (0x80 + n % 0x40)) = n := by
      unfold code3
      rw [ha, toNat_tail, toNat_tail]
      omega
    have hlead : 0xE0 ≤ (UInt8.ofNat (0xE0 + n / 0x1000)).toNat ∧
        (UInt8.ofNat (0xE0 + n / 0x1000)).toNat < 0xF0 := by omega
    exact (pieces_three hlead hsecond (isTail_tail n)).trans (hcode.symm ▸ rfl)
  · refine ⟨4, ?_⟩
    have ha : (UInt8.ofNat (0xF0 + n / 0x40000)).toNat = 0xF0 + n / 0x40000 := toNat_byte (by omega)
    have hsecond :
        secondOfFour (.ofNat (0xF0 + n / 0x40000)) (.ofNat (0x80 + n / 0x1000 % 0x40)) = true := by
      simp only [secondOfFour, isTail_tail, ha, toNat_tail, Bool.true_and, Bool.and_eq_true,
        Bool.or_eq_true, bne_iff_ne, decide_eq_true_eq]
      omega
    have hcode : code4 (.ofNat (0xF0 + n / 0x40000)) (.ofNat (0x80 + n / 0x1000 % 0x40))
        (.ofNat (0x80 + n / 0x40 % 0x40)) (.ofNat (0x80 + n % 0x40)) = n := by
      unfold code4
      rw [ha, toNat_tail, toNat_tail, toNat_tail]
      omega
    have hlead : 0xF0 ≤ (UInt8.ofNat (0xF0 + n / 0x40000)).toNat ∧
        (UInt8.ofNat (0xF0 + n / 0x40000)).toNat < 0xF5 := by omega
    exact (pieces_four hlead hsecond (isTail_tail _) (isTail_tail n)).trans (hcode.symm ▸ rfl)

/-! ### Texts -/

theorem encodeScalars_cons (c : CodePoint) (t : Text) :
    encodeScalars (c :: t) = encodeCode c.toNat ++ encodeScalars t := List.flatMap_cons

theorem encodeCode_ne_nil (n : Nat) : encodeCode n ≠ [] := by
  unfold encodeCode
  split_ifs <;> exact List.cons_ne_nil _ _

theorem encodeCode_of_lt {n : Nat} (h : n < 0x80) : encodeCode n = [.ofNat n] := if_pos h

/-- **The UTF-8 form of a text is read back as the text**, whether or not the reader admits halves
of surrogate pairs. -/
theorem text_encodeScalars (encoding : Encoding) (position : Nat) {t : Text}
    (h : t.isScalar = true) :
    Piece.text? encoding position (pieces halves (encodeScalars t)) = .ok t := by
  induction t generalizing position with
  | nil =>
    rw [encodeScalars, List.flatMap_nil, pieces]
    rfl
  | cons c t ih =>
    simp only [Text.isScalar, List.all_cons, Bool.and_eq_true] at h
    cases c with
    | surrogate => exact absurd h.1 (by simp [CodePoint.isSurrogate])
    | scalar c =>
      obtain ⟨width, hpieces⟩ := exists_pieces_encodeCode halves
        (r := encodeScalars t) (toNat_of_scalar c)
      have hc : CodePoint.ofNat c.toNat = .scalar c := CodePoint.ofNat_toNat (.scalar c)
      have hcons : encodeScalars (.scalar c :: t) = encodeCode c.toNat ++ encodeScalars t :=
        encodeScalars_cons _ t
      rw [hcons, hpieces, Piece.text?, ih _ h.2, hc]
      rfl

/-- Reading with replacement characters makes no difference where there is nothing to replace. -/
theorem decodeLenient_encodeScalars {t : Text} (h : t.isScalar = true) :
    decodeLenient (encodeScalars t) = t :=
  Piece.lenient_of_text? (text_encodeScalars .utf8 0 h)

theorem ne_zero_of_mem_encodeCode {n : Nat} (hn : n < 0x110000) (h : n ≠ 0)
    (hb : b ∈ encodeCode n) : b ≠ 0 := by
  rintro rfl
  have hzero : ∀ m, (0 : UInt8) = .ofNat m → m % 256 = 0 := fun m hm => by
    rw [← UInt8.toNat_ofNat', ← hm]
    rfl
  -- lead bytes start at 0xC0 and the other ones at 0x80, and no byte reaches 0x100
  unfold encodeCode at hb
  split_ifs at hb <;> simp only [List.mem_cons, List.not_mem_nil, or_false] at hb
  · have := hzero _ hb
    omega
  · rcases hb with hb | hb <;> have := hzero _ hb <;> omega
  · rcases hb with hb | hb | hb <;> have := hzero _ hb <;> omega
  · rcases hb with hb | hb | hb | hb <;> have := hzero _ hb <;> omega

theorem ne_zero_of_mem_encodeScalars {t : Text} (h : ∀ c ∈ t, c.toNat ≠ 0)
    (hb : b ∈ encodeScalars t) : b ≠ 0 := by
  obtain ⟨c, hc, hb⟩ := List.mem_flatMap.1 hb
  exact ne_zero_of_mem_encodeCode c.toNat_lt (h c hc) hb

/-! ### Code points that are read -/

theorem isSurrogate_ofNat {n : Nat} (h : n < 0xD800 ∨ 0xE000 ≤ n) :
    (CodePoint.ofNat n).isSurrogate = false := by
  rw [CodePoint.ofNat, dif_neg (by omega)]
  rfl

theorem code1_range {n : Nat} (h : n < 0x80) : n < 0xD800 ∨ 0xE000 ≤ n := by
  omega

theorem code2_range (ha : a.toNat < 0xE0) (hb : isTail b = true) :
    code2 a b < 0xD800 ∨ 0xE000 ≤ code2 a b := by
  simp only [isTail, Bool.and_eq_true, decide_eq_true_eq] at hb
  unfold code2
  omega

theorem code3_range (ha : ¬ a.toNat < 0xE0) (hb : secondOfThree a b = true)
    (hc : isTail c = true) : code3 a b c < 0xD800 ∨ 0xE000 ≤ code3 a b c := by
  simp only [secondOfThree, isTail, Bool.and_eq_true, Bool.or_eq_true, bne_iff_ne,
    decide_eq_true_eq] at hb hc
  unfold code3
  omega

theorem code4_range (ha : ¬ a.toNat < 0xF0) (hb : secondOfFour a b = true) :
    code4 a b c d < 0xD800 ∨ 0xE000 ≤ code4 a b c d := by
  simp only [secondOfFour, isTail, Bool.and_eq_true, Bool.or_eq_true, bne_iff_ne,
    decide_eq_true_eq] at hb
  unfold code4
  omega

/-- A reader that admits no halves of surrogate pairs gives none. -/
theorem isSurrogate_of_mem_pieces {bs : Bytes} {x : CodePoint} {width : Nat}
    (h : .point x width ∈ pieces false bs) : x.isSurrogate = false := by
  induction bs using pieces.induct false
  -- the tests that lead to a case say which pieces it gives; the first one is a code point or not
  all_goals
    rw [pieces.eq_def] at h
    simp only [*, if_true, if_false, Bool.false_and, Bool.false_eq_true, List.mem_cons,
      List.not_mem_nil, or_false, false_or, Piece.point.injEq, reduceCtorEq] at h
  case case2 ha ih =>
    rcases h with ⟨hx, -⟩ | h
    · exact hx ▸ isSurrogate_ofNat (code1_range ha)
    · exact ih h
  case case5 ha _ _ hb ih =>
    rcases h with ⟨hx, -⟩ | h
    · exact hx ▸ isSurrogate_ofNat (code2_range ha hb)
    · exact ih h
  case case9 ha _ _ hb _ _ hc ih =>
    rcases h with ⟨hx, -⟩ | h
    · exact hx ▸ isSurrogate_ofNat (code3_range ha hb hc)
    · exact ih h
  case case18 ha _ _ hb _ _ _ _ _ ih =>
    rcases h with ⟨hx, -⟩ | h
    · exact hx ▸ isSurrogate_ofNat (code4_range ha hb)
    · exact ih h
  all_goals first
    | exact ‹_ → x.isSurrogate = false› h
    | simp_all

theorem isScalar_decodeLenient (bs : Bytes) : (decodeLenient bs).isScalar = true := by
  refine List.all_eq_true.2 fun x hx => ?_
  obtain ⟨p, hp, rfl⟩ := List.mem_map.1 hx
  cases p with
  | point c width => simpa using isSurrogate_of_mem_pieces hp
  | fault => rfl

/-! ### Bytes are written back -/

theorem eq_of_toNat {n : Nat} (h : a.toNat = n) : UInt8.ofNat n = a := by
  rw [← h, UInt8.ofNat_toNat]

theorem encodeCode_one (ha : a.toNat < 0x80) : encodeCode a.toNat = [a] := by
  rw [encodeCode_of_lt ha, UInt8.ofNat_toNat]

theorem encodeCode_two (ha : 0xC2 ≤ a.toNat ∧ a.toNat < 0xE0) (hb : isTail b = true) :
    encodeCode (code2 a b) = [a, b] := by
  simp only [isTail, Bool.and_eq_true, decide_eq_true_eq] at hb
  unfold code2 encodeCode
  rw [if_neg (by omega), if_pos (by omega), eq_of_toNat (a := a) (by omega),
    eq_of_toNat (a := b) (by omega)]

theorem encodeCode_three (ha : 0xE0 ≤ a.toNat ∧ a.toNat < 0xF0) (hb : secondOfThree a b = true)
    (hc : isTail c = true) : encodeCode (code3 a b c) = [a, b, c] := by
  simp only [secondOfThree, isTail, Bool.and_eq_true, Bool.or_eq_true, bne_iff_ne,
    decide_eq_true_eq] at hb hc
  unfold code3 encodeCode
  rw [if_neg (by omega), if_neg (by omega), if_pos (by omega), eq_of_toNat (a := a) (by omega),
    eq_of_toNat (a := b) (by omega), eq_of_toNat (a := c) (by omega)]

theorem encodeCode_four (ha : 0xF0 ≤ a.toNat ∧ a.toNat < 0xF5) (hb : secondOfFour a b = true)
    (hc : isTail c = true) (hd : isTail d = true) : encodeCode (code4 a b c d) = [a, b, c, d] := by
  simp only [secondOfFour, isTail, Bool.and_eq_true, Bool.or_eq_true, bne_iff_ne,
    decide_eq_true_eq] at hb hc hd
  unfold code4 encodeCode
  rw [if_neg (by omega), if_neg (by omega), if_neg (by omega), eq_of_toNat (a := a) (by omega),
    eq_of_toNat (a := b) (by omega), eq_of_toNat (a := c) (by omega),
    eq_of_toNat (a := d) (by omega)]

theorem code2_lt (ha : a.toNat < 0xE0) (hb : isTail b = true) : code2 a b < 0x110000 := by
  simp only [isTail, Bool.and_eq_true, decide_eq_true_eq] at hb
  unfold code2
  omega

theorem code3_lt (ha : a.toNat < 0xF0) (hb : secondOfThree a b = true) (hc : isTail c = true) :
    code3 a b c < 0x110000 := by
  simp only [secondOfThree, isTail, Bool.and_eq_true, Bool.or_eq_true, bne_iff_ne,
    decide_eq_true_eq] at hb hc
  unfold code3
  omega

theorem code4_lt (ha : a.toNat < 0xF5) (hb : secondOfFour a b = true) (hc : isTail c = true)
    (hd : isTail d = true) : code4 a b c d < 0x110000 := by
  simp only [secondOfFour, isTail, Bool.and_eq_true, Bool.or_eq_true, bne_iff_ne,
    decide_eq_true_eq] at hb hc hd
  unfold code4
  omega

/-- A code point whose bytes are read starts a text whose bytes are. -/
theorem encodeScalars_of_point {encoding : Encoding} {position width n : Nat} {ps : List Piece}
    {front bs : Bytes} {t : Text} (hn : n < 0x110000) (hfront : encodeCode n = front)
    (ih : ∀ {position t}, Piece.text? encoding position ps = .ok t → encodeScalars t = bs)
    (h : Piece.text? encoding position (.point (.ofNat n) width :: ps) = .ok t) :
    encodeScalars t = front ++ bs := by
  obtain ⟨rest, hrest, rfl⟩ := Except.map_eq_ok_iff.1 h
  rw [encodeScalars_cons, ih hrest, CodePoint.toNat_ofNat hn, hfront]

theorem encodeScalars_of_text {bs : Bytes} {encoding : Encoding} {position : Nat} {t : Text}
    (h : Piece.text? encoding position (pieces false bs) = .ok t) : encodeScalars t = bs := by
  induction bs using pieces.induct false generalizing position t
  all_goals
    rw [pieces.eq_def] at h
    simp only [*, if_true, if_false, Bool.false_and, Bool.false_eq_true] at h
  case case1 =>
    obtain rfl := Except.ok.inj h
    rfl
  case case2 ha ih =>
    exact encodeScalars_of_point (by omega) (encodeCode_one ha) ih h
  case case5 hge hlt b r hb ih =>
    exact encodeScalars_of_point (code2_lt hlt hb) (encodeCode_two ⟨by omega, hlt⟩ hb) ih h
  case case9 hge hlt b hb c r hc ih =>
    exact encodeScalars_of_point (code3_lt hlt hb hc) (encodeCode_three ⟨by omega, hlt⟩ hb hc) ih h
  case case18 hge hlt b hb c hc d r hd ih =>
    exact encodeScalars_of_point (code4_lt hlt hb hc hd) (encodeCode_four ⟨by omega, hlt⟩ hb hc hd)
      ih h
  all_goals cases h

/-- A text that is read has no halves of surrogate pairs. -/
theorem isScalar_of_text {bs : Bytes} {encoding : Encoding} {position : Nat} {t : Text}
    (h : Piece.text? encoding position (pieces false bs) = .ok t) : t.isScalar = true :=
  Piece.lenient_of_text? h ▸ isScalar_decodeLenient bs

/-- **Bytes that are read are the UTF-8 form of what they are read as.** -/
theorem encode_of_decode {bs : Bytes} {t : Text} (h : decode bs = .ok t) : encode t = .ok bs :=
  encode_eq_ok_iff.2 ⟨isScalar_of_text h, encodeScalars_of_text h⟩

/-! ### Bytes of ASCII -/

/-- A byte of ASCII is read as itself, whatever is in front of it and behind it. -/
theorem decodeLenient_append_cons (ha : a.toNat < 0x80) (bs r : Bytes) :
    decodeLenient (bs ++ a :: r) = decodeLenient bs ++ .ofNat a.toNat :: decodeLenient r := by
  have htail : isTail a = false := by rw [isTail, decide_eq_false (by omega), Bool.false_and]
  have hthree : ∀ b, secondOfThree b a = false := fun b => by simp [secondOfThree, htail]
  have hfour : ∀ b, secondOfFour b a = false := fun b => by simp [secondOfFour, htail]
  have hone : pieces false (a :: r) = .point (.ofNat a.toNat) 1 :: pieces false r := pieces_one ha
  simp only [decodeLenient, Piece.lenient]
  induction bs using pieces.induct false
  case case1 =>
    have hnil : pieces false [] = [] := pieces.eq_1 false
    rw [List.nil_append, hone, hnil]
    rfl
  -- a sequence that is broken off in front of the byte is a fault with the byte and without it
  all_goals
    try simp only [List.cons_append, List.nil_append, Bool.false_and, Bool.false_eq_true] at *
  all_goals
    rw [pieces.eq_def, pieces.eq_def false (_ :: _)]
    simp only [*, if_true, if_false, Bool.false_and, Bool.false_eq_true, List.cons_append,
      List.nil_append, List.map_cons, List.map_nil]

/-! ### Counting -/

theorem length_pieces_tail (hb : isTail b = true) :
    (pieces halves (b :: r)).length = (pieces halves r).length + 1 := by
  simp only [isTail, Bool.and_eq_true, decide_eq_true_eq] at hb
  rw [pieces.eq_def]
  simp only [if_neg (show ¬ b.toNat < 0x80 by omega), if_pos (show b.toNat < 0xC2 by omega),
    List.length_cons]

/-- One more byte in front makes one more piece at the most, because the bytes that it takes in are
pieces of their own without it. -/
theorem length_pieces_cons_le (halves : Bool) (a : UInt8) (r : Bytes) :
    (pieces halves (a :: r)).length ≤ (pieces halves r).length + 1 := by
  have hthree : ∀ {b}, secondOfThree a b = true → isTail b = true := by
    intro b h
    simp only [secondOfThree, Bool.and_eq_true] at h
    exact h.1.1
  have hfour : ∀ {b}, secondOfFour a b = true → isTail b = true := by
    intro b h
    simp only [secondOfFour, Bool.and_eq_true] at h
    exact h.1.1
  -- whatever follows the lead byte in a sequence, or in a broken start of one, continues it
  rw [pieces.eq_def]
  dsimp only
  repeat' split
  all_goals simp_all [length_pieces_tail]

end Utf8

namespace Encoding

/-- Bytes without zeros that start with a character of ASCII are those of UTF-8. -/
theorem detect_of_ascii {a : UInt8} {r : Bytes} (ha : a.toNat < 0x80)
    (h : ∀ b ∈ a :: r, b ≠ 0) : detect (a :: r) = ⟨.utf8, a :: r, 0⟩ := by
  have hzeros : ofZeros (a :: r) = .utf8 := by
    unfold ofZeros
    split <;> simp_all
  unfold detect
  split <;> simp_all

/-- **The UTF-8 form of a document is read as the document**, when it starts with a character of
ASCII and holds no null characters. -/
theorem documentText_encodeScalars {t : Text} (h : t.isScalar = true)
    (hzero : ∀ c ∈ t, c.toNat ≠ 0) (hhead : ∀ c ∈ t.head?, c.toNat < 0x80) :
    documentText (Utf8.encodeScalars t) = .ok t := by
  -- the reader guesses the encoding from zeros and marks at the front, and there are none
  have hdetect : detect (Utf8.encodeScalars t) = ⟨.utf8, Utf8.encodeScalars t, 0⟩ := by
    match t with
    | [] => rfl
    | c :: r =>
      have hc : c.toNat < 0x80 := hhead c rfl
      have hbytes : ∀ b ∈ Utf8.encodeScalars (c :: r), b ≠ 0 :=
        fun b hb => Utf8.ne_zero_of_mem_encodeScalars hzero hb
      rw [Utf8.encodeScalars_cons, Utf8.encodeCode_of_lt hc, List.singleton_append] at hbytes ⊢
      refine detect_of_ascii ?_ hbytes
      rwa [Utf8.toNat_byte (by omega)]
  rw [documentText, hdetect]
  exact Utf8.text_encodeScalars .utf8 0 h

end Encoding

end JsonApi
