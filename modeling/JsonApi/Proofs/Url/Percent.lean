import JsonApi.Proofs.Encoding.Utf8
import JsonApi.Proofs.Except
import JsonApi.Url.Percent

/-!
# Percent coding is read back

A text that holds no escape of its own is read back from its escaped form
(`Percent.decode_of_encode`).  Of a text with escapes less is read back than was written
(`Percent.length_decode_add_le`), because they stay as they are when it is written and are read all
the same.
-/

namespace JsonApi.Percent

/-- Whether a text starts with an escape. -/
def startsEscape : Text → Bool
  | .scalar '%' :: a :: b :: _ => a.hexDigit?.isSome && b.hexDigit?.isSome
  | _ => false

/-- Whether there is an escape anywhere in a text. -/
def holdsEscape : Text → Bool
  | [] => false
  | c :: t => startsEscape (c :: t) || holdsEscape t

variable {isSafe : CodePoint → Bool} {a b c : CodePoint} {t e : Text}

/-! ### Steps -/

/-- What a character is written as, when it has a form in UTF-8. -/
def shown (isSafe : CodePoint → Bool) (c : CodePoint) : Text :=
  if isUnreserved c || isSafe c then [c] else (Utf8.encodeCode c.toNat).flatMap escape

theorem encode_escape (ha : a.hexDigit?.isSome = true) (hb : b.hexDigit?.isSome = true) :
    encode isSafe (.scalar '%' :: a :: b :: t) =
      (encode isSafe t).map fun t => .scalar '%' :: a :: b :: t := by
  rw [encode, if_pos ⟨ha, hb⟩]

theorem encode_cons (h : startsEscape (c :: t) = false) : encode isSafe (c :: t) =
    encodeOne isSafe c >>= fun front => (encode isSafe t).map (front ++ ·) := by
  rw [encode.eq_def]
  split
  · rename_i heq
    cases heq
  · rename_i heq
    cases heq
    rw [startsEscape, Bool.and_eq_false_iff] at h
    rw [if_neg (by rintro ⟨ha, hb⟩; simp [ha, hb] at h)]
    rfl
  · rename_i heq
    cases heq
    rfl

theorem bytes_escape {m n : Nat} (ha : a.hexDigit? = some m) (hb : b.hexDigit? = some n) :
    bytes (.scalar '%' :: a :: b :: t) = .ofNat (m * 16 + n) :: bytes t := by
  rw [bytes, ha, hb]

theorem bytes_cons (h : startsEscape (c :: t) = false) :
    bytes (c :: t) = .ofNat c.toNat :: bytes t := by
  rw [bytes.eq_def]
  split
  · rename_i heq
    cases heq
  · rename_i heq
    cases heq
    rw [startsEscape, Bool.and_eq_false_iff] at h
    split
    · rename_i ha hb
      simp [ha, hb] at h
    · rfl
  · rename_i heq
    cases heq
    rfl

/-! ### Characters that stand for themselves -/

/-- A class of ASCII characters. -/
def OfAscii (isSafe : CodePoint → Bool) : Prop := ∀ c, isSafe c = true → c.isAscii = true

theorem isAscii_of_isUnreserved (h : isUnreserved c = true) : c.isAscii = true := by
  cases c with
  | surrogate => cases h
  | scalar c =>
    simp only [isUnreserved, Bool.or_eq_true, Bool.and_eq_true, decide_eq_true_eq] at h
    rw [CodePoint.isAscii, CodePoint.toNat, decide_eq_true_eq]
    rcases h with (((h | rfl) | rfl) | rfl) | rfl
    · exact h.2
    all_goals decide

theorem isUnreserved_of_alphanum (h : 48 ≤ c.toNat ∧ c.toNat ≤ 57 ∨ 65 ≤ c.toNat ∧ c.toNat ≤ 90 ∨
    97 ≤ c.toNat ∧ c.toNat ≤ 122) : isUnreserved c = true := by
  cases c with
  | surrogate offset =>
    simp only [CodePoint.toNat] at h
    omega
  | scalar c =>
    rw [CodePoint.toNat] at h
    have hbetween : ∀ {low high : UInt32}, low.toNat ≤ c.toNat ∧ c.toNat ≤ high.toNat →
        low ≤ c.val ∧ c.val ≤ high := fun h =>
      ⟨UInt32.le_iff_toNat_le.2 h.1, UInt32.le_iff_toNat_le.2 h.2⟩
    have halnum : c.isAlphanum = true := by
      have hdef : c.isAlphanum = (c.isUpper || c.isLower || c.isDigit) := rfl
      rw [hdef]
      rcases h with h | h | h
      · rw [show c.isDigit = true from Char.isDigit_iff_toNat.2 h, Bool.or_true]
      · rw [show c.isUpper = true from decide_eq_true (hbetween h), Bool.true_or, Bool.true_or]
      · have hsmall : 'a'.val ≤ c.val ∧ c.val ≤ 'z'.val := hbetween h
        have hlower : c.isLower = true :=
          Bool.and_eq_true_iff.2 ⟨decide_eq_true hsmall.1, decide_eq_true hsmall.2⟩
        rw [hlower, Bool.or_true, Bool.true_or]
    have hascii : c.toNat < 0x80 := by omega
    simp [isUnreserved, halnum, hascii]

theorem toNat_of_hexDigit (h : c.hexDigit?.isSome = true) : 48 ≤ c.toNat ∧ c.toNat ≤ 57 ∨
    65 ≤ c.toNat ∧ c.toNat ≤ 70 ∨ 97 ≤ c.toNat ∧ c.toNat ≤ 102 := by
  cases c with
  | surrogate => cases h
  | scalar c =>
    simp only [CodePoint.hexDigit?, Char.le_def, UInt32.le_iff_toNat_le, Char.reduceVal,
      UInt32.reduceToNat] at h
    simp only [CodePoint.toNat, Char.toNat]
    split_ifs at h
    · omega
    · omega
    · omega
    · cases h

theorem isUnreserved_of_hexDigit (h : c.hexDigit?.isSome = true) : isUnreserved c = true := by
  have := toNat_of_hexDigit h
  exact isUnreserved_of_alphanum (by omega)

theorem encodeOne_eq_ok_iff (hsafe : OfAscii isSafe) :
    encodeOne isSafe c = .ok e ↔ c.isSurrogate = false ∧ shown isSafe c = e := by
  unfold encodeOne shown
  split
  · rename_i h
    have hascii := (Bool.or_eq_true _ _ ▸ h).elim isAscii_of_isUnreserved (hsafe c)
    have hc : c.isSurrogate = false := by
      cases c with
      | scalar => rfl
      | surrogate offset =>
        rw [CodePoint.isAscii, CodePoint.toNat, decide_eq_true_eq] at hascii
        omega
    simp [hc]
  · rw [Except.map_eq_ok_iff]
    simp [Utf8.encode_eq_ok_iff, Text.isScalar, Utf8.encodeScalars, and_assoc]

theorem shown_of_hexDigit (h : c.hexDigit?.isSome = true) : shown isSafe c = [c] := by
  rw [shown, isUnreserved_of_hexDigit h, Bool.true_or, if_pos rfl]

theorem isSurrogate_of_hexDigit (h : c.hexDigit?.isSome = true) : c.isSurrogate = false := by
  cases c with
  | scalar => rfl
  | surrogate => cases h

/-! ### The written form -/

/-- What is written for a character in front of what is written for the rest. -/
theorem encode_cons_eq_ok_iff (hsafe : OfAscii isSafe) (h : startsEscape (c :: t) = false) :
    encode isSafe (c :: t) = .ok e ↔
      c.isSurrogate = false ∧ ∃ rest, encode isSafe t = .ok rest ∧ shown isSafe c ++ rest = e := by
  rw [encode_cons h, Except.bind_eq_ok_iff]
  simp only [encodeOne_eq_ok_iff hsafe, Except.map_eq_ok_iff]
  constructor
  · rintro ⟨_, ⟨hc, rfl⟩, hrest⟩
    exact ⟨hc, hrest⟩
  · rintro ⟨hc, hrest⟩
    exact ⟨_, ⟨hc, rfl⟩, hrest⟩

/-- Induction over a text from escape to escape. -/
theorem escapeInduction {motive : Text → Prop} (nil : motive [])
    (escape : ∀ a b t, a.hexDigit?.isSome = true → b.hexDigit?.isSome = true → motive t →
      motive (.scalar '%' :: a :: b :: t))
    (cons : ∀ c t, startsEscape (c :: t) = false → motive t → motive (c :: t)) (t : Text) :
    motive t := by
  induction t using encode.induct with
  | case1 => exact nil
  | case2 a b t h ih => exact escape a b t h.1 h.2 ih
  | case3 a b t h ih =>
    exact cons _ _ (by rw [startsEscape, ← Bool.not_eq_true, Bool.and_eq_true]; exact h) ih
  | case4 c t h ih =>
    refine cons c t ?_ ih
    unfold startsEscape
    split
    · rename_i heq
      cases heq
      exact absurd rfl (h _ _ _ rfl)
    · rfl

/-- The escaped form exists exactly for texts that have a form in UTF-8. -/
theorem exists_encode_iff (hsafe : OfAscii isSafe) :
    (∃ e, encode isSafe t = .ok e) ↔ t.isScalar = true := by
  induction t using escapeInduction with
  | nil => simp [encode, Text.isScalar]
  | escape a b t ha hb ih =>
    rw [encode_escape ha hb]
    simp only [Except.map_eq_ok_iff, Text.isScalar, List.all_cons, isSurrogate_of_hexDigit ha,
      isSurrogate_of_hexDigit hb] at ih ⊢
    simpa [CodePoint.isSurrogate] using ih
  | cons c t h ih =>
    simp only [encode_cons_eq_ok_iff hsafe h, Text.isScalar, List.all_cons, Bool.and_eq_true,
      Bool.not_eq_true'] at ih ⊢
    rw [← ih]
    simp

/-! ### The form is read -/

/-- Whether a text starts with so many hexadecimal digits. -/
def startsHex : Nat → Text → Bool
  | 0, _ => true
  | _ + 1, [] => false
  | n + 1, c :: t => c.hexDigit?.isSome && startsHex n t

theorem startsEscape_percent : startsEscape (.scalar '%' :: t) = startsHex 2 t := by
  match t with
  | [] | [_] | _ :: _ :: _ => simp [startsEscape, startsHex]

theorem startsEscape_of_ne (h : c ≠ .scalar '%') : startsEscape (c :: t) = false := by
  unfold startsEscape
  split
  · rename_i heq
    cases heq
    exact absurd rfl h
  · rfl

theorem holdsEscape_of_not_mem (h : .scalar '%' ∉ t) : holdsEscape t = false := by
  induction t with
  | nil => rfl
  | cons c t ih =>
    rw [List.mem_cons, not_or] at h
    rw [holdsEscape, startsEscape_of_ne (Ne.symm h.1), ih h.2, Bool.or_false]

theorem exists_shown_cons (isSafe : CodePoint → Bool) (c : CodePoint) :
    ∃ f r, shown isSafe c = f :: r ∧ (c.hexDigit?.isSome = false → f.hexDigit?.isSome = false) := by
  unfold shown
  split
  · exact ⟨c, [], rfl, id⟩
  · obtain ⟨b, bs, hbs⟩ := List.exists_cons_of_ne_nil (Utf8.encodeCode_ne_nil c.toNat)
    exact ⟨_, _, by rw [hbs]; rfl, fun _ => rfl⟩

/-- Writing neither makes nor hides digits at the front. -/
theorem startsHex_of_encode (hsafe : OfAscii isSafe) (h : encode isSafe t = .ok e) (n : Nat) :
    startsHex n e = startsHex n t := by
  -- on the text as it is written: an escape starts with no digit, and a digit stands for itself
  induction t using escapeInduction generalizing e n with
  | nil =>
    obtain rfl := Except.ok.inj h
    rfl
  | escape a b t ha hb =>
    rw [encode_escape ha hb, Except.map_eq_ok_iff] at h
    obtain ⟨rest, -, rfl⟩ := h
    cases n <;> rfl
  | cons c t hstart ih =>
    obtain ⟨-, rest, hrest, rfl⟩ := (encode_cons_eq_ok_iff hsafe hstart).1 h
    cases n with
    | zero => rfl
    | succ n =>
      cases hc : c.hexDigit?.isSome with
      | true => rw [shown_of_hexDigit hc, List.singleton_append, startsHex, startsHex, ih hrest n]
      | false =>
        obtain ⟨f, r, hshown, hf⟩ := exists_shown_cons isSafe c
        rw [hshown, List.cons_append, startsHex, startsHex, hf hc, hc, Bool.false_and,
          Bool.false_and]

theorem startsEscape_of_encode (hsafe : OfAscii isSafe) (h : encode isSafe t = .ok e) :
    startsEscape (c :: e) = startsEscape (c :: t) := by
  by_cases hc : c = .scalar '%'
  · rw [hc, startsEscape_percent, startsEscape_percent, startsHex_of_encode hsafe h]
  · rw [startsEscape_of_ne hc, startsEscape_of_ne hc]

theorem hexDigit_hexDigit : ∀ n < 16, (hexDigit n).hexDigit? = some n := by decide

theorem bytes_flatMap_escape (bs : Bytes) (t : Text) :
    bytes (bs.flatMap escape ++ t) = bs ++ bytes t := by
  induction bs with
  | nil => rfl
  | cons b bs ih =>
    have hb := b.toNat_lt
    have hm := hexDigit_hexDigit (b.toNat / 16) (by omega)
    have hn := hexDigit_hexDigit (b.toNat % 16) (by omega)
    have hvalue : UInt8.ofNat (b.toNat / 16 * 16 + b.toNat % 16) = b := by
      rw [Nat.div_add_mod', UInt8.ofNat_toNat]
    rw [List.flatMap_cons, escape, List.append_assoc]
    exact (bytes_escape hm hn).trans (by rw [hvalue, List.append_eq, List.nil_append, ih]; rfl)

/-- What is written for a character is read as the character in UTF-8. -/
theorem bytes_shown_append (hsafe : OfAscii isSafe) (h : startsEscape (c :: t) = false) :
    bytes (shown isSafe c ++ t) = Utf8.encodeCode c.toNat ++ bytes t := by
  unfold shown
  split
  · rename_i hc
    have hascii := (Bool.or_eq_true _ _ ▸ hc).elim isAscii_of_isUnreserved (hsafe c)
    rw [CodePoint.isAscii, decide_eq_true_eq] at hascii
    rw [List.singleton_append, bytes_cons h, Utf8.encodeCode_of_lt hascii, List.singleton_append]
  · exact bytes_flatMap_escape _ t

/-- **A text without escapes is read back** from its escaped form. -/
theorem decode_of_encode (hsafe : OfAscii isSafe) (h : encode isSafe t = .ok e)
    (ht : holdsEscape t = false) : decode e = t := by
  have hbytes : bytes e = Utf8.encodeScalars t := by
    induction t using escapeInduction generalizing e with
    | nil =>
      obtain rfl := Except.ok.inj h
      rfl
    | escape a b t ha hb =>
      simp [holdsEscape, startsEscape, ha, hb] at ht
    | cons c t hstart ih =>
      obtain ⟨-, rest, hrest, rfl⟩ := (encode_cons_eq_ok_iff hsafe hstart).1 h
      rw [holdsEscape, Bool.or_eq_false_iff] at ht
      rw [bytes_shown_append hsafe (startsEscape_of_encode hsafe hrest ▸ hstart), ih hrest ht.2,
        Utf8.encodeScalars_cons]
  rw [decode, hbytes]
  exact Utf8.decodeLenient_encodeScalars ((exists_encode_iff hsafe).1 ⟨e, h⟩)

theorem length_decode (e : Text) : (decode e).length = (Utf8.pieces false (bytes e)).length :=
  List.length_map _

/-- Reading back what was written gives no more than was written, and less when there are
escapes. -/
theorem length_decode_add_le (hsafe : OfAscii isSafe) (h : encode isSafe t = .ok e) :
    (decode e).length + (holdsEscape t).toNat ≤ t.length := by
  rw [length_decode]
  induction t using escapeInduction generalizing e with
  | nil =>
    obtain rfl := Except.ok.inj h
    rw [bytes, Utf8.pieces]
    exact Nat.le_refl 0
  | escape a b t ha hb ih =>
    rw [encode_escape ha hb, Except.map_eq_ok_iff] at h
    obtain ⟨rest, hrest, rfl⟩ := h
    obtain ⟨m, hm⟩ := Option.isSome_iff_exists.1 ha
    obtain ⟨n, hn⟩ := Option.isSome_iff_exists.1 hb
    have hle := Utf8.length_pieces_cons_le false (.ofNat (m * 16 + n)) (bytes rest)
    have := ih hrest
    have := Bool.toNat_le (holdsEscape (.scalar '%' :: a :: b :: t))
    rw [bytes_escape hm hn]
    simp only [List.length_cons]
    omega
  | cons c t hstart ih =>
    obtain ⟨hc, rest, hrest, rfl⟩ := (encode_cons_eq_ok_iff hsafe hstart).1 h
    have hholds : holdsEscape (c :: t) = holdsEscape t := by rw [holdsEscape, hstart, Bool.false_or]
    rw [bytes_shown_append hsafe (startsEscape_of_encode hsafe hrest ▸ hstart), hholds]
    cases c with
    | surrogate => cases hc
    | scalar c =>
      obtain ⟨width, hpieces⟩ := Utf8.exists_pieces_encodeCode false (r := bytes rest)
        (Utf8.toNat_of_scalar c)
      have := ih hrest
      simp only [CodePoint.toNat, hpieces, List.length_cons]
      omega

/-! ### Parts of texts -/

theorem startsHex_append (hc : c.hexDigit?.isSome = false) (n : Nat) (t r : Text) :
    startsHex n (t ++ c :: r) = startsHex n t := by
  induction t generalizing n with
  | nil => cases n <;> simp [startsHex, hc]
  | cons a t ih => cases n <;> simp [startsHex, ih]

theorem startsEscape_append (hc : c.hexDigit?.isSome = false) (t r : Text) :
    startsEscape (a :: (t ++ c :: r)) = startsEscape (a :: t) := by
  by_cases ha : a = .scalar '%'
  · rw [ha, startsEscape_percent, startsEscape_percent, startsHex_append hc]
  · rw [startsEscape_of_ne ha, startsEscape_of_ne ha]

/-- No escape reaches across a character that has no place in one. -/
theorem holdsEscape_append (hc : c.hexDigit?.isSome = false) (hne : c ≠ .scalar '%')
    (t r : Text) : holdsEscape (t ++ c :: r) = (holdsEscape t || holdsEscape r) := by
  induction t with
  | nil => simp [holdsEscape, startsEscape_of_ne hne]
  | cons a t ih =>
    rw [List.cons_append, holdsEscape, startsEscape_append hc, ih, holdsEscape, Bool.or_assoc]

/-- A text is written piece by piece between characters that have no place in an escape and stand
for themselves. -/
theorem encode_append_cons_eq_ok_iff (hsafe : OfAscii isSafe) (hc : c.hexDigit?.isSome = false)
    (hne : c ≠ .scalar '%') (hself : isSafe c = true) {t r : Text} :
    encode isSafe (t ++ c :: r) = .ok e ↔
      ∃ d f, encode isSafe t = .ok d ∧ encode isSafe r = .ok f ∧ d ++ c :: f = e := by
  have hshown : shown isSafe c = [c] := by rw [shown, hself, Bool.or_true, if_pos rfl]
  have hscalar : c.isSurrogate = false :=
    ((encodeOne_eq_ok_iff hsafe).1 (by rw [encodeOne, hself, Bool.or_true, if_pos rfl])).1
  induction t using escapeInduction generalizing e with
  | nil =>
    rw [List.nil_append, encode_cons_eq_ok_iff hsafe (startsEscape_of_ne hne), hshown]
    simp [hscalar, encode]
  | escape a b t ha hb ih =>
    simp only [List.cons_append, encode_escape ha hb, Except.map_eq_ok_iff, ih]
    constructor
    · rintro ⟨_, ⟨d, f, hd, hf, rfl⟩, rfl⟩
      exact ⟨_, f, ⟨d, hd, rfl⟩, hf, rfl⟩
    · rintro ⟨_, f, ⟨d, hd, rfl⟩, hf, rfl⟩
      exact ⟨_, ⟨d, f, hd, hf, rfl⟩, rfl⟩
  | cons a t hstart ih =>
    have hstart' : startsEscape (a :: (t ++ c :: r)) = false := by
      rw [startsEscape_append hc, hstart]
    simp only [List.cons_append, encode_cons_eq_ok_iff hsafe hstart',
      encode_cons_eq_ok_iff hsafe hstart, ih]
    constructor
    · rintro ⟨ha, _, ⟨d, f, hd, hf, rfl⟩, rfl⟩
      exact ⟨_, f, ⟨ha, d, hd, rfl⟩, hf, List.append_assoc ..⟩
    · rintro ⟨_, f, ⟨ha, d, hd, rfl⟩, hf, rfl⟩
      exact ⟨ha, _, ⟨d, f, hd, hf, rfl⟩, (List.append_assoc ..).symm⟩

theorem bytes_append_cons (hc : c.hexDigit?.isSome = false) (hne : c ≠ .scalar '%')
    (t r : Text) : bytes (t ++ c :: r) = bytes t ++ .ofNat c.toNat :: bytes r := by
  induction t using escapeInduction with
  | nil => exact bytes_cons (startsEscape_of_ne hne)
  | escape a b t ha hb ih =>
    obtain ⟨m, hm⟩ := Option.isSome_iff_exists.1 ha
    obtain ⟨n, hn⟩ := Option.isSome_iff_exists.1 hb
    have hread := bytes_escape (t := t ++ c :: r) hm hn
    rw [ih] at hread
    rw [bytes_escape hm hn]
    exact hread
  | cons a t hstart ih =>
    have hstart' : startsEscape (a :: (t ++ c :: r)) = false := by
      rw [startsEscape_append hc, hstart]
    rw [List.cons_append, bytes_cons hstart', ih, bytes_cons hstart, List.cons_append]

theorem decode_nil : decode [] = [] := by
  rw [decode, bytes, Utf8.decodeLenient, Utf8.pieces]
  rfl

/-- A text is read piece by piece between characters of ASCII that have no place in an escape. -/
theorem decode_append_cons (hc : c.hexDigit?.isSome = false) (hne : c ≠ .scalar '%')
    (hascii : c.isAscii = true) (t r : Text) :
    decode (t ++ c :: r) = decode t ++ c :: decode r := by
  rw [CodePoint.isAscii, decide_eq_true_eq] at hascii
  have hbyte : (UInt8.ofNat c.toNat).toNat = c.toNat := Utf8.toNat_byte (by omega)
  rw [decode, bytes_append_cons hc hne, Utf8.decodeLenient_append_cons (by omega), hbyte,
    CodePoint.ofNat_toNat]
  rfl

/-- What is written are escapes, and characters of the text that stand for themselves. -/
theorem mem_encode (hsafe : OfAscii isSafe) (h : encode isSafe t = .ok e) (hmem : c ∈ e) :
    c = .scalar '%' ∨ c.hexDigit?.isSome = true ∨
      c ∈ t ∧ (isUnreserved c || isSafe c) = true := by
  induction t using escapeInduction generalizing e with
  | nil =>
    obtain rfl := Except.ok.inj h
    cases hmem
  | escape a b t ha hb ih =>
    rw [encode_escape ha hb, Except.map_eq_ok_iff] at h
    obtain ⟨rest, hrest, rfl⟩ := h
    simp only [List.mem_cons] at hmem ⊢
    rcases hmem with rfl | rfl | rfl | hmem
    · exact .inl rfl
    · exact .inr (.inl ha)
    · exact .inr (.inl hb)
    · exact (ih hrest hmem).imp_right (.imp_right (.imp_left fun h => .inr (.inr (.inr h))))
  | cons a t hstart ih =>
    obtain ⟨-, rest, hrest, rfl⟩ := (encode_cons_eq_ok_iff hsafe hstart).1 h
    rcases List.mem_append.1 hmem with hmem | hmem
    · unfold shown at hmem
      split at hmem
      · rename_i ha
        obtain rfl := List.mem_singleton.1 hmem
        exact .inr (.inr ⟨List.mem_cons_self, ha⟩)
      · obtain ⟨b, -, hb⟩ := List.mem_flatMap.1 hmem
        have := b.toNat_lt
        have hdigit : ∀ n < 16, c = hexDigit n → c.hexDigit?.isSome = true := by
          rintro n hn rfl
          rw [hexDigit_hexDigit n hn]
          rfl
        simp only [escape, List.mem_cons, List.not_mem_nil, or_false] at hb
        rcases hb with hb | hb | hb
        · exact .inl hb
        · exact .inr (.inl (hdigit _ (by omega) hb))
        · exact .inr (.inl (hdigit _ (by omega) hb))
    · exact (ih hrest hmem).imp_right (.imp_right (.imp_left (List.mem_cons_of_mem _)))

/-- A character outside the escapes is not written unless it is in the text. -/
theorem mem_of_mem_encode (hsafe : OfAscii isSafe) (hc : c.hexDigit?.isSome = false)
    (hne : c ≠ .scalar '%') (h : encode isSafe t = .ok e) (hmem : c ∈ e) : c ∈ t := by
  rcases mem_encode hsafe h hmem with h | h | h
  · exact absurd h hne
  · rw [hc] at h
    cases h
  · exact h.1

theorem isAscii_of_mem_encode (hsafe : OfAscii isSafe) (h : encode isSafe t = .ok e)
    (hmem : c ∈ e) : c.isAscii = true := by
  rcases mem_encode hsafe h hmem with rfl | h | h
  · rfl
  · exact isAscii_of_isUnreserved (isUnreserved_of_hexDigit h)
  · exact (Bool.or_eq_true _ _ ▸ h.2).elim isAscii_of_isUnreserved (hsafe c)

/-- Characters that stand for themselves are written as they are. -/
theorem encode_of_forall (h : ∀ c ∈ t, (isUnreserved c || isSafe c) = true) :
    encode isSafe t = .ok t := by
  induction t using escapeInduction with
  | nil => rfl
  | escape a b t ha hb ih =>
    rw [encode_escape ha hb, ih fun c hc => h c (by simp [hc]), Except.ok_map]
  | cons c t hstart ih =>
    obtain ⟨hc, ht⟩ := List.forall_mem_cons.1 h
    rw [encode_cons hstart, encodeOne, if_pos hc, ih ht]
    rfl

/-- Nothing is written in fewer characters than it has. -/
theorem length_le_of_encode (hsafe : OfAscii isSafe) (h : encode isSafe t = .ok e) :
    t.length ≤ e.length := by
  induction t using escapeInduction generalizing e with
  | nil => exact Nat.zero_le _
  | escape a b t ha hb ih =>
    rw [encode_escape ha hb, Except.map_eq_ok_iff] at h
    obtain ⟨rest, hrest, rfl⟩ := h
    have := ih hrest
    simp only [List.length_cons]
    omega
  | cons c t hstart ih =>
    obtain ⟨-, rest, hrest, rfl⟩ := (encode_cons_eq_ok_iff hsafe hstart).1 h
    obtain ⟨f, r, hshown, -⟩ := exists_shown_cons isSafe c
    have := ih hrest
    simp only [hshown, List.cons_append, List.length_cons, List.length_append]
    omega

/-! ### Writing again -/

/-- What was written stays as it is when it is written again. -/
theorem encode_of_encode (hsafe : OfAscii isSafe) (hpercent : isSafe (.scalar '%') = true)
    (h : encode isSafe t = .ok e) : encode isSafe e = .ok e := by
  refine encode_of_forall fun c hc => ?_
  rcases mem_encode hsafe h hc with rfl | hdigit | hplain
  · rw [hpercent, Bool.or_true]
  · rw [isUnreserved_of_hexDigit hdigit, Bool.true_or]
  · exact hplain.2

theorem percent_mem_flatMap_escape {bs : Bytes} (h : bs ≠ []) :
    .scalar '%' ∈ bs.flatMap escape := by
  obtain ⟨b, bs, rfl⟩ := List.exists_cons_of_ne_nil h
  rw [List.flatMap_cons]
  exact List.mem_append_left _ List.mem_cons_self

/-- Where no percent sign was written, nothing was escaped. -/
theorem eq_of_encode (hsafe : OfAscii isSafe) (h : encode isSafe t = .ok e)
    (hpercent : .scalar '%' ∉ e) : e = t := by
  induction t using escapeInduction generalizing e with
  | nil => exact (Except.ok.inj h).symm
  | escape a b t ha hb ih =>
    rw [encode_escape ha hb] at h
    obtain ⟨rest, -, rfl⟩ := Except.map_eq_ok_iff.1 h
    exact absurd List.mem_cons_self hpercent
  | cons c t hstart ih =>
    obtain ⟨-, rest, hrest, rfl⟩ := (encode_cons_eq_ok_iff hsafe hstart).1 h
    rw [List.mem_append, not_or] at hpercent
    rw [ih hrest hpercent.2]
    have hfront := hpercent.1
    unfold shown at hfront ⊢
    split_ifs at hfront ⊢
    · rfl
    · exact absurd (percent_mem_flatMap_escape (Utf8.encodeCode_ne_nil _)) hfront

end JsonApi.Percent
