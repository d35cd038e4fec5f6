import JsonApi.Proofs.Json.RoundTrip

/-!
# Reading ASCII texts

A written text in ASCII spells a code point past ASCII by its code units, one or two.  A reader
takes the two halves of a surrogate pair for one code point, also when they were two in the text
that was written.

* `hex_of_lt` : the four digits of a code unit;
* `Text.joined` : a text with the halves that stand side by side joined;
* `respells_ascii` : which is what is read of a string literal in ASCII;
* `ofText_writeAscii` : so a value is read with its texts joined;
* `ofText_spell_iff` : the text that a value is usually spelled as is read without constants when
  all numbers of the value have a JSON form.
-/

namespace JsonApi

/-! ### Halves side by side -/

/-- A text in which two halves of a surrogate pair that stand side by side are one code point. -/
def Text.joined : Text → Text
  | c :: d :: t =>
    match Json.escapedPair? c.toNat d.toNat with
    | some code => .ofNat code :: joined t
    | none => c :: joined (d :: t)
  | t => t

namespace Json

theorem escapedPair_eq_none_iff {high low : Nat} :
    escapedPair? high low = none ↔
      ¬ (0xD800 ≤ high ∧ high < 0xDC00 ∧ 0xDC00 ≤ low ∧ low < 0xE000) := by
  rw [escapedPair?, ite_eq_right_iff]
  simp

theorem escapedPair_of_isSurrogate {c : CodePoint} (hc : c.isSurrogate = false) (low : Nat) :
    escapedPair? c.toNat low = none := by
  rw [escapedPair_eq_none_iff]
  cases c with
  | surrogate => cases hc
  | scalar c =>
    have hvalid := c.valid
    simp only [UInt32.isValidChar, Nat.isValidChar] at hvalid
    simp only [CodePoint.toNat, Char.toNat]
    omega

/-- The units of a code point past the first plane are a pair that spells it. -/
theorem escapedPair_units {n : Nat} (hlow : 0x10000 ≤ n) (hhigh : n < 0x110000) :
    escapedPair? (0xD800 + (n - 0x10000) / 0x400) (0xDC00 + (n - 0x10000) % 0x400) = some n := by
  rw [escapedPair?, if_pos (by omega)]
  exact congrArg some (by omega)

end Json

theorem Text.joined_cons {c : CodePoint} (hc : c.isSurrogate = false) (t : Text) :
    joined (c :: t) = c :: joined t := by
  cases t with
  | nil => rfl
  | cons d t => rw [joined, Json.escapedPair_of_isSurrogate hc]

theorem Text.joined_of_isScalar {t : Text} (h : t.isScalar = true) : t.joined = t := by
  fun_induction joined t with
  | case1 c d t code hpair ih =>
    simp only [isScalar, List.all_cons, Bool.and_eq_true, Bool.not_eq_true'] at h
    rw [Json.escapedPair_of_isSurrogate h.1] at hpair
    cases hpair
  | case2 c d t hpair ih =>
    simp only [isScalar, List.all_cons, Bool.and_eq_true] at h ih
    rw [ih h.2]
  | case3 => rfl

namespace Json

/-! ### The digits of a code unit -/

theorem hex_succ (width n : Nat) :
    Text.hex (width + 2) n =
      Text.hex (width + 1) (n / 16) ++ [.scalar (Nat.digitChar (n % 16))] := by
  have hdigit : [CodePoint.scalar (Nat.digitChar (n % 16))] =
      Text.ofChars [Nat.digitChar (n % 16)] := rfl
  rw [Text.hex, Text.hex, hdigit, ← Text.ofChars_append]
  congr 1
  by_cases hn : n < 16
  · rw [Nat.toDigits_of_lt_base hn, Nat.div_eq_of_lt hn, Nat.mod_eq_of_lt hn]
    simp [List.replicate_succ']
  · rw [Nat.toDigits_of_base_le (by decide) (Nat.not_lt.1 hn)]
    simp

theorem hex_of_lt {n : Nat} (h : n < 0x10000) :
    Text.hex 4 n =
      [.scalar (Nat.digitChar (n / 16 / 16 / 16)), .scalar (Nat.digitChar (n / 16 / 16 % 16)),
        .scalar (Nat.digitChar (n / 16 % 16)), .scalar (Nat.digitChar (n % 16))] := by
  have hfirst : Nat.toDigits 16 (n / 16 / 16 / 16) = [Nat.digitChar (n / 16 / 16 / 16)] :=
    Nat.toDigits_of_lt_base (by omega)
  rw [hex_succ, hex_succ, hex_succ, Text.hex, hfirst]
  rfl

theorem hexUnit_of_lt {n : Nat} (h : n < 0x10000) :
    hexUnit? (.scalar (Nat.digitChar (n / 16 / 16 / 16)))
      (.scalar (Nat.digitChar (n / 16 / 16 % 16))) (.scalar (Nat.digitChar (n / 16 % 16)))
      (.scalar (Nat.digitChar (n % 16))) = some n := by
  have h₀ := hexDigit_ofNat (n / 16 / 16 / 16) (by omega)
  have h₁ := hexDigit_ofNat (n / 16 / 16 % 16) (by omega)
  have h₂ := hexDigit_ofNat (n / 16 % 16) (by omega)
  have h₃ := hexDigit_ofNat (n % 16) (by omega)
  simp only [hexUnit?, h₀, h₁, h₂, h₃, Option.bind_eq_bind, Option.bind_some, Option.pure_def]
  congr 1
  omega

/-! ### Escapes -/

/-- The code unit that an escape at the front of a text spells; something has to stand behind the
escape. -/
def frontUnit? : Text → Option Nat
  | .scalar '\\' :: .scalar 'u' :: a :: b :: c :: d :: _ :: _ => hexUnit? a b c d
  | _ => none

theorem frontUnit_unitEscape {n : Nat} (h : n < 0x10000) (e : CodePoint) (t : Text) :
    frontUnit? (unitEscape n ++ e :: t) = some n := by
  rw [unitEscape, hex_of_lt h]
  exact hexUnit_of_lt h

variable {opening t : Text} {c e : CodePoint}

/-- A unit is read as itself unless it makes a pair with the unit behind it. -/
theorem stringItem_unitEscape {n : Nat} (hn : n < 0x10000)
    (h : (frontUnit? (e :: t)).bind (escapedPair? n) = none) :
    stringItem opening (unitEscape n ++ e :: t) = .ok (some (.ofNat n), e :: t) := by
  rw [unitEscape, hex_of_lt hn]
  simp only [Text.ofChars, List.map_cons, List.map_nil, List.cons_append, List.nil_append,
    stringItem, hexUnit_of_lt hn]
  split
  · rename_i a b c d f tail
    rw [frontUnit?] at h
    rw [h]
  · rfl

/-- Two units that make a pair are read as one code point. -/
theorem stringItem_pair {high low code : Nat} (hhigh : high < 0x10000) (hlow : low < 0x10000)
    (h : escapedPair? high low = some code) :
    stringItem opening (unitEscape high ++ (unitEscape low ++ e :: t)) =
      .ok (some (.ofNat code), e :: t) := by
  rw [unitEscape, unitEscape, hex_of_lt hhigh, hex_of_lt hlow]
  simp only [Text.ofChars, List.map_cons, List.map_nil, List.cons_append, List.nil_append,
    stringItem, hexUnit_of_lt hhigh, hexUnit_of_lt hlow, Option.bind_some, h]

/-! ### Code points in ASCII -/

/-- A code point as it stands between quotes in a text in ASCII. -/
def asciiItem (c : CodePoint) : Text := (writeCodePoint c).flatMap asciiCodePoint

theorem asciiCodePoint_of_lt (h : c.toNat < 0x7F) : asciiCodePoint c = [c] := by
  rw [asciiCodePoint, if_pos h]

theorem asciiItem_of_lt (h : c.toNat < 0x7F) : asciiItem c = writeCodePoint c := by
  have hall : (writeCodePoint c).all (fun c => decide (c.toNat < 0x7F)) = true := by
    rw [all_writeCodePoint plain_ascii, orControl, decide_eq_true h, Bool.or_true]
  have hchars : ∀ d ∈ writeCodePoint c, asciiCodePoint d = [d] :=
    fun d hd => asciiCodePoint_of_lt (of_decide_eq_true (List.all_eq_true.1 hall d hd))
  rw [asciiItem, List.flatMap_congr hchars, List.flatMap_singleton']

theorem writeCodePoint_of_le (h : 0x7F ≤ c.toNat) : writeCodePoint c = [c] := by
  unfold writeCodePoint
  split
  case h_8 => rw [if_neg (by omega)]
  all_goals exact absurd h (by decide)

theorem asciiItem_of_le (h : 0x7F ≤ c.toNat) (hlt : c.toNat < 0x10000) :
    asciiItem c = unitEscape c.toNat := by
  rw [asciiItem, writeCodePoint_of_le h, List.flatMap_singleton, asciiCodePoint,
    if_neg (Nat.not_lt.2 h), if_pos hlt]

theorem asciiItem_of_large (h : 0x10000 ≤ c.toNat) :
    asciiItem c = unitEscape (0xD800 + (c.toNat - 0x10000) / 0x400) ++
      unitEscape (0xDC00 + (c.toNat - 0x10000) % 0x400) := by
  rw [asciiItem, writeCodePoint_of_le (by omega), List.flatMap_singleton, asciiCodePoint,
    if_neg (by omega), if_neg (by omega)]

/-- What is written of an ASCII character starts with no unit, or with that of a control
character. -/
theorem frontUnit_writeCodePoint (h : c.toNat < 0x7F) :
    ∀ u ∈ frontUnit? (writeCodePoint c ++ e :: t), u < 0x20 := by
  unfold writeCodePoint
  split
  case h_8 _ hbackslash _ _ _ _ _ =>
    split_ifs with hcontrol
    · intro u hu
      have hunit := frontUnit_unitEscape (show c.toNat < 0x10000 by omega) e t
      rw [unitEscape, List.append_assoc] at hunit
      rw [List.append_assoc, hunit] at hu
      cases hu
      exact hcontrol
    · intro u hu
      unfold frontUnit? at hu
      split at hu
      · simp_all
      · cases hu
  all_goals exact fun u hu => by cases hu

/-- The low half of a pair stands at the front of what is written of it only. -/
theorem frontUnit_asciiItem :
    ∀ u ∈ frontUnit? (asciiItem c ++ e :: t), 0xDC00 ≤ u → u < 0xE000 → u = c.toNat := by
  intro u hu hlow hhigh
  by_cases h : c.toNat < 0x7F
  · rw [asciiItem_of_lt h] at hu
    have hcontrol := frontUnit_writeCodePoint h u hu
    omega
  by_cases hlt : c.toNat < 0x10000
  · rw [asciiItem_of_le (Nat.not_lt.1 h) hlt, frontUnit_unitEscape hlt] at hu
    exact (Option.some.inj hu).symm
  · -- the first unit of a code point past the first plane is a high half
    have hmax := c.toNat_lt
    obtain ⟨d, r, hr⟩ := List.exists_cons_of_ne_nil
      (List.append_ne_nil_of_right_ne_nil
        (unitEscape (0xDC00 + (c.toNat - 0x10000) % 0x400)) (List.cons_ne_nil e t))
    rw [asciiItem_of_large (Nat.not_lt.1 hlt), List.append_assoc, hr,
      frontUnit_unitEscape (by omega)] at hu
    cases hu
    omega

/-- A code point is read as itself unless it makes a pair with the one behind it. -/
theorem stringItem_asciiItem
    (h : ∀ u ∈ frontUnit? (e :: t), 0xDC00 ≤ u → u < 0xE000 → escapedPair? c.toNat u = none) :
    stringItem opening (asciiItem c ++ e :: t) = .ok (some c, e :: t) := by
  by_cases hascii : c.toNat < 0x7F
  · rw [asciiItem_of_lt hascii, stringItem_writeCodePoint]
  by_cases hlt : c.toNat < 0x10000
  · have hfront : (frontUnit? (e :: t)).bind (escapedPair? c.toNat) = none := by
      rw [Option.bind_eq_none_iff]
      intro u hu
      by_cases hlow : 0xDC00 ≤ u ∧ u < 0xE000
      · exact h u hu hlow.1 hlow.2
      · exact escapedPair_eq_none_iff.2 (by omega)
    rw [asciiItem_of_le (Nat.not_lt.1 hascii) hlt, stringItem_unitEscape hlt hfront,
      CodePoint.ofNat_toNat]
  · have hmax := c.toNat_lt
    rw [asciiItem_of_large (Nat.not_lt.1 hlt), List.append_assoc,
      stringItem_pair (by omega) (by omega) (escapedPair_units (Nat.not_lt.1 hlt) hmax),
      CodePoint.ofNat_toNat]

/-! ### Texts in ASCII -/

/-- **A string literal in ASCII is read** as its text with the halves of pairs joined. -/
theorem stringRest_asciiItem (opening t rest : Text) :
    stringRest opening (t.flatMap asciiItem ++ .scalar '"' :: rest) = .ok (t.joined, rest) := by
  -- there is always something behind a code point: at the end it is the closing quote
  have hbehind : ∀ t : Text, ∃ e r, t.flatMap asciiItem ++ .scalar '"' :: rest = e :: r :=
    fun t => List.exists_cons_of_ne_nil
      (List.append_ne_nil_of_right_ne_nil _ (List.cons_ne_nil (.scalar '"' : CodePoint) rest))
  fun_induction Text.joined t with
  | case1 c d t code hpair ih =>
    obtain ⟨e, r, he⟩ := hbehind t
    have hrange : ¬ escapedPair? c.toNat d.toNat = none := by simp [hpair]
    rw [escapedPair_eq_none_iff, not_not] at hrange
    obtain ⟨hc, hc', hd, hd'⟩ := hrange
    have hitem : stringItem opening (unitEscape c.toNat ++ (unitEscape d.toNat ++ e :: r)) =
        .ok (some (.ofNat code), e :: r) :=
      stringItem_pair (by omega) (by omega) hpair
    rw [List.flatMap_cons, List.flatMap_cons, List.append_assoc, List.append_assoc, he,
      asciiItem_of_le (by omega) (by omega), asciiItem_of_le (by omega) (by omega),
      stringRest_of_some hitem, ← he, ih]
    rfl
  | case2 c d t hpair ih =>
    obtain ⟨e, r, he⟩ := hbehind (d :: t)
    have hitem : stringItem opening (asciiItem c ++ e :: r) = .ok (some c, e :: r) := by
      refine stringItem_asciiItem fun u hu hlow hhigh => ?_
      obtain ⟨e', r', he'⟩ := hbehind t
      rw [← he, List.flatMap_cons, List.append_assoc, he'] at hu
      rw [frontUnit_asciiItem u hu hlow hhigh, hpair]
    rw [List.flatMap_cons, List.append_assoc, he, stringRest_of_some hitem, ← he, ih]
    rfl
  | case3 t hshort =>
    match t with
    | [] => exact stringRest_of_none rfl
    | [c] =>
      have hitem : stringItem opening (asciiItem c ++ .scalar '"' :: rest) =
          .ok (some c, .scalar '"' :: rest) := stringItem_asciiItem fun u hu => by cases hu
      rw [List.flatMap_singleton, stringRest_of_some hitem, stringRest_of_none rfl]
      rfl
    | c :: d :: t => exact absurd rfl (hshort c d t)

theorem respells_ascii : Respells asciiCodePoint Text.joined where
  ascii _ h := asciiCodePoint_of_lt h
  literal opening t rest := by
    rw [List.flatMap_assoc]
    exact stringRest_asciiItem opening t rest

/-- A value with the halves of surrogate pairs joined in its texts. -/
def joined (v : Json) : Json := v.mapTexts Text.joined

theorem joined_of_scalar {v : Json} (h : v.Scalar) : v.joined = v :=
  mapTexts_of_forall v fun _ ht => Text.joined_of_isScalar (h _ ht)

/-- **The ASCII text of a value is read** as the value with its texts joined and the members of one
name merged, unless a constant is met that is not admitted. -/
theorem ofText_writeAscii {l : Layout} (constants : Bool) (hl : l.Standard) {v : Json}
    (hv : v.Bounded) :
    ofText constants (writeAscii l v) =
      (acceptAll constants v.leaves).map fun _ => v.joined.merged :=
  ofText_respelled constants respells_ascii hl hv

/-! ### The text that a value is spelled as -/

variable {v : Json}

/-- Whether a leaf is an integer past the limit. -/
def Leaf.isOverlong : Leaf → Bool
  | .int n => decide (10 ^ digitLimit ≤ n.natAbs)
  | _ => false

/-- The text that a value is spelled as: on one line, in ASCII, and with constants for the doubles
that are not finite.  An integer past the limit is not spelled. -/
def spell (v : Json) : Except WriteError Text :=
  if v.leaves.any Leaf.isOverlong then .error .tooManyDigits else .ok (v.writeAscii .oneLine)

theorem Leaf.isOverlong_int {n : Int} :
    (int n).isOverlong = false ↔ n.natAbs < 10 ^ digitLimit := by
  rw [isOverlong, decide_eq_false_iff_not, Nat.not_le]

theorem any_isOverlong_iff : v.leaves.any Leaf.isOverlong = false ↔ v.Bounded := by
  rw [List.any_eq_false]
  simp only [Bool.not_eq_true]
  constructor
  · exact fun h n hn => Leaf.isOverlong_int.1 (h _ hn)
  · intro h x hx
    cases x with
    | int n => exact Leaf.isOverlong_int.2 (h n hx)
    | float x => rfl
    | text t => rfl

theorem writable_iff : v.Writable ↔ v.Bounded ∧ acceptAll false v.leaves = .ok () := by
  rw [acceptAll_eq_ok_iff]
  constructor
  · exact fun h => ⟨bounded_of_writable h, fun x hx => Leaf.accept_of_writable (h x hx) false⟩
  · rintro ⟨hbounded, haccept⟩ x hx
    refine Leaf.writable_of_accept (fun n hn => hbounded n ?_) (haccept x hx)
    rwa [← hn]

/-- The text of a value is read, without constants, when the value is writable; what is read has its
texts joined. -/
theorem ofText_spell_iff {w : Json} :
    (∃ t, v.spell = .ok t ∧ ofText false t = .ok w) ↔ v.Writable ∧ v.joined.merged = w := by
  rw [spell, writable_iff, ← any_isOverlong_iff]
  cases hlong : v.leaves.any Leaf.isOverlong with
  | true => simp
  | false =>
    have hread := ofText_writeAscii false Layout.standard_oneLine (any_isOverlong_iff.1 hlong)
    simp only [Bool.false_eq_true, if_false, Except.ok.injEq, exists_eq_left', true_and, hread,
      Except.map_eq_ok_iff]
    exact ⟨fun ⟨_, h, hw⟩ => ⟨h, hw⟩, fun ⟨h, hw⟩ => ⟨(), h, hw⟩⟩

end Json

end JsonApi
