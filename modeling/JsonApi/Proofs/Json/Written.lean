import JsonApi.Proofs.Json.Leaves
import JsonApi.Proofs.Json.Number
import JsonApi.Proofs.Json.Scanning

/-!
# The characters of a written value

A layout is standard when its separators are the comma and the colon with blanks behind them.
In such a layout a property of code points that blanks and the printable characters of ASCII have
holds throughout a written value when it holds throughout the texts in it (`all_writeAt`); control
characters in the texts do not count, because they are escaped.
-/

namespace JsonApi

namespace Json

/-- A layout whose separators are a comma and a colon, with nothing but blanks behind them. -/
structure Layout.Standard (l : Layout) : Prop where
  item : ∃ blanks, l.itemSeparator = .scalar ',' :: blanks ∧ blanks.all isBlank = true
  name : ∃ blanks, l.nameSeparator = .scalar ':' :: blanks ∧ blanks.all isBlank = true

namespace Layout

theorem standard_compact : compact.Standard := ⟨⟨[], rfl, rfl⟩, ⟨[], rfl, rfl⟩⟩

theorem standard_oneLine : oneLine.Standard :=
  ⟨⟨[.scalar ' '], rfl, rfl⟩, ⟨[.scalar ' '], rfl, rfl⟩⟩

theorem standard_lines (n : Int) : (lines n).Standard :=
  ⟨⟨[], rfl, rfl⟩, ⟨[.scalar ' '], rfl, rfl⟩⟩

theorem standard_ofIndent (indent : Option Int) : (ofIndent indent).Standard := by
  cases indent with
  | none => exact standard_oneLine
  | some n => exact standard_lines n

theorem lineBreak_compact (level : Nat) : compact.lineBreak level = [] := rfl

theorem all_isBlank_lineBreak (l : Layout) (level : Nat) :
    (l.lineBreak level).all isBlank = true := by
  unfold lineBreak
  split
  · rfl
  · rw [List.all_cons, List.all_replicate]
    simp [isBlank]

end Layout

/-! ### The characters of a written value -/

/-- A printable character of ASCII. -/
def isPrintable (c : Char) : Bool := decide (0x20 ≤ c.toNat ∧ c.toNat < 0x7F)

/-- A property of code points that blanks and the printable characters of ASCII have. -/
def Plain (p : CodePoint → Bool) : Prop :=
  (∀ c, isBlank c = true → p c = true) ∧ ∀ c, isPrintable c = true → p (.scalar c) = true

variable {p : CodePoint → Bool}

/-- A property on what is not escaped as a control character. -/
def orControl (p : CodePoint → Bool) (c : CodePoint) : Bool := c.toNat < 0x20 || p c

theorem isPrintable_of_isDigit {c : Char} (h : c.isDigit = true) : isPrintable c = true := by
  have hdigit := Char.isDigit_iff_toNat.1 h
  exact decide_eq_true ⟨Nat.le_trans (by decide) hdigit.1, Nat.lt_of_le_of_lt hdigit.2 (by decide)⟩

theorem all_ofChars (hp : Plain p) {cs : List Char} (h : cs.all isPrintable = true) :
    (Text.ofChars cs).all p = true := by
  rw [Text.ofChars, List.all_map, List.all_eq_true]
  exact fun c hc => hp.2 c (List.all_eq_true.1 h c hc)

theorem all_blanks (hp : Plain p) {blanks : Text} (h : blanks.all isBlank = true) :
    blanks.all p = true :=
  List.all_eq_true.2 fun c hc => hp.1 c (List.all_eq_true.1 h c hc)

/-! ### Strings -/

theorem control_hex : ∀ n < 0x20, (Nat.toDigits 16 n).all isPrintable = true := by decide

theorem all_writeCodePoint (hp : Plain p) (c : CodePoint) :
    (writeCodePoint c).all p = orControl p c := by
  have hquote : p (.scalar '"') = true := hp.2 _ rfl
  have hbackslash : p (.scalar '\\') = true := hp.2 _ rfl
  unfold writeCodePoint
  split
  -- a code point without a letter of its own is written as it is unless it is a control character
  case h_8 =>
    split_ifs with hc
    · rw [Text.hex, ← Text.ofChars_append, all_ofChars hp]
      · simp [orControl, hc]
      · rw [List.all_append, List.all_append, List.all_replicate, control_hex _ hc]
        split_ifs <;> rfl
    · simp [orControl, hc]
  case h_1 => rw [all_ofChars hp rfl, orControl, hquote, Bool.or_true]
  case h_2 => rw [all_ofChars hp rfl, orControl, hbackslash, Bool.or_true]
  all_goals
    rw [all_ofChars hp rfl]
    rfl

theorem all_writeString (hp : Plain p) (t : Text) :
    (writeString t).all p = t.all (orControl p) := by
  have hquote : p (.scalar '"') = true := hp.2 _ rfl
  simp [writeString, List.all_flatMap, all_writeCodePoint hp, hquote]

/-! ### Numbers -/

theorem all_numeral (hp : Plain p) {n : Numeral} (hn : n.WellFormed) : n.text.all p = true := by
  have hdigits : ∀ {ds : List Char}, Numeral.AreDigits ds → (Text.ofChars ds).all p = true := by
    intro ds hds
    refine all_ofChars hp (List.all_eq_true.2 fun c hc => ?_)
    exact isPrintable_of_isDigit (hds.2 c hc)
  have hfraction : (Numeral.fractionText n.fraction).all p = true := by
    cases hf : n.fraction with
    | none => rfl
    | some ds =>
      rw [Numeral.fractionText, List.all_cons, hdigits (hn.fraction ds hf), hp.2 '.' rfl]
      rfl
  have hexponent : (Numeral.exponentText n.exponent).all p = true := by
    cases he : n.exponent with
    | none => rfl
    | some e =>
      have hsign : p (.scalar (if e.1 then '-' else '+')) = true := by
        cases e.1 with
        | false => exact hp.2 '+' rfl
        | true => exact hp.2 '-' rfl
      rw [Numeral.exponentText, List.all_cons, List.all_cons, hdigits (hn.exponent e he), hsign,
        hp.2 'e' rfl]
      rfl
  have hsign : (if n.negative then ("-" : Text) else []).all p = true := by
    cases n.negative with
    | false => rfl
    | true => exact all_ofChars hp rfl
  rw [Numeral.text, Numeral.magnitudeText, List.all_append, List.all_append, List.all_append,
    hsign, hdigits hn.whole, hfraction, hexponent]
  rfl

theorem all_ofInt (hp : Plain p) (n : Int) : (Text.ofInt n).all p = true :=
  Numeral.text_ofInt n ▸ all_numeral hp (Numeral.wellFormed_ofInt n)

theorem all_writeDouble (hp : Plain p) {x : Double} (hx : x.isFinite = true) :
    (writeDouble x).all p = true := by
  obtain ⟨n, hn, htext, -⟩ := exists_numeral hx
  exact htext ▸ all_numeral hp hn

/-! ### Values -/

namespace Layout.Standard

variable {l : Layout}

theorem all_itemSeparator (hl : l.Standard) (hp : Plain p) : l.itemSeparator.all p = true := by
  obtain ⟨blanks, h, hblanks⟩ := hl.item
  rw [h, List.all_cons, all_blanks hp hblanks, hp.2 _ rfl]
  rfl

theorem all_nameSeparator (hl : l.Standard) (hp : Plain p) : l.nameSeparator.all p = true := by
  obtain ⟨blanks, h, hblanks⟩ := hl.name
  rw [h, List.all_cons, all_blanks hp hblanks, hp.2 _ rfl]
  rfl

end Layout.Standard

variable {l : Layout}

mutual

/-- **The characters of a written value** have a property when those of its texts do. -/
theorem all_writeAt (hl : l.Standard) (hp : Plain p) (level : Nat) (v : Json) (hv : v.Writable) :
    (writeAt l level v).all p = v.leaves.all fun x => x.points.all (orControl p) := by
  have hbreak : ∀ level, (l.lineBreak level).all p = true :=
    fun level => all_blanks hp (l.all_isBlank_lineBreak level)
  match v with
  | .null => exact all_ofChars hp rfl
  | .bool true => exact all_ofChars hp rfl
  | .bool false => exact all_ofChars hp rfl
  | .int n => exact all_ofInt hp n
  | .float x => exact all_writeDouble hp (writable_float.1 hv)
  | .string t =>
    simp [writeAt, all_writeString hp, leaves, Leaf.points]
  | .array [] => exact all_ofChars hp rfl
  | .array (v :: vs) =>
    rw [writable_array_cons] at hv
    have hv₁ := all_writeAt hl hp (level + 1) v hv.1
    have hvs := all_writeItems hl hp (level + 1) vs hv.2
    simp [writeAt, leaves, leavesOfItems, hbreak, hv₁, hvs, hp.2 '[' rfl, hp.2 ']' rfl]
  | .object [] => exact all_ofChars hp rfl
  | .object ((name, v) :: ms) =>
    rw [writable_object_cons] at hv
    have hv₁ := all_writeAt hl hp (level + 1) v hv.1
    have hms := all_writeMembers hl hp (level + 1) ms hv.2
    simp [writeAt, leaves, leavesOfMembers, hbreak, all_writeString hp, hl.all_nameSeparator hp,
      hv₁, hms, hp.2 '\x7b' rfl, hp.2 '\x7d' rfl, Leaf.points]

theorem all_writeItems (hl : l.Standard) (hp : Plain p) (level : Nat) (vs : List Json)
    (hvs : (array vs).Writable) :
    (writeItems l level vs).all p =
      (leavesOfItems vs).all fun x => x.points.all (orControl p) := by
  match vs with
  | [] => rfl
  | v :: vs =>
    rw [writable_array_cons] at hvs
    rw [writeItems, leavesOfItems, List.all_append, List.all_append, List.all_append,
      List.all_append, all_writeAt hl hp level v hvs.1, all_writeItems hl hp level vs hvs.2,
      hl.all_itemSeparator hp, all_blanks hp (l.all_isBlank_lineBreak level)]
    rfl

theorem all_writeMembers (hl : l.Standard) (hp : Plain p) (level : Nat) (ms : List (Text × Json))
    (hms : (object ms).Writable) :
    (writeMembers l level ms).all p =
      (leavesOfMembers ms).all fun x => x.points.all (orControl p) := by
  match ms with
  | [] => rfl
  | (name, v) :: ms =>
    rw [writable_object_cons] at hms
    have hv := all_writeAt hl hp level v hms.1
    have hrest := all_writeMembers hl hp level ms hms.2
    simp [writeMembers, leavesOfMembers, hl.all_itemSeparator hp, hl.all_nameSeparator hp,
      all_blanks hp (l.all_isBlank_lineBreak level), all_writeString hp, hv, hrest, Leaf.points]

end

end Json

end JsonApi
