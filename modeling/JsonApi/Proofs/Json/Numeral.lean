import JsonApi.Json.Reader
import Mathlib.Tactic.SplitIfs

/-!
# Numerals and their texts

A well-formed `Numeral` has a text (`Numeral.text`), and the scanner takes that text back for the
numeral wherever the text behind it does not go on like a number (`scan_numeral`).
-/

namespace JsonApi

namespace Json

/-- What may stand behind a number: nothing that the number could take in. -/
def EndsNumber (t : Text) : Prop :=
  ∀ c ∈ t.head?, c.isDigit = false ∧ c ≠ .scalar '.' ∧ c ≠ .scalar 'e' ∧ c ≠ .scalar 'E'

theorem endsNumber_nil : EndsNumber [] := by simp [EndsNumber]

theorem endsNumber_cons {c : CodePoint} {t : Text} :
    EndsNumber (c :: t) ↔
      c.isDigit = false ∧ c ≠ .scalar '.' ∧ c ≠ .scalar 'e' ∧ c ≠ .scalar 'E' := by
  simp [EndsNumber]

namespace Numeral

/-- A fraction as it is written. -/
def fractionText : Option (List Char) → Text
  | none => []
  | some ds => .scalar '.' :: Text.ofChars ds

/-- An exponent as it is written, with its sign. -/
def exponentText : Option (Bool × List Char) → Text
  | none => []
  | some (negative, ds) =>
    .scalar 'e' :: .scalar (if negative then '-' else '+') :: Text.ofChars ds

/-- The text of a numeral behind its sign. -/
def magnitudeText (n : Numeral) : Text :=
  Text.ofChars n.whole ++ fractionText n.fraction ++ exponentText n.exponent

/-- The text of a numeral. -/
def text (n : Numeral) : Text := (if n.negative then ("-" : Text) else []) ++ n.magnitudeText

/-- Whether characters are digits, and there are some. -/
def AreDigits (ds : List Char) : Prop := ds ≠ [] ∧ ∀ c ∈ ds, c.isDigit = true

/-- A numeral whose parts are digits, without a superfluous zero in front. -/
structure WellFormed (n : Numeral) : Prop where
  whole : AreDigits n.whole
  leading : n.whole.head? = some '0' → n.whole = ['0']
  fraction : ∀ ds ∈ n.fraction, AreDigits ds
  exponent : ∀ e ∈ n.exponent, AreDigits e.2

end Numeral

open Numeral

/-! ### The parts of a number -/

theorem digits_of_head {t : Text} (h : ∀ c ∈ t.head?, c.isDigit = false) : digits t = ([], t) := by
  match t with
  | [] => rfl
  | .surrogate _ :: _ => rfl
  | .scalar c :: _ =>
    have : c.isDigit = false := h (.scalar c) rfl
    simp [digits, this]

/-- The digits at the front are taken as far as they go. -/
theorem digits_ofChars_append {ds : List Char} {t : Text} (hd : ∀ c ∈ ds, c.isDigit = true)
    (ht : ∀ c ∈ t.head?, c.isDigit = false) : digits (Text.ofChars ds ++ t) = (ds, t) := by
  induction ds with
  | nil => exact digits_of_head ht
  | cons c ds ih =>
    have hc := hd c List.mem_cons_self
    have := ih fun x hx => hd x (List.mem_cons_of_mem _ hx)
    simp only [Text.ofChars, List.map_cons, List.cons_append] at this ⊢
    simp [digits, hc, this]

theorem fraction_fractionText {f : Option (List Char)} {t : Text}
    (hf : ∀ ds ∈ f, AreDigits ds) (ht : ∀ c ∈ t.head?, c.isDigit = false ∧ c ≠ .scalar '.') :
    Json.fraction (fractionText f ++ t) = (f, t) := by
  cases f with
  | none =>
    simp only [fractionText, List.nil_append]
    unfold Json.fraction
    split
    · exact absurd rfl (ht _ rfl).2
    · rfl
  | some ds =>
    obtain ⟨hne, hd⟩ := hf ds rfl
    have hdigits := digits_ofChars_append hd fun c hc => (ht c hc).1
    simp only [fractionText, List.cons_append, Json.fraction, hdigits]

theorem exponent_exponentText {e : Option (Bool × List Char)} {t : Text}
    (he : ∀ x ∈ e, AreDigits x.2) (ht : EndsNumber t) :
    Json.exponent (exponentText e ++ t) = (e, t) := by
  match e with
  | none =>
    match t with
    | [] => rfl
    | .surrogate _ :: _ => rfl
    | .scalar c :: _ =>
      obtain ⟨-, -, h₁, h₂⟩ := endsNumber_cons.1 ht
      have : ¬ (c = 'e' ∨ c = 'E') := by rintro (rfl | rfl) <;> contradiction
      simp [exponentText, Json.exponent, this]
  | some (negative, ds) =>
    obtain ⟨hne, hd⟩ := he _ rfl
    have hdigits := digits_ofChars_append hd fun c hc => (ht c hc).1
    have hsign : sign (.scalar (if negative then '-' else '+') :: (Text.ofChars ds ++ t)) =
        (negative, Text.ofChars ds ++ t) := by
      cases negative <;> rfl
    simp only [exponentText, List.cons_append, Json.exponent, true_or, ↓reduceIte, hsign, hdigits]

/-! ### Whole numbers -/

theorem head_exponentText (e : Option (Bool × List Char)) {t : Text} (ht : EndsNumber t) :
    ∀ c ∈ (exponentText e ++ t).head?, c.isDigit = false ∧ c ≠ .scalar '.' := by
  intro c hc
  match e with
  | some (_, ds) => simp [exponentText] at hc; subst hc; exact ⟨rfl, by decide⟩
  | none => exact ⟨(ht c hc).1, (ht c hc).2.1⟩

/-- What stands behind the digits before the point does not start with a digit. -/
theorem head_fractionText (f : Option (List Char)) {t : Text}
    (ht : ∀ c ∈ t.head?, c.isDigit = false) :
    ∀ c ∈ (fractionText f ++ t).head?, c.isDigit = false := by
  intro c hc
  match f with
  | some ds => simp [fractionText] at hc; subst hc; rfl
  | none => exact ht c hc

/-- The digits before the point are taken as far as they go, and a zero in front is the only one. -/
theorem numeral_cons {negative : Bool} {c : Char} {ds : List Char} {t : Text}
    (hc : c.isDigit = true) (hd : ∀ d ∈ ds, d.isDigit = true) (hzero : c = '0' → ds = [])
    (ht : c ≠ '0' → ∀ d ∈ t.head?, d.isDigit = false) :
    numeral negative (.scalar c :: (Text.ofChars ds ++ t)) =
      .ok (.number ⟨negative, c :: ds, (Json.fraction t).1, (Json.exponent (Json.fraction t).2).1⟩,
        (Json.exponent (Json.fraction t).2).2) := by
  unfold numeral
  by_cases hz : c = '0'
  · obtain rfl := hzero hz
    simp [hz, Text.ofChars]
  · simp [hc, hz, digits_ofChars_append hd (ht hz)]

theorem numeral_magnitudeText {n : Numeral} {t : Text} (hn : n.WellFormed) (ht : EndsNumber t) :
    numeral n.negative (n.magnitudeText ++ t) = .ok (.number n, t) := by
  obtain ⟨negative, whole, f, e⟩ := n
  obtain ⟨⟨hne, hd⟩, hlead, hf, he⟩ := hn
  obtain ⟨c, ds, rfl⟩ := List.exists_cons_of_ne_nil hne
  obtain ⟨hc, hd⟩ := List.forall_mem_cons.1 hd
  have hexp := exponent_exponentText he ht
  have hfrac := fraction_fractionText hf (head_exponentText e ht)
  have hzero : c = '0' → ds = [] := fun hz => by simpa [hz] using hlead
  have hrest := head_fractionText f fun c hc => (head_exponentText e ht c hc).1
  calc numeral negative (magnitudeText ⟨negative, c :: ds, f, e⟩ ++ t)
      = numeral negative
          (.scalar c :: (Text.ofChars ds ++ (fractionText f ++ (exponentText e ++ t)))) := by
        rw [magnitudeText, List.append_assoc, List.append_assoc]
        rfl
    _ = .ok (.number ⟨negative, c :: ds, f, e⟩, t) := by
        rw [numeral_cons hc hd hzero fun _ => hrest, hfrac, hexp]

/-! ### Scanning -/

theorem scan_of_isDigit {c : Char} {t : Text} (h : c.isDigit = true) :
    scan (.scalar c) t = numeral false (.scalar c :: t) := by
  unfold scan
  split <;> first | rfl | simp_all

theorem isDigit_of_whole {n : Numeral} (hn : n.WellFormed) :
    ∃ c ds, n.whole = c :: ds ∧ c.isDigit = true := by
  match h : n.whole, hn.whole with
  | [], hw => exact absurd rfl hw.1
  | c :: ds, hw => exact ⟨c, ds, rfl, hw.2 c List.mem_cons_self⟩

/-- **The text of a number is scanned as that number** where it ends. -/
theorem scan_numeral {n : Numeral} {t : Text} (hn : n.WellFormed) (ht : EndsNumber t) :
    ∃ c rest, n.text = .scalar c :: rest ∧ (c = '-' ∨ c.isDigit = true) ∧
      scan (.scalar c) (rest ++ t) = .ok (.number n, t) := by
  have hnum := numeral_magnitudeText hn ht
  obtain ⟨c, ds, hw, hc⟩ := isDigit_of_whole hn
  obtain ⟨r, hr⟩ : ∃ r, n.magnitudeText = .scalar c :: r :=
    ⟨_, by rw [magnitudeText, hw]; rfl⟩
  cases hneg : n.negative with
  | true =>
    refine ⟨'-', n.magnitudeText, by rw [Numeral.text, hneg]; rfl, .inl rfl, ?_⟩
    -- behind a minus sign the scanner looks for a constant first
    have hword : word? ['I', 'n', 'f', 'i', 'n', 'i', 't', 'y'] (n.magnitudeText ++ t) = none := by
      have : c ≠ 'I' := by rintro rfl; contradiction
      simp [hr, word?, this]
    rw [hneg] at hnum
    simp only [scan, hword, hnum]
  | false =>
    refine ⟨c, r, by rw [Numeral.text, hneg, hr]; rfl, .inr hc, ?_⟩
    rw [scan_of_isDigit hc, ← List.cons_append, ← hr, ← hneg, hnum]

end Json

end JsonApi
