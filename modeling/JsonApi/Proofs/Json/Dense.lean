import JsonApi.Json.Token
import JsonApi.Text.Blank
import Mathlib.Logic.Relation
import Mathlib.Tactic.SplitIfs

/-!
# Blanks outside string literals

Going through a JSON text, one is outside its string literals, inside one of them, or inside behind
a backslash (`Position`).  Texts that differ in the blanks outside are `Relaid`, which is so exactly
when they have one `dense` form without such blanks (`relaid_iff`).  What a token spells is `Solid`:
it has nothing but visible characters outside, so nothing of it is dropped
(`Solid.denseFrom_append`).
-/

namespace JsonApi

namespace Json

/-- Where a place in a JSON text is with respect to its string literals. -/
inductive Position
  | outside
  | inside
  /-- Inside, behind a backslash. -/
  | escaped
  deriving DecidableEq

namespace Position

/-- The position behind a code point. -/
def next : Position → CodePoint → Position
  | .outside, .scalar '"' => .inside
  | .inside, .scalar '"' => .outside
  | .inside, .scalar '\\' => .escaped
  | .escaped, _ => .inside
  | p, _ => p

/-- The position behind a text. -/
def after (p : Position) (t : Text) : Position := t.foldl next p

theorem after_cons (p : Position) (c : CodePoint) (t : Text) :
    p.after (c :: t) = (p.next c).after t := rfl

theorem after_concat (p : Position) (t : Text) (c : CodePoint) :
    p.after (t ++ [c]) = (p.after t).next c := List.foldl_append

theorem next_outside {c : CodePoint} (h : c ≠ .scalar '"') : next .outside c = .outside := by
  unfold next
  split <;> simp_all

theorem next_inside {c : CodePoint} (hquote : c ≠ .scalar '"') (hbackslash : c ≠ .scalar '\\') :
    next .inside c = .inside := by
  unfold next
  split <;> simp_all

theorem next_blank {c : CodePoint} (h : isBlank c = true) : next .outside c = .outside :=
  next_outside (by rintro rfl; contradiction)

end Position

/-! ### Dense texts -/

/-- A text without the blanks that stand outside string literals, read from a position on. -/
def denseFrom : Position → Text → Text
  | _, [] => []
  | p, c :: t => if p = .outside ∧ isBlank c then denseFrom p t else c :: denseFrom (p.next c) t

/-- A text without the blanks that stand outside its string literals. -/
def dense (t : Text) : Text := denseFrom .outside t

theorem denseFrom_append (p : Position) (s t : Text) :
    denseFrom p (s ++ t) = denseFrom p s ++ denseFrom (p.after s) t := by
  induction s generalizing p with
  | nil => rfl
  | cons c s ih =>
    rw [List.cons_append, denseFrom, denseFrom, Position.after_cons]
    split_ifs with h
    · obtain ⟨rfl, hc⟩ := h
      rw [ih, Position.next_blank hc]
    · rw [ih, List.cons_append]

theorem denseFrom_blanks {blanks t : Text} (h : blanks.all isBlank = true) :
    denseFrom .outside (blanks ++ t) = denseFrom .outside t := by
  induction blanks with
  | nil => rfl
  | cons c blanks ih =>
    rw [List.all_cons, Bool.and_eq_true] at h
    rw [List.cons_append, denseFrom, if_pos ⟨rfl, h.1⟩, ih h.2]

/-! ### Texts that differ in layout -/

/-- The second text is the first one with blanks put in outside its string literals. -/
def Inserts (s t : Text) : Prop :=
  ∃ before blanks after : Text, s = before ++ after ∧ t = before ++ blanks ++ after ∧
    Position.after .outside before = .outside ∧ blanks.all isBlank = true

/-- Texts that are turned into each other when blanks outside string literals are put in and taken
out. -/
def Relaid : Text → Text → Prop := Relation.EqvGen Inserts

theorem dense_of_inserts {s t : Text} (h : Inserts s t) : dense s = dense t := by
  obtain ⟨before, blanks, after, rfl, rfl, hbefore, hblanks⟩ := h
  rw [dense, dense, List.append_assoc, denseFrom_append, denseFrom_append, hbefore,
    denseFrom_blanks hblanks]

/-- Blanks are taken out one by one, from behind what is dense already. -/
theorem relaid_denseFrom (before t : Text) :
    Relaid (before ++ t) (before ++ denseFrom (Position.after .outside before) t) := by
  induction t generalizing before with
  | nil => exact .refl _
  | cons c t ih =>
    rw [denseFrom]
    split_ifs with h
    · have hinserts : Inserts (before ++ t) (before ++ [c] ++ t) :=
        ⟨before, [c], t, rfl, rfl, h.1, by rw [List.all_cons, h.2]; rfl⟩
      rw [List.append_cons]
      exact .trans _ _ _ (.symm _ _ (.rel _ _ hinserts)) (ih before)
    · have hrest := ih (before ++ [c])
      rw [Position.after_concat, List.append_assoc, List.append_assoc] at hrest
      exact hrest

/-- **Texts differ in layout only** exactly when they have one dense form. -/
theorem relaid_iff {s t : Text} : Relaid s t ↔ dense s = dense t := by
  constructor
  · intro h
    induction h with
    | rel s t h => exact dense_of_inserts h
    | refl => rfl
    | symm s t _ ih => exact ih.symm
    | trans s t u _ _ ih ih' => exact ih.trans ih'
  · intro h
    have hs : Relaid s (dense s) := relaid_denseFrom [] s
    have ht : Relaid t (dense t) := relaid_denseFrom [] t
    rw [← h] at ht
    exact .trans _ _ _ hs (.symm _ _ ht)

/-! ### Solid texts -/

/-- Whether a code point is a visible character of ASCII. -/
def isVisible (c : CodePoint) : Bool := decide (0x20 < c.toNat ∧ c.toNat < 0x7F)

/-- Whether a character is visible and no quote. -/
def isBare (c : Char) : Bool := isVisible (.scalar c) && c != '"'

/-- A text that leads from one position to another with nothing but visible characters of ASCII
outside string literals, and with no null character anywhere. -/
inductive Solid : Position → Text → Position → Prop
  | nil (p : Position) : Solid p [] p
  | cons {p q : Position} {c : CodePoint} {t : Text} (hc : c.toNat ≠ 0)
      (hvisible : p = .outside → isVisible c = true) (ht : Solid (p.next c) t q) :
      Solid p (c :: t) q

theorem isBlank_of_isVisible {c : CodePoint} (h : isVisible c = true) : c.isBlank = false := by
  obtain ⟨hlow, hhigh⟩ := of_decide_eq_true h
  simp only [CodePoint.isBlank, CodePoint.isWhiteSpace, CodePoint.isSeparatorControl,
    Bool.or_eq_false_iff, Bool.and_eq_false_iff, decide_eq_false_iff_not, beq_eq_false_iff_ne]
  omega

theorem isVisible_of_isBlank {c : CodePoint} (h : isBlank c = true) : isVisible c = false := by
  simp only [isBlank, Bool.or_eq_true, decide_eq_true_eq] at h
  obtain ((rfl | rfl) | rfl) | rfl := h <;> rfl

namespace Solid

variable {p q r : Position} {s t : Text}

theorem append (hs : Solid p s q) (ht : Solid q t r) : Solid p (s ++ t) r := by
  induction hs with
  | nil => exact ht
  | cons hc hblank _ ih => exact .cons hc hblank (ih ht)

/-- Nothing of a solid text is dropped. -/
theorem denseFrom_append (hs : Solid p s q) (t : Text) :
    denseFrom p (s ++ t) = s ++ denseFrom q t := by
  induction hs with
  | nil => rfl
  | @cons p q c s hc hvisible _ ih =>
    rw [List.cons_append, denseFrom, if_neg, ih, List.cons_append]
    rintro ⟨hp, hblank⟩
    rw [isVisible_of_isBlank hblank] at hvisible
    cases hvisible hp

theorem ne_zero (hs : Solid p s q) : ∀ c ∈ s, c.toNat ≠ 0 := by
  induction hs with
  | nil => exact List.forall_mem_nil _
  | cons hc _ _ ih => exact List.forall_mem_cons.2 ⟨hc, ih⟩

/-- What stands outside string literals is visible. -/
theorem isVisible {before after : Text} {c : CodePoint}
    (hs : Solid p (before ++ c :: after) q) (h : p.after before = .outside) :
    isVisible c = true := by
  induction before generalizing p with
  | nil =>
    cases hs with
    | cons _ hvisible _ => exact hvisible h
  | cons d before ih =>
    cases hs with
    | cons _ _ hs => exact ih hs h

/-- A code point that is neither a quote nor a backslash, inside a string literal. -/
theorem inside {c : CodePoint} (hc : c.toNat ≠ 0) (hquote : c ≠ .scalar '"')
    (hbackslash : c ≠ .scalar '\\') (hs : Solid .inside s q) : Solid .inside (c :: s) q :=
  .cons hc nofun ((Position.next_inside hquote hbackslash).symm ▸ hs)

/-- A bare character, outside string literals. -/
theorem outside {c : Char} (h : isBare c = true) (hs : Solid .outside s q) :
    Solid .outside (.scalar c :: s) q := by
  rw [isBare, Bool.and_eq_true, bne_iff_ne] at h
  obtain ⟨hvisible, hquote⟩ := h
  have hnext : Position.next .outside (.scalar c) = .outside :=
    Position.next_outside (by simpa using hquote)
  refine .cons (fun hzero => ?_) (fun _ => hvisible) (hnext.symm ▸ hs)
  have := of_decide_eq_true hvisible
  omega

/-- Bare characters, outside string literals. -/
theorem ofChars {cs : List Char} (h : cs.all isBare = true) :
    Solid .outside (Text.ofChars cs) .outside := by
  induction cs with
  | nil => exact .nil _
  | cons c cs ih =>
    rw [List.all_cons, Bool.and_eq_true] at h
    exact .outside h.1 (ih h.2)

end Solid

end Json

end JsonApi
