import JsonApi.Host.Label
import JsonApi.Proofs.Except
import JsonApi.Proofs.Host.Punycode
import JsonApi.Proofs.Text.Case
import Mathlib.Tactic.SplitIfs

/-!
# Host names in ASCII

The ASCII form of a host name in lower case consists of small letters, digits, hyphens and dots
(`Host.isPlain_of_toAscii`), and a name in ASCII stands for the same labels whatever case it is
written in (`Host.toUnicode_asciiLower`).
-/

namespace JsonApi.Host

variable {label t shown : Text}

namespace Label

/-! ### Characters that pass -/

theorem not_within_contextual {n : Nat} (h : n < 0x80) : within contextual n = false := by
  simp only [within, contextual, List.any_cons, List.any_nil, Bool.or_false, Bool.or_eq_false_iff,
    Bool.and_eq_false_iff, decide_eq_false_iff_not]
  omega

/-- The characters of ASCII that pass the check may stand anywhere. -/
theorem isPermitted_of_checkCharacters {before codes : List Nat}
    (h : checkCharacters label before codes = .ok ()) :
    ∀ n ∈ codes, n < 0x80 → isPermitted n = true := by
  induction codes generalizing before with
  | nil => exact List.forall_mem_nil _
  | cons n codes ih =>
    by_cases hn : isPermitted n = true
    · rw [checkCharacters, if_pos hn] at h
      exact List.forall_mem_cons.2 ⟨fun _ => hn, ih h⟩
    · have hlarge : ¬ n < 0x80 := by
        intro hsmall
        rw [checkCharacters, if_neg hn, if_neg (by omega),
          if_neg (by rw [not_within_contextual hsmall]; decide)] at h
        cases h
      refine List.forall_mem_cons.2 ⟨fun h => absurd h hlarge, ?_⟩
      rw [checkCharacters, if_neg hn] at h
      split at h
      · obtain ⟨-, h⟩ := Except.of_guard_eq_ok h
        obtain ⟨-, h⟩ := Except.of_guard_eq_ok h
        exact ih h
      · split at h
        · obtain ⟨-, h⟩ := Except.of_guard_eq_ok h
          exact ih h
        · cases h

theorem isPermitted_of_check (h : check label = .ok ()) :
    ∀ c ∈ label, c.isAscii = true → isPermitted c.toNat = true := by
  unfold check at h
  -- the characters are checked behind six guards
  obtain ⟨-, h⟩ := Except.of_guard_eq_ok h
  obtain ⟨-, h⟩ := Except.of_guard_eq_ok h
  obtain ⟨-, h⟩ := Except.of_guard_eq_ok h
  obtain ⟨-, h⟩ := Except.of_guard_eq_ok h
  obtain ⟨-, h⟩ := Except.of_guard_eq_ok h
  obtain ⟨-, h⟩ := Except.of_guard_eq_ok h
  obtain ⟨⟨⟩, hcharacters, -⟩ := Except.bind_eq_ok_iff.1 h
  intro c hc hascii
  exact isPermitted_of_checkCharacters hcharacters _ (List.mem_map_of_mem hc)
    (of_decide_eq_true hascii)

/-! ### The ASCII form -/

/-- The small letters, the digits and the hyphen. -/
def isPlain (c : CodePoint) : Bool := c.isAscii && isPermitted c.toNat

theorem isPlain_digit {x : Char} (h : Punycode.IsDigit x) : isPlain (.scalar x) = true := by
  have hdigits : ∀ d < 36, isPlain (.scalar (Punycode.digit d)) = true := by decide
  obtain ⟨d, hd, rfl⟩ := h
  exact hdigits d hd

theorem isPlain_asciiPrefix : ∀ c ∈ asciiPrefix, isPlain c = true := by decide

theorem isPlain_of_check (h : check label = .ok ()) {c : CodePoint} (hc : c ∈ label)
    (hascii : c.isAscii = true) : isPlain c = true := by
  rw [isPlain, hascii, isPermitted_of_check h c hc hascii, Bool.and_self]

theorem isPlain_of_digit? {c : CodePoint} (h : (Punycode.digit? c).isSome = true)
    (hc : c.isCapital = false) : isPlain c = true := by
  simp only [CodePoint.isCapital, Bool.and_eq_false_iff, decide_eq_false_iff_not] at hc
  simp only [Punycode.digit?] at h
  simp only [isPlain, isPermitted, CodePoint.isAscii]
  split_ifs at h ⊢ <;> simp_all <;> omega

/-- A label in ASCII without capitals that stands for some label is plain. -/
theorem isPlain_of_toUnicode (hascii : label.all CodePoint.isAscii = true)
    (hsmall : ∀ c ∈ label, c.isCapital = false) (h : toUnicode label = .ok t) :
    ∀ c ∈ label, isPlain c = true := by
  have hchars := List.all_eq_true.1 hascii
  unfold toUnicode at h
  rw [if_neg (by rw [hascii]; decide), Text.asciiLower_of_small hsmall] at h
  dsimp only at h
  split at h
  · rename_i hprefix
    obtain ⟨rest, hrest⟩ := List.isPrefixOf_iff_prefix.1 hprefix
    obtain ⟨-, h⟩ := Except.of_guard_eq_ok h
    obtain ⟨-, h⟩ := Except.of_guard_eq_ok h
    rw [← hrest, List.drop_left] at h
    split at h
    · cases h
    · rename_i hdecode
      obtain ⟨⟨⟩, hcheck, -⟩ := Except.bind_eq_ok_iff.1 h
      intro c hc
      rw [← hrest] at hc
      rcases List.mem_append.1 hc with hc | hc
      · exact isPlain_asciiPrefix c hc
      · have hmem : c ∈ label := hrest ▸ List.mem_append_right _ hc
        rcases Punycode.mem_of_decode hdecode hc with hc | rfl | hc
        · exact isPlain_of_check hcheck hc (hchars c hmem)
        · rfl
        · exact isPlain_of_digit? hc (hsmall c hmem)
  · obtain ⟨⟨⟩, hcheck, -⟩ := Except.bind_eq_ok_iff.1 h
    exact fun c hc => isPlain_of_check hcheck hc (hchars c hc)

theorem isPlain_of_toAscii (hsmall : ∀ c ∈ label, c.isCapital = false)
    (h : toAscii label = .ok shown) : ∀ c ∈ shown, isPlain c = true := by
  unfold toAscii at h
  split at h
  · rename_i hascii
    obtain ⟨t, ht, h⟩ := Except.bind_eq_ok_iff.1 h
    obtain ⟨_, ⟨⟩, h⟩ := Except.bind_eq_ok_iff.1 h
    obtain ⟨-, h⟩ := Except.of_guard_eq_ok h
    obtain rfl := Except.ok.inj h
    exact isPlain_of_toUnicode hascii hsmall ht
  · obtain ⟨⟨⟩, hcheck, h⟩ := Except.bind_eq_ok_iff.1 h
    obtain ⟨_, ⟨⟩, h⟩ := Except.bind_eq_ok_iff.1 h
    obtain ⟨-, h⟩ := Except.of_guard_eq_ok h
    obtain rfl := Except.ok.inj h
    intro c hc
    rcases List.mem_append.1 hc with hc | hc
    · exact isPlain_asciiPrefix c hc
    · rcases Punycode.mem_encode hc with ⟨hc, hascii⟩ | rfl | ⟨x, hx, rfl⟩
      · exact isPlain_of_check hcheck hc hascii
      · rfl
      · exact isPlain_digit hx

/-- Case does not matter in labels that are written in ASCII. -/
theorem toUnicode_asciiLower (hascii : label.all CodePoint.isAscii = true) :
    toUnicode label.asciiLower = toUnicode label := by
  unfold toUnicode
  rw [Text.all_isAscii_asciiLower, Text.asciiLower_asciiLower, hascii]
  rfl

end Label

/-! ### Names -/

variable {one : Text → Except Error Text} {name : Text} {c : CodePoint}

/-- A converted name consists of dots and of converted labels, which lie within the name. -/
theorem mem_convert (h : convert one name = .ok shown) (hc : c ∈ shown) :
    c = .scalar '.' ∨ ∃ label converted, one label = .ok converted ∧ c ∈ converted ∧
      ∀ x ∈ label, x ∈ name := by
  unfold convert at h
  obtain ⟨-, h⟩ := Except.of_guard_eq_ok h
  obtain ⟨-, h⟩ := Except.of_guard_eq_ok h
  obtain ⟨converted, hconverted, h⟩ := Except.bind_eq_ok_iff.1 h
  obtain rfl := Except.ok.inj h
  rcases Text.mem_join hc with hc | ⟨t, ht, hc⟩
  · exact .inl (List.mem_singleton.1 hc)
  · have ht : t ∈ converted := by
      split at ht
      · refine (List.mem_append.1 ht).resolve_right fun ht => ?_
        rw [List.mem_singleton.1 ht] at hc
        cases hc
      · exact ht
    obtain ⟨label, hlabel, hone⟩ := Except.exists_mem_of_mapM hconverted ht
    have hlabel : label ∈ Text.splitAt (.scalar '.')
        (name.map fun c => if isDot c then .scalar '.' else c) := by
      split at hlabel
      · exact List.dropLast_subset _ hlabel
      · exact hlabel
    refine .inr ⟨label, t, hone, hc, fun x hx => ?_⟩
    obtain ⟨y, hy, hxy⟩ := List.mem_map.1 (Text.mem_of_mem_splitAt hlabel hx)
    split at hxy
    · exact absurd (hxy ▸ hx) (Text.not_mem_of_mem_splitAt hlabel)
    · exact hxy ▸ hy

theorem isPlain_of_toAscii (hsmall : ∀ c ∈ name, c.isCapital = false)
    (h : toAscii name = .ok shown) : ∀ c ∈ shown, c = .scalar '.' ∨ Label.isPlain c = true := by
  obtain ⟨converted, hconverted, h⟩ := Except.bind_eq_ok_iff.1 h
  obtain ⟨-, h⟩ := Except.of_guard_eq_ok h
  obtain rfl := Except.ok.inj h
  intro c hc
  rcases mem_convert hconverted hc with hc | ⟨label, shown, hshown, hc, hlabel⟩
  · exact .inl hc
  · exact .inr (Label.isPlain_of_toAscii (fun x hx => hsmall x (hlabel x hx)) hshown c hc)

theorem map_dots (hascii : name.all CodePoint.isAscii = true) :
    name.map (fun c => if isDot c then .scalar '.' else c) = name := by
  refine (List.map_congr_left fun c hc => ?_).trans (List.map_id name)
  have hc := List.all_eq_true.1 hascii c hc
  rw [CodePoint.isAscii, decide_eq_true_eq] at hc
  split
  · rename_i hdot
    have hnat : c.toNat = 0x2E := by
      simp only [isDot, Bool.or_eq_true, beq_iff_eq] at hdot
      omega
    rw [id, ← CodePoint.ofNat_toNat c, hnat]
    rfl
  · rfl

theorem mapM_toUnicode_asciiLower {labels : List Text}
    (h : ∀ label ∈ labels, label.all CodePoint.isAscii = true) :
    (labels.map Text.asciiLower).mapM Label.toUnicode = labels.mapM Label.toUnicode := by
  induction labels with
  | nil => rfl
  | cons label labels ih =>
    obtain ⟨hlabel, hlabels⟩ := List.forall_mem_cons.1 h
    rw [List.map_cons, List.mapM_cons, List.mapM_cons, Label.toUnicode_asciiLower hlabel,
      ih hlabels]

/-- Case does not matter in names that are written in ASCII. -/
theorem toUnicode_asciiLower (hascii : name.all CodePoint.isAscii = true) :
    toUnicode name.asciiLower = toUnicode name := by
  have hlower := Text.all_isAscii_asciiLower name
  rw [hascii] at hlower
  have hlabels : ∀ label ∈ Text.splitAt (.scalar '.') name, label.all CodePoint.isAscii = true :=
    fun label hlabel => List.all_eq_true.2 fun x hx =>
      List.all_eq_true.1 hascii x (Text.mem_of_mem_splitAt hlabel hx)
  have hlast : ∀ label : Option Text, label.map Text.asciiLower = some [] ↔ label = some [] := by
    rintro (_ | _ | _) <;> simp [Text.asciiLower]
  have hsingle : ∀ labels : List Text, labels.map Text.asciiLower = [[]] ↔ labels = [[]] := by
    rintro (_ | ⟨_ | _, _ | _⟩) <;> simp [Text.asciiLower]
  have hlength : name.asciiLower.length = name.length := List.length_map _
  have hsplit := Text.splitAt_asciiLower (c := .scalar '.') (by decide) (by decide) name
  generalize hpieces : Text.splitAt (.scalar '.') name = labels at hlabels hsplit
  have hfront : (if labels.getLast? = some [] then (labels.map Text.asciiLower).dropLast
        else labels.map Text.asciiLower).mapM Label.toUnicode =
      (if labels.getLast? = some [] then labels.dropLast else labels).mapM Label.toUnicode := by
    split
    · rw [← List.map_dropLast]
      exact mapM_toUnicode_asciiLower fun label hlabel =>
        hlabels label (List.dropLast_subset _ hlabel)
    · exact mapM_toUnicode_asciiLower hlabels
  simp only [toUnicode, convert, map_dots hascii, map_dots hlower, hlength, hsplit, hpieces,
    hsingle, List.getLast?_map, hlast, hfront]

end JsonApi.Host
