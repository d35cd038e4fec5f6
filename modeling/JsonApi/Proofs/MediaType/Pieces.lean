import JsonApi.Proofs.MediaType

/-!
# Pieces of a content type

Where a semicolon stands, the pieces of a content type are those in front of it and those behind it.
Pieces that are stripped and hold no semicolon are found again when they were joined
(`MediaType.pieces_join`).
-/

namespace JsonApi

namespace Text

variable {c : CodePoint} {s t : Text}

theorem strip_eq_rdropWhile (t : Text) :
    t.strip = (t.dropWhile CodePoint.isBlank).rdropWhile CodePoint.isBlank := rfl

theorem strip_cons_of_isBlank (hc : c.isBlank = true) (t : Text) : strip (c :: t) = t.strip := by
  rw [strip_eq_rdropWhile, List.dropWhile_cons_of_pos hc, strip_eq_rdropWhile]

/-- A text is its own stripped form when it neither begins nor ends with a blank. -/
theorem strip_eq_self_iff :
    t.strip = t ↔ (∀ c ∈ t.head?, c.isBlank = false) ∧ ∀ c ∈ t.getLast?, c.isBlank = false := by
  have hfront : t.dropWhile CodePoint.isBlank = t ↔ ∀ c ∈ t.head?, c.isBlank = false := by
    cases t with
    | nil => simp
    | cons c t => simp [List.dropWhile_eq_self_iff]
  have hback : t.rdropWhile CodePoint.isBlank = t ↔ ∀ c ∈ t.getLast?, c.isBlank = false := by
    rcases t.eq_nil_or_concat with rfl | ⟨t, c, rfl⟩
    · simp
    · simp [List.rdropWhile_eq_self_iff]
  rw [← hfront, ← hback, strip_eq_rdropWhile]
  constructor
  · intro h
    -- neither of the two cuts takes anything away
    have hsuffix := List.dropWhile_suffix (l := t) CodePoint.isBlank
    have hprefix := List.rdropWhile_prefix CodePoint.isBlank (l := t.dropWhile CodePoint.isBlank)
    rw [h] at hprefix
    have hsame := hsuffix.eq_of_length_le hprefix.length_le
    rw [hsame] at h
    exact ⟨hsame, h⟩
  · rintro ⟨hdrop, hrdrop⟩
    rw [hdrop, hrdrop]

theorem strip_subset (t : Text) : t.strip ⊆ t := by
  rw [strip_eq_rdropWhile]
  exact List.Subset.trans (List.rdropWhile_prefix _ _).subset (List.dropWhile_suffix _).subset

end Text

namespace MediaType

variable {s t : Text}

theorem pieces_of_not_mem (h : .scalar ';' ∉ t) :
    pieces t = if t.strip = [] then [] else [t.strip] := by
  rw [pieces, Text.splitAt_of_not_mem h]
  by_cases hstrip : t.strip = [] <;> simp [hstrip]

theorem pieces_append_cons (s t : Text) :
    pieces (s ++ .scalar ';' :: t) = pieces s ++ pieces t := by
  simp only [pieces, Text.splitAt_append_cons, List.map_append, List.filter_append]

theorem pieces_cons_space (t : Text) : pieces (.scalar ' ' :: t) = pieces t := by
  have hblank : (CodePoint.scalar ' ').isBlank = true := by decide
  have hne : CodePoint.scalar ' ' ≠ .scalar ';' := by decide
  have hsplit : Text.splitAt (.scalar ';') (.scalar ' ' :: t) =
      (Text.splitAt (.scalar ';') t).modifyHead (.scalar ' ' :: ·) := by
    rw [Text.splitAt_eq_splitOn, Text.splitAt_eq_splitOn, List.splitOn_cons_eq_if_modifyHead]
    simp [hne]
  rw [pieces, pieces, hsplit]
  cases Text.splitAt (.scalar ';') t with
  | nil => rfl
  | cons p ps => simp only [List.modifyHead_cons, List.map_cons, Text.strip_cons_of_isBlank hblank]

/-- A text that can be a piece of a content type. -/
@[mk_iff]
structure IsPiece (p : Text) : Prop where
  ne_nil : p ≠ []
  strip_eq : p.strip = p
  bare : .scalar ';' ∉ p

instance : DecidablePred IsPiece := fun p => decidable_of_iff _ (isPiece_iff p).symm

theorem isPiece_of_mem_pieces {p : Text} (h : p ∈ pieces t) : IsPiece p := by
  obtain ⟨hmem, hne⟩ := List.mem_filter.1 h
  obtain ⟨q, hq, rfl⟩ := List.mem_map.1 hmem
  exact ⟨of_decide_eq_true hne, q.strip_strip,
    fun hmem => Text.not_mem_of_mem_splitAt hq (q.strip_subset hmem)⟩

theorem IsPiece.pieces_eq {p : Text} (h : IsPiece p) : pieces p = [p] := by
  rw [pieces_of_not_mem h.bare, h.strip_eq, if_neg h.ne_nil]

/-- Joined pieces are found again. -/
theorem pieces_join {ps : List Text} (h : ∀ p ∈ ps, IsPiece p) :
    pieces (Text.join "; " ps) = ps := by
  induction ps with
  | nil => rfl
  | cons p ps ih =>
    obtain ⟨hp, hps⟩ := List.forall_mem_cons.1 h
    cases ps with
    | nil => rw [Text.join, List.intercalate_singleton, hp.pieces_eq]
    | cons q ps =>
      have hjoin : Text.join "; " (p :: q :: ps) =
          p ++ .scalar ';' :: .scalar ' ' :: Text.join "; " (q :: ps) := by
        rw [Text.join, List.intercalate_cons_cons, List.append_assoc]
        rfl
      rw [hjoin, pieces_append_cons, pieces_cons_space, ih hps, hp.pieces_eq, List.singleton_append]

end MediaType

end JsonApi
