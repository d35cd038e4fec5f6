import JsonApi.Proofs.MediaType.Pieces

/-!
# Writing media types

A media type is written with its two lists in quotes and its other parameters behind them.  Reading
takes quotes off a value, but cuts the text at its semicolons before it looks at any quote.  So what
was written is read again exactly when no item of a list holds a semicolon
(`MediaType.ofText_text_iff`), whatever else is in the items: equals signs and commas do no harm.
-/

namespace JsonApi

namespace MediaType

/-! ### The written form -/

/-- A list as it is written: in quotes, with a space between neighbours. -/
def listText (items : List Text) : Text := ("\"" : Text) ++ Text.join " " items ++ ("\"" : Text)

/-- A parameter as it is written. -/
def parameterText (name value : Text) : Text := name ++ .scalar '=' :: value

/-- The pieces that a media type is written in. -/
def written (m : MediaType) : List Text :=
  m.essence :: parameterText "ext" (listText m.ext) ::
    parameterText "profile" (listText m.profile) ::
      m.others.map fun (name, value) => parameterText name value

/-- A media type as it is written. -/
def text (m : MediaType) : Text := Text.join "; " m.written

/-- A media type as it is read: its type and the names of its parameters are in lower case. -/
def folded (m : MediaType) : MediaType :=
  { m with
    essence := m.essence.lower
    others := m.others.map fun (name, value) => (name.lower, value) }

/-- An item that a list can hold, such as a URI: it is not empty and holds no space. -/
@[mk_iff]
structure IsItem (u : Text) : Prop where
  ne_nil : u ≠ []
  bare : .scalar ' ' ∉ u

/-- A parameter other than the lists whose name and value stand for themselves, such as tokens. -/
@[mk_iff]
structure IsOther (p : Text × Text) : Prop where
  name_strip : Text.strip p.1 = p.1
  name_bare : .scalar ';' ∉ p.1
  name_whole : .scalar '=' ∉ p.1
  ne_ext : Text.lower p.1 ≠ "ext"
  ne_profile : Text.lower p.1 ≠ "profile"
  value_strip : Text.strip p.2 = p.2
  value_bare : .scalar ';' ∉ p.2

/-- A media type that can be written: the parts stand for themselves, and the names of the other
parameters differ in lower case. -/
@[mk_iff]
structure Writable (m : MediaType) : Prop where
  essence : IsPiece m.essence
  items : ∀ u ∈ m.ext ++ m.profile, IsItem u
  others : ∀ p ∈ m.others, IsOther p
  distinct : (m.others.map fun p => Text.lower p.1).Nodup

instance : DecidablePred IsItem := fun u => decidable_of_iff _ (isItem_iff u).symm

instance : DecidablePred IsOther := fun p => decidable_of_iff _ (isOther_iff p).symm

instance : DecidablePred Writable := fun m => decidable_of_iff _ (writable_iff m).symm

variable {m : MediaType} {t u v name value : Text} {items : List Text}

/-! ### Reading the written form -/

theorem head?_listText (items : List Text) : (listText items).head? = some (.scalar '"') := rfl

theorem getLast?_listText (items : List Text) :
    (listText items).getLast? = some (.scalar '"') :=
  List.getLast?_concat

theorem unquote_listText (items : List Text) : unquote (listText items) = Text.join " " items := by
  have hdrop : (listText items).drop 1 = Text.join " " items ++ [.scalar '"'] := rfl
  rw [unquote, if_pos ⟨head?_listText items, getLast?_listText items⟩, hdrop, List.dropLast_concat]

theorem list_listText (h : ∀ u ∈ items, IsItem u) : list (listText items) = items := by
  rw [list, unquote_listText]
  cases items with
  | nil => rfl
  | cons u items =>
    have hne : Text.join " " (u :: items) ≠ [] := by
      have hu := (h u List.mem_cons_self).ne_nil
      cases items <;> simp [Text.join, List.intercalate_cons_cons, hu]
    rw [if_neg hne]
    exact Text.splitAt_join (List.cons_ne_nil _ _) fun w hw => (h w hw).bare

/-- A list in quotes neither begins nor ends with a blank. -/
theorem strip_listText (items : List Text) : (listText items).strip = listText items := by
  have hquote : (CodePoint.scalar '"').isBlank = false := by decide
  rw [Text.strip_eq_self_iff, head?_listText, getLast?_listText]
  simpa using hquote

theorem ofPiece_parameterText (hname : name.strip = name) (hwhole : .scalar '=' ∉ name)
    (hvalue : value.strip = value) :
    Parameter.ofPiece (parameterText name value) = ⟨name.lower, value, true⟩ := by
  rw [Parameter.ofPiece, parameterText, Text.cut?_append_cons hwhole]
  simp only [hname, hvalue]

theorem isPiece_parameterText (hname : name.strip = name) (hbare : .scalar ';' ∉ name)
    (hvalue : value.strip = value) (hvalue_bare : .scalar ';' ∉ value) :
    IsPiece (parameterText name value) := by
  have hequals : (CodePoint.scalar '=').isBlank = false := by decide
  refine ⟨by simp [parameterText], Text.strip_eq_self_iff.2 ⟨?_, ?_⟩, ?_⟩
  · -- the text begins as the name does, or with the equals sign
    cases name with
    | nil => simpa [parameterText] using hequals
    | cons c name => simpa [parameterText] using (Text.strip_eq_self_iff.1 hname).1
  · rcases value.eq_nil_or_concat with rfl | ⟨value, c, rfl⟩
    · simpa [parameterText] using hequals
    · have hlast := (Text.strip_eq_self_iff.1 hvalue).2
      simpa [parameterText, List.getLast?_append, List.getLast?_cons] using hlast
  · simp [parameterText, hbare, hvalue_bare]

theorem add_ext (m : MediaType) (v : Text) : m.add ⟨"ext", v, true⟩ = { m with ext := list v } :=
  if_pos ⟨rfl, rfl⟩

theorem add_profile (m : MediaType) (v : Text) :
    m.add ⟨"profile", v, true⟩ = { m with profile := list v } :=
  have hne : ("profile" : Text) ≠ "ext" := by decide
  (if_neg fun h => hne h.2).trans (if_pos ⟨rfl, rfl⟩)

/-- Parameters other than the lists are added to the others. -/
theorem foldl_add_others {ps : List (Text × Text)}
    (h : ∀ p ∈ ps, p.1 ≠ "ext" ∧ p.1 ≠ "profile") (m : MediaType) :
    (ps.map fun p => (⟨p.1, p.2, true⟩ : Parameter)).foldl add m =
      { m with others := ps.foldl (fun ms p => Members.put p.1 p.2 ms) m.others } := by
  induction ps generalizing m with
  | nil => rfl
  | cons p ps ih =>
    obtain ⟨⟨hext, hprofile⟩, hps⟩ := List.forall_mem_cons.1 h
    rw [List.map_cons, List.foldl_cons, ih hps, add, if_neg fun h => hext h.2,
      if_neg fun h => hprofile h.2]
    rfl

theorem bare_listText (h : ∀ u ∈ items, .scalar ';' ∉ u) : .scalar ';' ∉ listText items := by
  intro hmem
  rcases List.mem_append.1 hmem with hmem | hmem
  · rcases List.mem_append.1 hmem with hmem | hmem
    · exact absurd hmem (by decide)
    · rcases Text.mem_join hmem with hspace | ⟨u, hu, hsemicolon⟩
      · exact absurd hspace (by decide)
      · exact h u hu hsemicolon
  · exact absurd hmem (by decide)

theorem pieces_text (hm : m.Writable) (h : ∀ u ∈ m.ext ++ m.profile, .scalar ';' ∉ u) :
    pieces m.text = m.written := by
  refine pieces_join fun p hp => ?_
  rw [List.forall_mem_append] at h
  rcases List.mem_cons.1 hp with rfl | hp
  · exact hm.essence
  · rcases List.mem_cons.1 hp with rfl | hp
    · exact isPiece_parameterText (by decide) (by decide) (strip_listText _) (bare_listText h.1)
    · rcases List.mem_cons.1 hp with rfl | hp
      · exact isPiece_parameterText (by decide) (by decide) (strip_listText _) (bare_listText h.2)
      · obtain ⟨p, hmem, rfl⟩ := List.mem_map.1 hp
        have hp := hm.others p hmem
        exact isPiece_parameterText hp.name_strip hp.name_bare hp.value_strip hp.value_bare

/-- What is written without semicolons in the lists is read again. -/
theorem ofText_text (hm : m.Writable) (h : ∀ u ∈ m.ext ++ m.profile, .scalar ';' ∉ u) :
    ofText m.text = m.folded := by
  have hitems := List.forall_mem_append.1 hm.items
  have hothers : (m.others.map fun p => parameterText p.1 p.2).map Parameter.ofPiece =
      (m.folded.others.map fun p => (⟨p.1, p.2, true⟩ : Parameter)) := by
    rw [folded, List.map_map, List.map_map]
    refine List.map_congr_left fun p hp => ?_
    have hp := hm.others p hp
    exact ofPiece_parameterText hp.name_strip hp.name_whole hp.value_strip
  have hnames : ∀ p ∈ m.folded.others, p.1 ≠ "ext" ∧ p.1 ≠ "profile" := by
    intro p hp
    obtain ⟨p, hmem, rfl⟩ := List.mem_map.1 hp
    exact ⟨(hm.others p hmem).ne_ext, (hm.others p hmem).ne_profile⟩
  have hdistinct : Members.ofPairs m.folded.others = m.folded.others := by
    refine Members.ofPairs_of_nodup ?_
    rw [Members.names, folded, List.map_map]
    exact hm.distinct
  have hext : Parameter.ofPiece (parameterText "ext" (listText m.ext)) =
      ⟨"ext", listText m.ext, true⟩ :=
    (ofPiece_parameterText (by decide) (by decide) (strip_listText _)).trans (by congr 1)
  have hprofile : Parameter.ofPiece (parameterText "profile" (listText m.profile)) =
      ⟨"profile", listText m.profile, true⟩ :=
    (ofPiece_parameterText (by decide) (by decide) (strip_listText _)).trans (by congr 1)
  rw [ofText, pieces_text hm h, written]
  simp only [List.map_cons, List.foldl_cons, hext, hprofile, hothers]
  rw [add_ext, add_profile, list_listText hitems.1, list_listText hitems.2,
    foldl_add_others hnames]
  exact congrArg (MediaType.mk _ _ _) hdistinct

/-! ### Semicolons -/

theorem bare_of_mem_list (hv : .scalar ';' ∉ v) (hu : u ∈ list v) : .scalar ';' ∉ u := by
  have hunquote : unquote v ⊆ v := by
    unfold unquote
    split_ifs
    · exact List.Subset.trans (List.dropLast_subset _) (List.drop_subset _ _)
    · exact List.Subset.refl _
  unfold list at hu
  split_ifs at hu
  · cases hu
  · exact fun hmem => hv (hunquote (Text.mem_of_mem_splitAt hu hmem))

theorem bare_of_mem_valuesOf {pieces : List Text} (hpieces : ∀ p ∈ pieces, IsPiece p)
    (hv : v ∈ valuesOf name pieces) : .scalar ';' ∉ v := by
  obtain ⟨p, hp, hvalue⟩ := List.mem_filterMap.1 hv
  obtain ⟨⟨front, behind⟩, hcut, rfl⟩ := Option.map_eq_some_iff.1 hvalue
  have hp := hpieces p (List.mem_of_mem_filter hp)
  intro hmem
  refine hp.bare (Text.append_of_cut? hcut ▸ ?_)
  exact List.mem_append_right _ (List.mem_cons_of_mem _ (Text.strip_subset _ hmem))

/-- The lists that are read from a text are those of its last values for their names. -/
theorem lists_ofText (t : Text) :
    (ofText t).ext = ((valuesOf "ext" (pieces t).tail).getLast?.map list).getD [] ∧
      (ofText t).profile = ((valuesOf "profile" (pieces t).tail).getLast?.map list).getD [] := by
  have hstrip : ∀ p ∈ pieces t, Text.strip p = p := fun _ => strip_of_mem_pieces
  rw [ofText]
  cases hpieces : pieces t with
  | nil => exact ⟨rfl, rfl⟩
  | cons first rest =>
    rw [hpieces] at hstrip
    have hrest := (List.forall_mem_cons.1 hstrip).2
    simp only [foldl_add_of_step ext_add, foldl_add_of_step profile_add,
      filterMap_valueFor? hrest, List.tail_cons, and_self]

/-- No item that is read holds a semicolon. -/
theorem bare_of_mem_lists (hu : u ∈ (ofText t).ext ++ (ofText t).profile) : .scalar ';' ∉ u := by
  have hvalue : ∀ {name}, u ∈ ((valuesOf name (pieces t).tail).getLast?.map list).getD [] →
      .scalar ';' ∉ u := by
    intro name hu
    cases hlast : (valuesOf name (pieces t).tail).getLast? with
    | none =>
      rw [hlast] at hu
      cases hu
    | some v =>
      rw [hlast] at hu
      refine bare_of_mem_list (bare_of_mem_valuesOf ?_ (List.mem_of_getLast? hlast)) hu
      exact fun p hp => isPiece_of_mem_pieces (List.mem_of_mem_tail hp)
  rw [(lists_ofText t).1, (lists_ofText t).2] at hu
  exact (List.mem_append.1 hu).elim hvalue hvalue

/-- **A media type is read as it was written** exactly when its lists hold no semicolons: type and
names come back in lower case, the lists and the values of the other parameters as they are. -/
theorem ofText_text_iff (hm : m.Writable) :
    ofText m.text = m.folded ↔ ∀ u ∈ m.ext ++ m.profile, .scalar ';' ∉ u := by
  refine ⟨fun h u hu => ?_, ofText_text hm⟩
  refine bare_of_mem_lists (t := m.text) ?_
  rw [h]
  exact hu

/-- URIs with equals signs and commas are read again. -/
theorem ofText_text_uris :
    ∃ m : MediaType, m = ⟨"Application/vnd.api+json",
        ["https://a.example/x=1", "https://a.example/y,z"], [], [("Charset", "utf-8")]⟩ ∧
      m.Writable ∧ ofText m.text = ⟨"application/vnd.api+json",
        ["https://a.example/x=1", "https://a.example/y,z"], [], [("charset", "utf-8")]⟩ := by
  have hwritable : Writable ⟨"Application/vnd.api+json",
      ["https://a.example/x=1", "https://a.example/y,z"], [], [("Charset", "utf-8")]⟩ := by
    decide +kernel
  refine ⟨_, rfl, hwritable, ((ofText_text_iff hwritable).2 (by decide)).trans ?_⟩
  decide +kernel

/-- An extension with a semicolon is cut in two: its front keeps the quote, and its back is taken
for a parameter. -/
theorem ofText_text_semicolon :
    ∃ m : MediaType, m = ⟨"application/vnd.api+json", ["https://a.example/x;1"], [], []⟩ ∧
      m.Writable ∧ ofText m.text = ⟨"application/vnd.api+json", ["\"https://a.example/x"], [],
        [("1\"", "")]⟩ ∧ ofText m.text ≠ m.folded := by
  refine ⟨_, rfl, ?_⟩
  decide +kernel

end MediaType

end JsonApi
