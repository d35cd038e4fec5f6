import JsonApi.Negotiation
import JsonApi.Proofs.Except
import JsonApi.Proofs.Json.Merged
import JsonApi.Proofs.Text
import JsonApi.Proofs.Text.Case
import Mathlib.Data.List.DropRight

/-!
# What negotiation lets through

A content type is judged by the media type that its pieces add up to.  Adding them one by one keeps
the last list of each name and the names of all other parameters (`foldl_add_of_step`,
`mem_names_others_foldl_add`).

* `Negotiation.lets_through_iff` : which content types pass, said of their pieces.  A list that
  holds nothing leaves no trace, so it passes, and it hides an earlier list of its name.
-/

namespace JsonApi

/-! ### Stripped texts -/

namespace Text

theorem strip_strip (t : Text) : t.strip.strip = t.strip := by
  have htrim : ∀ u, strip u = (u.dropWhile CodePoint.isBlank).rdropWhile CodePoint.isBlank :=
    fun _ => rfl
  -- what is left begins as it did behind the blanks in front
  have hfront : t.strip.dropWhile CodePoint.isBlank = t.strip := by
    have hprefix := List.rdropWhile_prefix CodePoint.isBlank (l := t.dropWhile CodePoint.isBlank)
    have hdrop := List.dropWhile_idempotent (p := CodePoint.isBlank) (l := t)
    rw [← htrim] at hprefix
    obtain ⟨rest, hrest⟩ := hprefix
    cases hstrip : t.strip with
    | nil => rfl
    | cons c u =>
      rw [← hrest, hstrip, List.cons_append, List.dropWhile_eq_self_iff] at hdrop
      exact List.dropWhile_cons_of_neg (hdrop (Nat.succ_pos _))
  rw [htrim t.strip, hfront, htrim t, List.rdropWhile_idempotent]

theorem isBlank_of_mem_splitAt {c : CodePoint} {s t : Text} (ht : t.isBlank = true)
    (hs : s ∈ t.splitAt c) : s.isBlank = true := by
  rw [isBlank, List.all_eq_true] at ht ⊢
  exact fun x hx => ht x (mem_of_mem_splitAt hs hx)

end Text

namespace MediaType

variable {piece t : Text}

/-- The name of a piece: what stands before its first equals sign, in lower case. -/
def nameOf (piece : Text) : Text := (Text.strip (piece.takeWhile (· ≠ .scalar '='))).lower

/-- The value of a piece with an equals sign. -/
def valueOf? (piece : Text) : Option Text := (piece.cut? (.scalar '=')).map fun (_, v) => v.strip

theorem pieces_of_isBlank (h : t.isBlank = true) : pieces t = [] := by
  rw [pieces, List.filter_eq_nil_iff]
  intro piece hpiece
  obtain ⟨s, hs, rfl⟩ := List.mem_map.1 hpiece
  simpa using Text.strip_eq_nil_iff.2 (Text.isBlank_of_mem_splitAt h hs)

theorem strip_of_mem_pieces (h : piece ∈ pieces t) : piece.strip = piece := by
  obtain ⟨s, -, rfl⟩ := List.mem_map.1 (List.mem_of_mem_filter h)
  exact s.strip_strip

theorem ofPiece_eq (h : piece.strip = piece) : Parameter.ofPiece piece =
    ⟨nameOf piece, (valueOf? piece).getD [], (valueOf? piece).isSome⟩ := by
  by_cases hequals : .scalar '=' ∈ piece
  · obtain ⟨name, v, rfl, hname⟩ := List.eq_append_cons_of_mem hequals
    have htake : (name ++ .scalar '=' :: v).takeWhile (· ≠ .scalar '=') = name := by
      rw [List.takeWhile_append_of_pos fun c hc => by simpa using ne_of_mem_of_not_mem hc hname]
      simp
    simp only [Parameter.ofPiece, nameOf, valueOf?, Text.cut?_append_cons hname, htake,
      Option.map_some, Option.getD_some, Option.isSome_some]
  · have htake : piece.takeWhile (· ≠ .scalar '=') = piece :=
      List.takeWhile_eq_self_iff.2 fun c hc => by simpa using ne_of_mem_of_not_mem hc hequals
    simp only [Parameter.ofPiece, nameOf, valueOf?, Text.cut?_of_not_mem hequals, htake, h,
      Option.map_none, Option.getD_none, Option.isSome_none]

/-- The value that a parameter has for a name. -/
def Parameter.valueFor? (name : Text) (p : Parameter) : Option Text :=
  if p.hasValue ∧ p.name = name then some p.value else none

variable {m : MediaType} {ps : List Parameter}

theorem essence_foldl_add : (ps.foldl add m).essence = m.essence := by
  induction ps generalizing m with
  | nil => rfl
  | cons p ps ih =>
    rw [List.foldl_cons, ih, add]
    split_ifs <;> rfl

/-- What the parameters of a name set in turn is what the last of them sets. -/
theorem foldl_add_of_step {field : MediaType → List Text} {name : Text}
    (hstep : ∀ m p, field (add m p) = ((Parameter.valueFor? name p).map list).getD (field m)) :
    field (ps.foldl add m) =
      ((ps.filterMap (Parameter.valueFor? name)).getLast?.map list).getD (field m) := by
  induction ps generalizing m with
  | nil => rfl
  | cons p ps ih =>
    rw [List.foldl_cons, ih, hstep, List.filterMap_cons]
    cases p.valueFor? name with
    | none => rfl
    | some v => 
      rw [List.getLast?_cons]
      cases (ps.filterMap (Parameter.valueFor? name)).getLast? <;> rfl

theorem ext_add (m : MediaType) (p : Parameter) :
    (m.add p).ext = ((p.valueFor? "ext").map list).getD m.ext := by
  unfold add Parameter.valueFor?
  split_ifs <;> rfl

theorem profile_add (m : MediaType) (p : Parameter) :
    (m.add p).profile = ((p.valueFor? "profile").map list).getD m.profile := by
  have hne : ("ext" : Text) ≠ "profile" := by decide
  unfold add Parameter.valueFor?
  split_ifs <;> grind

theorem mem_names_others_foldl_add {name : Text} :
    name ∈ Members.names (ps.foldl add m).others ↔ name ∈ Members.names m.others ∨
      ∃ p ∈ ps, p.name = name ∧ ¬ (p.hasValue ∧ (p.name = "ext" ∨ p.name = "profile")) := by
  induction ps generalizing m with
  | nil => simp
  | cons p ps ih =>
    rw [List.foldl_cons, ih]
    simp only [List.mem_cons, exists_eq_or_imp]
    rw [← or_assoc]
    refine or_congr_left ?_
    unfold add
    split_ifs with hext hprofile
    · simp [hext]
    · simp [hprofile]
    · rw [Members.mem_names_put]
      grind

/-- The values that spell an empty list: nothing, with or without quotes around it, and a quote on
its own. -/
def voidValues : List Text := ["", "\"", "\"\""]

theorem list_eq_nil_iff : list t = [] ↔ t ∈ voidValues := by
  have hlist : list t = [] ↔ unquote t = [] := by
    unfold list
    split_ifs with h
    · simp [h]
    · simp [h, Text.splitAt_ne_nil]
  rw [hlist]
  match t with
  | [] => decide
  | [c] =>
    by_cases hc : c = .scalar '"' <;>
      simp [unquote, voidValues, Text.ofString, Text.ofChars, hc]
  | [c, d] =>
    by_cases hc : c = .scalar '"' <;> by_cases hd : d = .scalar '"' <;>
      simp [unquote, voidValues, Text.ofString, Text.ofChars, hc, hd]
  | c :: d :: e :: rest =>
    have hne : unquote (c :: d :: e :: rest) ≠ [] := by
      unfold unquote
      split_ifs <;> simp
    simp [hne, voidValues, Text.ofString, Text.ofChars]

theorem getD_map_list_eq_nil_iff {v : Option Text} :
    (v.map list).getD [] = [] ↔ ∀ w ∈ v, w ∈ voidValues := by
  cases v with
  | none => simp
  | some v => simp [list_eq_nil_iff]

/-- The values of the pieces of a name, in order. -/
def valuesOf (name : Text) (pieces : List Text) : List Text :=
  (pieces.filter (nameOf · = name)).filterMap valueOf?

theorem filterMap_valueFor? {name : Text} {rest : List Text}
    (h : ∀ piece ∈ rest, piece.strip = piece) :
    (rest.map Parameter.ofPiece).filterMap (Parameter.valueFor? name) = valuesOf name rest := by
  rw [valuesOf, List.filterMap_map, List.filterMap_filter]
  refine List.filterMap_congr fun piece hpiece => ?_
  rw [Function.comp_apply, ofPiece_eq (h piece hpiece), Parameter.valueFor?]
  cases valueOf? piece <;> simp

end MediaType

namespace Negotiation

open MediaType

variable {s : Settings} {contentType : Text}

/-- What negotiation lets through: the media type of the settings in any case, and behind it nothing
but parameters that are a tolerated charset or a list, where the last list of each name is empty. -/
def LetsThrough (s : Settings) (contentType : Text) : Prop :=
  ∃ first rest, pieces contentType = first :: rest ∧ first.lower = s.mediaType.lower ∧
    (∀ piece ∈ rest, nameOf piece = "charset" ∧ s.tolerateCharset = true ∨
      (nameOf piece = "ext" ∨ nameOf piece = "profile") ∧ (valueOf? piece).isSome) ∧
    (∀ v ∈ (valuesOf "ext" rest).getLast?, v ∈ voidValues) ∧
    ∀ v ∈ (valuesOf "profile" rest).getLast?, v ∈ voidValues

theorem strangers_eq_nil_iff {others : List (Text × Text)} : strangers s others = [] ↔
    ∀ name ∈ Members.names others, name = "charset" ∧ s.tolerateCharset = true := by
  unfold strangers
  cases s.tolerateCharset with
  | true => simp [Members.names]
  | false => simp [Members.names, List.eq_nil_iff_forall_not_mem]

theorem strangers_ofText_eq_nil_iff {first : Text} {rest : List Text}
    (hrest : ∀ piece ∈ rest, piece.strip = piece) :
    strangers s ((rest.map Parameter.ofPiece).foldl add ⟨first.lower, [], [], []⟩).others = [] ↔
      ∀ piece ∈ rest, nameOf piece = "charset" ∧ s.tolerateCharset = true ∨
        (nameOf piece = "ext" ∨ nameOf piece = "profile") ∧ (valueOf? piece).isSome := by
  have hmem : ∀ name, name ∈ Members.names
      ((rest.map Parameter.ofPiece).foldl add ⟨first.lower, [], [], []⟩).others ↔
        ∃ piece ∈ rest, nameOf piece = name ∧
          ¬ ((valueOf? piece).isSome ∧ (nameOf piece = "ext" ∨ nameOf piece = "profile")) := by
    intro name
    rw [mem_names_others_foldl_add]
    constructor
    · rintro (h | ⟨p, hp, h⟩)
      · cases h
      · obtain ⟨piece, hpiece, rfl⟩ := List.mem_map.1 hp
        rw [ofPiece_eq (hrest piece hpiece)] at h
        exact ⟨piece, hpiece, h⟩
    · rintro ⟨piece, hpiece, h⟩
      refine .inr ⟨_, List.mem_map_of_mem hpiece, ?_⟩
      rw [ofPiece_eq (hrest piece hpiece)]
      exact h
  rw [strangers_eq_nil_iff]
  constructor
  · intro h piece hpiece
    by_cases hlist : (valueOf? piece).isSome ∧ (nameOf piece = "ext" ∨ nameOf piece = "profile")
    · exact .inr hlist.symm
    · exact .inl (h _ ((hmem _).2 ⟨piece, hpiece, rfl, hlist⟩))
  · intro h name hname
    obtain ⟨piece, hpiece, rfl, hlist⟩ := (hmem name).1 hname
    exact (h piece hpiece).resolve_right fun h => hlist h.symm

theorem checkContentType_eq_ok : checkContentType s contentType = .ok () ↔
    contentType.strip ≠ [] ∧ (MediaType.ofText contentType).essence = s.mediaType.lower ∧
      (MediaType.ofText contentType).ext = [] ∧ (MediaType.ofText contentType).profile = [] ∧
      strangers s (MediaType.ofText contentType).others = [] := by
  unfold checkContentType
  grind

theorem checkContentType_eq_ok_iff (hmedia : s.mediaType ≠ []) :
    checkContentType s contentType = .ok () ↔ LetsThrough s contentType := by
  have hblank : contentType.strip = [] → pieces contentType = [] := fun h =>
    pieces_of_isBlank (Text.strip_eq_nil_iff.1 h)
  have hstrip : ∀ piece ∈ pieces contentType, piece.strip = piece := fun _ => strip_of_mem_pieces
  rw [checkContentType_eq_ok, LetsThrough, ofText]
  cases hpieces : pieces contentType with
  | nil =>
    constructor
    · rintro ⟨-, hessence, -⟩
      exact absurd hessence.symm (Text.lower_ne_nil hmedia)
    · rintro ⟨first, rest, ⟨⟩, -⟩
  | cons first rest =>
    rw [hpieces] at hblank hstrip
    have hrest := (List.forall_mem_cons.1 hstrip).2
    simp only [essence_foldl_add, foldl_add_of_step ext_add, foldl_add_of_step profile_add,
      filterMap_valueFor? hrest, getD_map_list_eq_nil_iff, strangers_ofText_eq_nil_iff hrest,
      List.cons.injEq]
    constructor
    · rintro ⟨-, hessence, hext, hprofile, hothers⟩
      exact ⟨first, rest, ⟨rfl, rfl⟩, hessence, hothers, hext, hprofile⟩
    · rintro ⟨first, rest, ⟨rfl, rfl⟩, hessence, hothers, hext, hprofile⟩
      exact ⟨fun h => List.cons_ne_nil _ _ (hblank h), hessence, hext, hprofile, hothers⟩

/-- **Negotiation lets a content type through** exactly when it is the media type of the settings
with tolerated parameters only, and refuses the headers with an error for any other; several fields
count as one value, none as an empty one. -/
theorem lets_through_iff (hmedia : s.mediaType ≠ []) {headers : GivenHeaders} {h : Headers}
    (hh : Headers.ofPairs headers = .ok h) :
    (checkGiven (.ok s) headers = .ok () ↔ LetsThrough s ((h.get? "content-type").getD [])) ∧
      (¬ LetsThrough s ((h.get? "content-type").getD []) →
        ∃ e, checkGiven (.ok s) headers = .error (.api e) ∧ e.errorClass = .headerNegotiation) := by
  have hgiven : checkGiven (.ok s) headers = (check s h).mapError fun r => .api (r.error s) := by
    rw [checkGiven, hh]
    rfl
  have hcheck : checkContentType s ((h.get? "content-type").getD []) = .ok () ↔
      LetsThrough s ((h.get? "content-type").getD []) := checkContentType_eq_ok_iff hmedia
  rw [hgiven, Except.mapError_eq_ok_iff, check, hcheck]
  refine ⟨Iff.rfl, fun hnot => ?_⟩
  cases hresult : checkContentType s ((h.get? "content-type").getD []) with
  | ok => exact absurd (hcheck.1 hresult) hnot
  | error r => exact ⟨_, rfl, rfl⟩

/-- A charset in capitals is let through, and behind it an extension is refused. -/
theorem lets_charset_through :
    Settings.default.mediaType ≠ [] ∧
      LetsThrough .default "Application/vnd.api+json;; CHARSET = utf-8" ∧
      checkGiven (.ok .default) [(.text "Content-Type",
        .text "Application/vnd.api+json;; CHARSET = utf-8")] = .ok () ∧
      ∃ e, checkGiven (.ok .default) [(.text "Content-Type",
        .text "application/vnd.api+json; charset=utf-8; ext=\"a b\"")] = .error (.api e) ∧
          e.errorClass = .headerNegotiation := by
  have hmedia : Settings.default.mediaType ≠ [] := by decide
  have hlets : LetsThrough .default "Application/vnd.api+json;; CHARSET = utf-8" :=
    ⟨"Application/vnd.api+json", ["CHARSET = utf-8"], by decide +kernel⟩
  obtain ⟨h, hh, hget⟩ := Except.exists_of_any (x := Headers.ofPairs [(.text "Content-Type",
      .text "Application/vnd.api+json;; CHARSET = utf-8")])
    (p := fun h => h.get? "content-type" = some "Application/vnd.api+json;; CHARSET = utf-8")
    (by decide +kernel)
  have hrefused : checkGiven (.ok .default) [(.text "Content-Type",
      .text "application/vnd.api+json; charset=utf-8; ext=\"a b\"")] ≠ .ok () := by
    intro hok
    have hfails : (checkGiven (.ok .default) [(.text "Content-Type",
        .text "application/vnd.api+json; charset=utf-8; ext=\"a b\"")]).isOk = false := by
      decide +kernel
    rw [hok] at hfails
    cases hfails
  refine ⟨hmedia, hlets, ?_, ?_⟩
  · rw [(lets_through_iff hmedia hh).1, of_decide_eq_true hget]
    exact hlets
  · obtain ⟨h', hh'⟩ := Except.exists_of_isOk (x := Headers.ofPairs [(.text "Content-Type",
      .text "application/vnd.api+json; charset=utf-8; ext=\"a b\"")]) rfl
    have hrefuses := lets_through_iff hmedia hh'
    exact hrefuses.2 fun hlets => hrefused (hrefuses.1.2 hlets)

/-- An extension that holds nothing is let through. -/
theorem lets_void_extension_through :
    MediaType.pieces "application/vnd.api+json; ext=\"\"" =
        ["application/vnd.api+json", "ext=\"\""] ∧
      nameOf "ext=\"\"" = "ext" ∧
      checkGiven (.ok .default) [(.text "Content-Type",
        .text "application/vnd.api+json; ext=\"\"")] = .ok () := by
  refine ⟨by decide +kernel, by decide +kernel, rfl⟩

end Negotiation

end JsonApi
