import JsonApi.Proofs.Attributes.Kept
import JsonApi.Proofs.Attributes.Payload
import JsonApi.Proofs.Json.Ascii

/-!
# Values and the texts that spell them

Attributes may be given as a value in the shape of JSON or as the text that the value is spelled as.

* `Attributes.ofSpelling_eq_ok_iff` : the attributes of the text have the texts of the value joined;
* `Json.kept_eq_of_joined` : these are what is kept of the value only when all of it is kept;
* `Attributes.agree_iff` : so the value and its text agree unless something is left out or joined.
-/

namespace JsonApi

/-! ### What joining and keeping have in common -/

/-- Joining leaves the front of a name alone that makes it bookkeeping. -/
theorem Draft.isBookkeeping_joined {name : Text} (h : isBookkeeping name = true) :
    isBookkeeping name.joined = true := by
  obtain ⟨t, rfl⟩ := List.isPrefixOf_iff_prefix.1 h
  have hfront : Text.joined (("_sa" : Text) ++ t) = ("_sa" : Text) ++ Text.joined t := by
    change Text.joined (.scalar '_' :: .scalar 's' :: .scalar 'a' :: t) = _
    rw [Text.joined_cons rfl, Text.joined_cons rfl, Text.joined_cons rfl]
    rfl
  rw [hfront]
  exact List.isPrefixOf_iff_prefix.2 (List.prefix_append _ _)

namespace Json

/-- When merging the members with their texts joined gives what is kept of them, all are kept and
their names stay as they are. -/
theorem names_of_joined_eq_kept {ms : List (Text × Json)}
    (hscalar : ∀ m ∈ keptMembers ms, m.1.isScalar = true)
    (h : Members.ofPairs (mergedMembers (mapTextsOfMembers Text.joined ms)) = keptMembers ms) :
    ∀ name ∈ Members.names ms, Draft.isBookkeeping name = false ∧ name.joined = name := by
  intro name hname
  -- the joined name is that of a member that was kept, so neither is bookkeeping
  have hmem : name.joined ∈ Members.names (keptMembers ms) := by
    rw [← h, Members.mem_names_ofPairs, names_mergedMembers, names_mapTextsOfMembers]
    exact List.mem_map_of_mem hname
  rw [names_keptMembers, List.mem_filter] at hmem
  have hkept : Draft.isBookkeeping name = false := by
    by_contra hbook
    have hjoined := Draft.isBookkeeping_joined (eq_true_of_ne_false hbook)
    simp [hjoined] at hmem
  refine ⟨hkept, Text.joined_of_isScalar ?_⟩
  have hin : name ∈ Members.names (keptMembers ms) := by
    rw [names_keptMembers, List.mem_filter]
    exact ⟨hname, by simp [hkept]⟩
  obtain ⟨m, hm, rfl⟩ := List.mem_map.1 hin
  exact hscalar m hm

mutual

/-- **The text of a value spells what is kept of it** only when all of it is kept. -/
theorem kept_eq_of_joined (v : Json) (hv : v.Distinct) (hscalar : v.kept.Scalar)
    (h : v.joined.merged = v.kept) : v.kept = v := by
  match v with
  | .null | .bool _ | .int _ | .float _ | .string _ => rfl
  | .array vs =>
    refine congrArg array (keptItems_eq_of_joined vs (distinct_array.1 hv) (fun v hv x hx => ?_)
      (Json.array.inj h))
    exact hscalar x (mem_leavesOfItems.2 ⟨v, hv, hx⟩)
  | .object ms =>
    obtain ⟨hnames, hvalues⟩ := distinct_object.1 hv
    have hms := Json.object.inj h
    have hmem : ∀ m ∈ keptMembers ms, m.1.isScalar = true ∧ m.2.Scalar := fun m hm =>
      ⟨hscalar _ (mem_leavesOfMembers.2 ⟨m, hm, .inl rfl⟩),
        fun x hx => hscalar x (mem_leavesOfMembers.2 ⟨m, hm, .inr hx⟩)⟩
    have hstay := names_of_joined_eq_kept (fun m hm => (hmem m hm).1) hms
    have hnodup : (Members.names (mergedMembers (mapTextsOfMembers Text.joined ms))).Nodup := by
      rw [names_mergedMembers, names_mapTextsOfMembers,
        List.map_congr_left fun name hname => (hstay name hname).2, List.map_id']
      exact hnames
    rw [Members.ofPairs_of_nodup hnodup] at hms
    exact congrArg object (keptMembers_eq_of_joined ms (fun n hn => (hstay n hn).1) hvalues
      (fun m hm => (hmem m hm).2) hms)

theorem keptItems_eq_of_joined (vs : List Json) (hvs : ∀ v ∈ vs, v.Distinct)
    (hscalar : ∀ v ∈ keptItems vs, v.Scalar)
    (h : mergedItems (mapTextsOfItems Text.joined vs) = keptItems vs) : keptItems vs = vs := by
  match vs with
  | [] => rfl
  | v :: vs =>
    obtain ⟨hv, hvs⟩ := List.forall_mem_cons.1 hvs
    obtain ⟨hs, hscalar⟩ := List.forall_mem_cons.1 hscalar
    obtain ⟨hhead, htail⟩ := List.cons.inj h
    rw [keptItems, kept_eq_of_joined v hv hs hhead, keptItems_eq_of_joined vs hvs hscalar htail]

theorem keptMembers_eq_of_joined (ms : List (Text × Json))
    (hkept : ∀ name ∈ Members.names ms, Draft.isBookkeeping name = false)
    (hms : ∀ m ∈ ms, m.2.Distinct) (hscalar : ∀ m ∈ keptMembers ms, m.2.Scalar)
    (h : mergedMembers (mapTextsOfMembers Text.joined ms) = keptMembers ms) :
    keptMembers ms = ms := by
  match ms with
  | [] => rfl
  | (name, v) :: ms =>
    obtain ⟨hname, hkept⟩ := List.forall_mem_cons.1 hkept
    obtain ⟨hv, hms⟩ := List.forall_mem_cons.1 hms
    rw [keptMembers, hname, if_neg Bool.false_ne_true] at hscalar h ⊢
    obtain ⟨hs, hscalar⟩ := List.forall_mem_cons.1 hscalar
    obtain ⟨hhead, htail⟩ := List.cons.inj h
    rw [kept_eq_of_joined v hv hs (congrArg Prod.snd hhead),
      keptMembers_eq_of_joined ms hkept hms hscalar htail]

end

end Json

/-! ### The two ways -/

namespace Attributes

variable {v : Json} {a : Attributes}

/-- The attributes of the text that a value is spelled as. -/
def ofSpelling (v : Json) : Except Error Attributes := do
  let t ← v.spell.mapError fun e => .coding (.unwritable e)
  ofPayload (.text t)

/-- **The attributes of the text of a value** have the texts of the value joined. -/
theorem ofSpelling_eq_ok_iff :
    ofSpelling v = .ok a ↔
      v.Writable ∧ v.joined.merged = a.value ∧ a.value.toBytes .compact = .ok a.bytes := by
  have hvalue : ∀ t, (Payload.text t).value = .ok a.value ↔ Json.ofText false t = .ok a.value :=
    fun t => Payload.ofDocumentText_eq_ok_iff
  rw [← and_assoc, ← Json.ofText_spell_iff]
  simp only [ofSpelling, Except.bind_eq_ok_iff, Except.mapError_eq_ok_iff, ofPayload_eq_ok_iff,
    hvalue]
  constructor
  · rintro ⟨t, ht, hread, hbytes⟩
    exact ⟨⟨t, ht, hread⟩, hbytes⟩
  · rintro ⟨⟨t, ht, hread⟩, hbytes⟩
    exact ⟨t, ht, hread, hbytes⟩

/-- The text of a value fails to be attributes for reasons of coding only. -/
theorem exists_ofSpelling (v : Json) :
    (∃ a, ofSpelling v = .ok a) ∨ ∃ e, ofSpelling v = .error (.coding e) := by
  unfold ofSpelling ofPayload
  cases v.spell with
  | error e => exact .inr ⟨.unwritable e, rfl⟩
  | ok t =>
    cases ht : (do ofJson (← (Payload.text t).value)) with
    | error e => exact .inr ⟨e, by rw [Except.ok_mapError, Except.ok_bind, ht]; rfl⟩
    | ok a => exact .inl ⟨a, by rw [Except.ok_mapError, Except.ok_bind, ht]; rfl⟩

/-- Two ways to attributes agree when they give the same bytes or both refuse what they are given
for reasons of coding. -/
def Agree (x : Except Error (Option Attributes)) (y : Except Error Attributes) : Prop :=
  (∃ a b, x = .ok (some a) ∧ y = .ok b ∧ a.bytes = b.bytes) ∨
    ∃ e f, x = .error (.coding e) ∧ y = .error (.coding f)

/-- The text of a value is taken when the value is writable and what is read of it has bytes. -/
theorem exists_ofSpelling_iff :
    (∃ a, ofSpelling v = .ok a) ↔ v.Writable ∧ v.joined.merged.Encodable := by
  simp only [ofSpelling_eq_ok_iff, ← Json.exists_toBytes_iff Json.Layout.standard_compact]
  constructor
  · rintro ⟨a, hwritable, hvalue, hbytes⟩
    exact ⟨hwritable, a.bytes, hvalue ▸ hbytes⟩
  · rintro ⟨hwritable, bs, hbs⟩
    obtain ⟨t, -, hread⟩ := Json.ofText_spell_iff.2 ⟨hwritable, rfl⟩
    obtain ⟨a, -, hbytes, hvalue⟩ := ofJson_of_toBytes (Json.settled_of_ofText hread) hbs
    exact ⟨a, hwritable, hvalue.symm, by rw [hvalue, hbytes, hbs]⟩

/-- What is taken as a value is taken as a text with the same bytes only when all of it is kept. -/
theorem agree_of_encodable {a : Attributes} (hv : v.Distinct) (hkept : v.kept.Encodable)
    (hvalue : a.value = v.kept) (hbytes : v.kept.toBytes .compact = .ok a.bytes) :
    Agree (.ok (some a)) (ofSpelling v) ↔ v.kept = v := by
  constructor
  · rintro (⟨_, b, ⟨⟩, hb, heq⟩ | ⟨_, _, ⟨⟩, -⟩)
    obtain ⟨-, hread, -⟩ := ofSpelling_eq_ok_iff.1 hb
    rw [eq_of_bytes heq] at hvalue
    exact Json.kept_eq_of_joined v hv hkept.2 (hread.trans hvalue)
  · intro h
    have hread : v.joined.merged = a.value := by
      rw [hvalue, h, Json.joined_of_scalar (h ▸ hkept.2), Json.merged_of_distinct hv]
    have hspelled : ofSpelling v = .ok a :=
      ofSpelling_eq_ok_iff.2 ⟨h ▸ hkept.1, hread, hvalue ▸ hbytes⟩
    exact .inl ⟨a, a, rfl, hspelled, rfl⟩

/-- What is refused as a value is refused as a text unless joining its texts makes it fit. -/
theorem agree_of_error {e : CodingError} :
    Agree (.error (.coding e)) (ofSpelling v) ↔
      ¬ (v.Writable ∧ v.joined.merged.Encodable) := by
  rw [← exists_ofSpelling_iff]
  constructor
  · rintro (⟨_, _, ⟨⟩, -⟩ | ⟨_, f, -, hf⟩) ⟨a, ha⟩
    rw [hf] at ha
    cases ha
  · intro h
    obtain ⟨f, hf⟩ := (exists_ofSpelling v).resolve_left h
    exact .inr ⟨e, f, rfl, hf⟩

/-- **The value and its text agree** exactly when nothing is left out of a value that is taken, and
a value is taken whenever its text is.  The attributes of a value spell what is kept of it; where
all of it is kept and nothing in it is joined, the two agree. -/
theorem agree_iff (hv : v.Distinct) (hnull : v ≠ .null) (htext : ∀ t, v ≠ .string t) :
    (∀ a, ofValue v.toValue = .ok (some a) → a.value = v.kept) ∧
      (Agree (ofValue v.toValue) (ofSpelling v) ↔
        (v.kept.Encodable → v.kept = v) ∧
          (v.Writable → v.joined.merged.Encodable → v.kept.Encodable)) ∧
      (v.kept = v → v.joined = v → Agree (ofValue v.toValue) (ofSpelling v)) := by
  have hiff : Agree (ofValue v.toValue) (ofSpelling v) ↔
      (v.kept.Encodable → v.kept = v) ∧
        (v.Writable → v.joined.merged.Encodable → v.kept.Encodable) := by
    obtain ⟨hok, herror⟩ := ofJson_kept hv
    rw [ofValue_toValue hv hnull htext]
    by_cases hkept : v.kept.Encodable
    · obtain ⟨a, ha, hvalue, hbytes⟩ := hok hkept
      rw [ha]
      exact (agree_of_encodable hv hkept hvalue hbytes).trans (by simp [hkept])
    · obtain ⟨e, he⟩ := herror hkept
      rw [he]
      exact agree_of_error.trans (by simp [hkept])
  refine ⟨fun a ha => ?_, hiff, fun hkept hjoined => hiff.2 ⟨fun _ => hkept, fun _ h => ?_⟩⟩
  · rw [ofValue_toValue hv hnull htext, Except.map_eq_ok_iff] at ha
    obtain ⟨b, hb, ⟨⟩⟩ := ha
    have hread := toBytes_of_ofJson (Except.mapError_eq_ok_iff.1 hb)
    have hspelled := Json.ofBytes_toBytes Json.Layout.standard_compact hread
    rw [a.spelled, Json.merged_of_distinct (Json.distinct_kept v hv)] at hspelled
    exact Except.ok.inj hspelled
  · rwa [hjoined, Json.merged_of_distinct hv, ← hkept] at h

/-- Attributes with a name that only looks like bookkeeping. -/
def scored : Json := .object [("score", .array [.int 3, .null]), ("a_sa", .string "é")]

/-- Such attributes are the same as a value and as a text. -/
theorem agree_scored :
    (scored.Distinct ∧ scored ≠ .null ∧ ∀ t, scored ≠ .string t) ∧
      Agree (ofValue scored.toValue) (ofSpelling scored) := by
  have hdistinct : scored.Distinct := by
    have hitems : Json.Distinct (.array [.int 3, .null]) :=
      .array (by simp [Json.Distinct.int, Json.Distinct.null])
    exact .object (by decide +kernel) (by simp [hitems, Json.Distinct.string])
  exact ⟨⟨hdistinct, nofun, nofun⟩, (agree_iff hdistinct nofun nofun).2.2 rfl rfl⟩

/-- Attributes with a member whose name is bookkeeping. -/
def tagged : Json := .object [("_sa_x", .int 1), ("a", .int 2)]

/-- A list with two halves of a surrogate pair side by side. -/
def halved : Json := .array [.string [.surrogate 0x3D, .surrogate 0x600]]

/-- What is bookkeeping is left out of the value and stays in the text; halves side by side have no
bytes in the value and are one code point in the text. -/
theorem not_agree :
    (tagged.Distinct ∧ ¬ Agree (ofValue tagged.toValue) (ofSpelling tagged)) ∧
      halved.Distinct ∧ ¬ Agree (ofValue halved.toValue) (ofSpelling halved) := by
  have htagged : tagged.Distinct :=
    .object (by decide +kernel) (by simp [Json.Distinct.int])
  have hhalved : halved.Distinct := .array (by simp [Json.Distinct.string])
  refine ⟨⟨htagged, fun h => ?_⟩, hhalved, fun h => ?_⟩
  · obtain ⟨as, has, hbytes⟩ := Except.exists_of_any (x := ofValue tagged.toValue)
      (p := fun as => as.map Attributes.bytes = some (Utf8.encodeScalars "\x7b\"a\":2\x7d"))
      (by decide +kernel)
    obtain ⟨b, hb, hbytes'⟩ := Except.exists_of_any (x := ofSpelling tagged)
      (p := fun b => b.bytes = Utf8.encodeScalars "\x7b\"_sa_x\":1,\"a\":2\x7d")
      (by decide +kernel)
    obtain ⟨a, b', ha, hb', heq⟩ | ⟨e, f, he, -⟩ := h
    · obtain rfl := Except.ok.inj (has.symm.trans ha)
      obtain rfl := Except.ok.inj (hb.symm.trans hb')
      rw [decide_eq_true_eq, Option.map_some, heq, of_decide_eq_true hbytes'] at hbytes
      exact absurd hbytes (by decide +kernel)
    · rw [has] at he
      cases he
  · obtain ⟨b, hb⟩ := Except.exists_of_isOk (x := ofSpelling halved) (by decide +kernel)
    have hrefused : (ofValue halved.toValue).isOk = false := by decide +kernel
    obtain ⟨a, b', ha, -⟩ | ⟨e, f, -, hf⟩ := h
    · rw [ha] at hrefused
      cases hrefused
    · rw [hb] at hf
      cases hf

end Attributes

end JsonApi
