import JsonApi.Proofs.Attributes.Canonical
import JsonApi.Proofs.Attributes.Refusal
import JsonApi.Proofs.Schema
import JsonApi.Proofs.Schema.Target

/-!
# Attributes are read back

Data that a resource is built from are read back into their own form, whatever the form.

* `Form.exists_attributes` : the attributes of data spell their JSON value;
* `Resource.unmarshal_form` : so they are read back when that value is not nested too deep;
* `Resource.attributes_of_readSingle` : a document keeps what attributes spell, unless it is null;
* `Resource.unmarshal_gives_back` : all of this for records and lists.
-/

namespace JsonApi

/-! ### The attributes of data -/

namespace Form

variable {α : Type} {f : Form α} {u : α}

/-- The attributes of data spell their JSON value, and are written from it. -/
theorem exists_attributes (hvalue : (f.value u).isPayload = false) {as : Option Attributes}
    (h : Attributes.ofValue (f.value u) = .ok as) :
    ∃ a, as = some a ∧ a.value = f.json u ∧ (f.json u).toBytes .compact = .ok a.bytes := by
  rw [Attributes.ofValue_of_isPayload hvalue, f.drafted, Except.ok_bind, Draft.settle_toValue] at h
  obtain ⟨v, hv, h⟩ := Except.bind_eq_ok_iff.1 h
  obtain ⟨a, ha, h⟩ := Except.bind_eq_ok_iff.1 h
  obtain rfl := Except.ok.inj h
  obtain ⟨hwritable, rfl⟩ := Draft.guarded_eq_ok_iff.1 hv
  have hbytes := Attributes.toBytes_of_ofJson (Except.mapError_eq_ok_iff.1 ha)
  have hsettled := Json.settled_of_distinct (f.distinct u) (Json.unwritable_eq_none_iff.1 hwritable)
  exact ⟨a, rfl, Attributes.value_of_toBytes hsettled hbytes, hbytes⟩

/-- Data whose JSON value has bytes have attributes. -/
theorem exists_ofValue (hvalue : (f.value u).isPayload = false) (h : (f.json u).Encodable) :
    ∃ a, Attributes.ofValue (f.value u) = .ok (some a) := by
  obtain ⟨bs, hbs⟩ := (Json.exists_toBytes_iff Json.Layout.standard_compact).2 h
  have hsettled := Json.settled_of_distinct (f.distinct u) h.1
  obtain ⟨a, ha, -⟩ := Attributes.ofJson_of_toBytes hsettled hbs
  refine ⟨a, ?_⟩
  rw [Attributes.ofValue_of_isPayload hvalue, f.drafted, Except.ok_bind, Draft.settle_toValue,
    Json.unwritable_eq_none_iff.2 h.1, Draft.guarded, Except.ok_bind, ha]
  rfl

end Form

namespace Resource

theorem attributes_of_newOf {type id : Text} {relationships : Option Relationships} {v : Value}
    {r : Resource} (h : newOf type id relationships v = .ok r) :
    Attributes.ofValue v = .ok r.attributes :=
  attributes_of_ofFields (ofFields_of_new h)

/-- **Data are read back** into their own form exactly when their JSON value is readable. -/
theorem unmarshal_form {α : Type} {f : Form α} {u : α} (hvalue : (f.value u).isPayload = false)
    {type id : Text} {relationships : Option Relationships} {r : Resource}
    (h : newOf type id relationships (f.value u) = .ok r) {w : Json} :
    r.unmarshal f.schema = .ok w ↔ (f.json u).Readable ∧ w = f.json u := by
  obtain ⟨a, ha, hspelled, hbytes⟩ := f.exists_attributes hvalue (attributes_of_newOf h)
  rw [unmarshal_eq_ok_iff ha hbytes, hspelled, f.checked, Except.ok.injEq, eq_comm (a := w)]

/-! ### Documents -/

variable {r r' : Resource} {a : Attributes}

/-- **A document keeps what attributes spell**, unless they are a null, which is no attributes. -/
theorem attributes_of_readSingle {method : Text} {settings : Except ValidationError Settings}
    {headers : GivenHeaders} {indent : Option Int} {bs : Bytes}
    (hbs : Document.render indent (Document.single r) = .ok bs)
    (hread : (Document.readSingle method settings headers (.bytes bs)).result = .ok r')
    (ha : r.attributes = some a) :
    (a.value = .null → r'.attributes = none) ∧
      (a.value ≠ .null → ∃ b, r'.attributes = some b ∧ b.value = a.value ∧
        a.value.toBytes .compact = .ok b.bytes) := by
  obtain ⟨hheaders, -⟩ := Document.spells_of_readSingle hread
  have hdocument := Json.ofBytes_toBytes (Json.Layout.standard_ofIndent indent) hbs
  rw [Json.merged_of_settled (Document.settled_single r)] at hdocument
  rw [Document.result_readSingle hheaders method hdocument rfl, Except.mapError_eq_ok_iff] at hread
  -- the reader makes the same checks on the wire form as the validator on the resource
  cases hvalid : r.validate method with
  | error v =>
    rw [ofPrimary_toJson_of_error hvalid] at hread
    cases hread
  | ok valid =>
    obtain ⟨as, has, hprimary⟩ := exists_ofPrimary_toJson hvalid
    obtain rfl := Except.ok.inj (hprimary.symm.trans hread)
    rw [ha, Option.map_some] at has
    generalize hvalue : some a.value = spelled at has
    cases has with
    | absent => cases hvalue
    | null => exact ⟨fun _ => rfl, fun hne => absurd (Option.some.inj hvalue) hne⟩
    | value hne h =>
      obtain rfl := Option.some.inj hvalue
      exact ⟨fun hnull => absurd hnull hne,
        fun _ => ⟨_, rfl, Attributes.value_of_toBytes a.settled_value h, h⟩⟩

/-- **What was read into a schema is read again** behind a document, whatever the schema. -/
theorem unmarshal_of_readSingle {method : Text} {settings : Except ValidationError Settings}
    {headers : GivenHeaders} {indent : Option Int} {bs : Bytes} {s : Schema} {w : Json}
    (hbs : Document.render indent (Document.single r) = .ok bs)
    (hread : (Document.readSingle method settings headers (.bytes bs)).result = .ok r')
    (ha : r.attributes = some a) (hnull : a.value ≠ .null) (h : r.unmarshal s = .ok w) :
    r'.unmarshal s = .ok w := by
  obtain ⟨b, hb, hvalue, hbytes⟩ := (attributes_of_readSingle hbs hread ha).2 hnull
  -- the document is written from the merged value, which is no deeper and has no other leaves than
  -- the value that the attributes were written from
  obtain ⟨v, hv⟩ := a.written
  obtain ⟨hreadable, hcheck⟩ := (unmarshal_eq_ok_iff ha hv).1 h
  have hmerged := Json.ofBytes_toBytes Json.Layout.standard_compact hv
  rw [a.spelled] at hmerged
  rw [unmarshal_eq_ok_iff hb hbytes, hvalue, Except.ok.inj hmerged]
  exact ⟨hreadable.merged, Except.ok.inj hmerged ▸ hcheck⟩

/-- Attributes pass unchanged when any value will do, if what they were written from is readable. -/
theorem unmarshal_any (ha : r.attributes = some a) :
    ∃ v : Json, v.toBytes .compact = .ok a.bytes ∧ v.merged = a.value ∧
      ∀ w, r.unmarshal .any = .ok w ↔ v.Readable ∧ w = a.value := by
  obtain ⟨v, hv⟩ := a.written
  have hmerged := Json.ofBytes_toBytes Json.Layout.standard_compact hv
  rw [a.spelled] at hmerged
  refine ⟨v, hv, (Except.ok.inj hmerged).symm, fun w => ?_⟩
  rw [unmarshal_eq_ok_iff ha hv, Schema.check, Except.ok.injEq, eq_comm (a := w)]

/-- **Unmarshalling gives back** what a resource was built from.  A record or a list is read back as
it was; the attributes of any resource are read back as they stand in its wire form exactly when
what they were written from is readable; everything else is an internal error about the attributes.
Behind a document, what was read is read again, unless the attributes are a null, which are then
gone. -/
theorem unmarshal_gives_back :
    (∀ t : Target, t.form.Faithful) ∧
    (∀ (t : Target) (u : t.Data) (type id : Text) (relationships : Option Relationships),
      ((t.form.json u).Encodable →
        ∃ r, newOf type id relationships (t.form.value u) = .ok r) ∧
      ∀ r, newOf type id relationships (t.form.value u) = .ok r →
        r.unmarshal t.schema = .ok (t.form.json u)) ∧
    (∀ (r : Resource) (a : Attributes), r.attributes = some a →
      Members.get? "attributes" r.members = some a.value ∧
        ∃ v : Json, v.toBytes .compact = .ok a.bytes ∧ v.merged = a.value ∧
          ∀ w, r.unmarshal .any = .ok w ↔ v.Readable ∧ w = a.value) ∧
    (∀ (r : Resource) (s : Schema), (r.unmarshal s).FailsOnly BlamesAttributes) ∧
    ∀ (r : Resource) (a : Attributes) (method : Text) (settings : Except ValidationError Settings)
        (headers : GivenHeaders) (indent : Option Int) (bs : Bytes) (r' : Resource),
      r.attributes = some a → Document.render indent (Document.single r) = .ok bs →
      (Document.readSingle method settings headers (.bytes bs)).result = .ok r' →
        (a.value = .null → r'.attributes = none) ∧
          (a.value ≠ .null → ∀ s w, r.unmarshal s = .ok w → r'.unmarshal s = .ok w) := by
  refine ⟨Target.faithful, fun t u type id relationships => ⟨fun h => ?_, fun r h => ?_⟩,
    fun r a ha => ⟨?_, unmarshal_any ha⟩, failsOnly_unmarshal,
    fun r a method settings headers indent bs r' ha hbs hread => ⟨?_, fun hnull s w => ?_⟩⟩
  · obtain ⟨a, ha⟩ := Form.exists_ofValue (t.isPayload_value u) h
    exact ⟨_, newOf_of_ok ha⟩
  · have hreadable : (t.form.json u).Readable := Nat.le_trans (t.depth_le u) (by decide)
    rw [← t.schema_form, unmarshal_form (t.isPayload_value u) h]
    exact ⟨hreadable, rfl⟩
  · rw [get_attributes_members, ha]
    rfl
  · exact (attributes_of_readSingle hbs hread ha).1
  · exact unmarshal_of_readSingle hbs hread ha hnull

/-- A user whose age is negative. -/
def unborn : User := ⟨"Ann", -7⟩

/-- Such a user is read back, also from a document. -/
theorem unmarshal_unborn :
    ∃ r, newOf "user" "1" none (Form.user.value unborn) = .ok r ∧
      r.unmarshal .user = .ok (Form.user.json unborn) ∧
      ∃ a bs r', r.attributes = some a ∧ Document.render none (Document.single r) = .ok bs ∧
        (Document.readSingle "PATCH" (.ok .default)
          [(.text "Content-Type", .text "application/vnd.api+json")] (.bytes bs)).result = .ok r' ∧
        r'.unmarshal .user = .ok (Form.user.json unborn) := by
  have hvalue := Target.user.isPayload_value unborn
  obtain ⟨r, hr, hround⟩ := Except.exists_of_any
    (x := newOf "user" "1" none (Form.user.value unborn))
    (p := fun r => (Document.render none (Document.single r)).toOption.any fun bs =>
      (Document.readSingle "PATCH" (.ok .default)
        [(.text "Content-Type", .text "application/vnd.api+json")] (.bytes bs)).result.isOk)
    (by decide +kernel)
  obtain ⟨bs, hbs, hread⟩ := Except.exists_of_any hround
  obtain ⟨r', hr'⟩ := Except.exists_of_isOk hread
  obtain ⟨a, ha, hspelled, -⟩ := Form.exists_attributes hvalue (attributes_of_newOf hr)
  obtain ⟨-, hnew, -, -, hdocument⟩ := unmarshal_gives_back
  have hback : r.unmarshal .user = .ok (Form.user.json unborn) :=
    (hnew .user unborn "user" "1" none).2 r hr
  have hnull : a.value ≠ .null := by
    rw [hspelled]
    exact nofun
  exact ⟨r, hr, hback, a, bs, r', ha, hbs, hr',
    (hdocument r a "PATCH" _ _ none bs r' ha hbs hr').2 hnull _ _ hback⟩

/-- An array in an array, and so on; only the innermost one is empty. -/
def nested : Nat → Json
  | 0 => .array []
  | n + 1 => .array [nested n]

theorem depth_nested (n : Nat) : (nested n).depth = n := by
  induction n with
  | zero => rfl
  | succ n ih =>
    have hdepth : (nested (n + 1)).depth = max ((nested n).depth + 1) 0 := rfl
    rw [hdepth, ih, Nat.max_zero]

theorem settled_nested (n : Nat) : (nested n).Settled := by
  induction n with
  | zero => exact .array (List.forall_mem_nil _)
  | succ n ih => exact .array (List.forall_mem_singleton.2 ih)

theorem encodable_nested (n : Nat) : (nested n).Encodable := by
  induction n with
  | zero => exact Json.encodable_array.2 (List.forall_mem_nil _)
  | succ n ih => exact Json.encodable_array.2 (List.forall_mem_singleton.2 ih)

/-- Attributes in more containers than the limit are not read back, and attributes that are a null
are gone behind a document. -/
theorem not_gives_back :
    (∃ a, Attributes.ofJson (nested (Schema.depthLimit + 1)) = .ok a ∧
      ∀ w, unmarshal .any ⟨"user", "1", some a, none⟩ ≠ .ok w) ∧
    ∃ a bs r', Attributes.ofJson .null = .ok a ∧
      unmarshal .any ⟨"user", "1", some a, none⟩ = .ok .null ∧
      Document.render none (Document.single ⟨"user", "1", some a, none⟩) = .ok bs ∧
      (Document.readSingle "PATCH" (.ok .default)
        [(.text "Content-Type", .text "application/vnd.api+json")] (.bytes bs)).result = .ok r' ∧
      ∀ w, r'.unmarshal .any ≠ .ok w := by
  refine ⟨?_, ?_⟩
  · obtain ⟨bs, hbs⟩ := (Json.exists_toBytes_iff Json.Layout.standard_compact).2
      (encodable_nested (Schema.depthLimit + 1))
    obtain ⟨a, ha, rfl, -⟩ := Attributes.ofJson_of_toBytes (settled_nested _) hbs
    refine ⟨a, ha, fun w hw => ?_⟩
    have hdepth : (nested (Schema.depthLimit + 1)).depth ≤ Schema.depthLimit :=
      ((unmarshal_eq_ok_iff rfl hbs).1 hw).1
    rw [depth_nested] at hdepth
    exact Nat.not_succ_le_self _ hdepth
  · obtain ⟨a, ha, hround⟩ := Except.exists_of_any (x := Attributes.ofJson .null)
      (p := fun a =>
        (Document.render none (Document.single ⟨"user", "1", some a, none⟩)).toOption.any fun bs =>
          (Document.readSingle "PATCH" (.ok .default)
            [(.text "Content-Type", .text "application/vnd.api+json")] (.bytes bs)).result.isOk)
      (by decide +kernel)
    obtain ⟨bs, hbs, hread⟩ := Except.exists_of_any hround
    obtain ⟨r', hr'⟩ := Except.exists_of_isOk hread
    have hbytes := Attributes.toBytes_of_ofJson ha
    have hnull := Attributes.value_of_toBytes .null hbytes
    have hnone := (attributes_of_readSingle hbs hr' rfl).1 hnull
    refine ⟨a, bs, r', ha, ?_, hbs, hr', fun w hw => ?_⟩
    · have hreadable : Json.null.Readable := Nat.zero_le _
      exact (unmarshal_eq_ok_iff rfl hbytes).2 ⟨hreadable, congrArg Except.ok hnull⟩
    · rw [unmarshal, hnone] at hw
      cases hw

end Resource

end JsonApi
