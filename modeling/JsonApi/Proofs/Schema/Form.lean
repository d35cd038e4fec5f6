import JsonApi.Proofs.Attributes.Kept
import JsonApi.Schema

/-!
# Forms of data

A `Form` gives data as values, and reads them back from JSON values into its schema.  Its laws say
that the draft of a value is its JSON value, and that the JSON value passes the schema unchanged.
Forms are composed like the data: `Form.list`, `Form.optional` and `Form.record` derive their laws
from those of their parts.

A form is `Faithful` when different data have different JSON values.
-/

namespace JsonApi

/-- A way to give data as values and to read them back from JSON values. -/
structure Form (α : Type) where
  schema : Schema
  value : α → Value
  json : α → Json
  drafted : ∀ a, Draft.ofValue (value a) = .ok (json a).toValue
  checked : ∀ a, schema.check (json a) = .ok (json a)
  distinct : ∀ a, (json a).Distinct

namespace Form

variable {α β : Type}

/-- Different data have different JSON values. -/
def Faithful (f : Form α) : Prop := Function.Injective f.json

/-- Texts. -/
def text : Form Text where
  schema := .text
  value := .text
  json := .string
  drafted _ := rfl
  checked _ := rfl
  distinct := .string

/-- Integers. -/
def integer : Form Int where
  schema := .integer
  value := .int
  json := .int
  drafted _ := rfl
  checked _ := rfl
  distinct := .int

theorem faithful_text : text.Faithful := fun _ _ => Json.string.inj

theorem faithful_integer : integer.Faithful := fun _ _ => Json.int.inj

/-- Data that are given as a part of them. -/
def comap (f : Form β) (g : α → β) : Form α where
  schema := f.schema
  value a := f.value (g a)
  json a := f.json (g a)
  drafted a := f.drafted (g a)
  checked a := f.checked (g a)
  distinct a := f.distinct (g a)

/-! ### Data that may be missing -/

/-- Data that may be missing, which is a null. -/
def optional (f : Form α) (hf : ∀ a, f.json a ≠ .null) : Form (Option α) where
  schema := .optional f.schema
  value a := a.elim .null f.value
  json a := a.elim .null f.json
  drafted
    | none => rfl
    | some a => f.drafted a
  checked
    | none => rfl
    | some a => by
      have hcheck : (Schema.optional f.schema).check (f.json a) = f.schema.check (f.json a) := by
        rw [Schema.check]
        exact hf a
      exact hcheck.trans (f.checked a)
  distinct
    | none => .null
    | some a => f.distinct a

theorem faithful_optional {f : Form α} (hf : ∀ a, f.json a ≠ .null) (h : f.Faithful) :
    (f.optional hf).Faithful := by
  rintro (_ | a) (_ | b) hab
  · rfl
  · exact absurd hab.symm (hf b)
  · exact absurd hab (hf a)
  · exact congrArg some (h hab)

/-! ### Lists -/

theorem ofItems_map (f : Form α) (as : List α) :
    Draft.ofItems (as.map f.value) = .ok (Json.itemsToValues (as.map f.json)) := by
  induction as with
  | nil => rfl
  | cons a as ih =>
    rw [List.map_cons, Draft.ofItems, f.drafted, ih]
    rfl

theorem checkItems_map (f : Form α) (as : List α) (n : Nat) :
    Checked.all (Schema.checkItems f.schema.check n (as.map f.json)) = .ok (as.map f.json) := by
  induction as generalizing n with
  | nil => rfl
  | cons a as ih =>
    rw [List.map_cons, Schema.checkItems, f.checked, Checked.all, ih]
    rfl

/-- Lists of data. -/
def list (f : Form α) : Form (List α) where
  schema := .list f.schema
  value as := .collection .list (as.map f.value)
  json as := .array (as.map f.json)
  drafted as := by
    rw [Draft.ofValue, f.ofItems_map]
    rfl
  checked as := by
    rw [Schema.check, f.checkItems_map]
    rfl
  distinct as := .array (List.forall_mem_map.2 fun a _ => f.distinct a)

theorem faithful_list {f : Form α} (h : f.Faithful) : f.list.Faithful :=
  fun _ _ hab => List.map_injective_iff.2 h (Json.array.inj hab)

/-! ### Records -/

/-- A field of a record: its name, perhaps a default, and the form of its data. -/
structure Field (α : Type) where
  name : Text
  otherwise : Option Json
  form : Form α

/-- The members that fields are written as. -/
def members (fields : List (Field α)) (a : α) : Members :=
  fields.map fun f => (f.name, f.form.json a)

theorem names_members (fields : List (Field α)) (a : α) :
    Members.names (members fields a) = fields.map Field.name := by
  rw [members, Members.names, List.map_map]
  rfl

theorem ofFields_members (a : α) (fields : List (Field α))
    (hnames : (fields.map Field.name).Nodup)
    (hkept : ∀ f ∈ fields, Draft.isBookkeeping f.name = false)
    (before : List (Value × Value))
    (hbefore : ∀ e ∈ before, ∀ f ∈ fields, e.1.same (.text f.name) = false) :
    Draft.ofFields before (fields.map fun f => (f.name, f.form.value a)) =
      .ok (before ++ Json.membersToEntries (members fields a)) := by
  induction fields generalizing before with
  | nil => rw [List.map_nil, Draft.ofFields, members, List.map_nil, Json.membersToEntries,
      List.append_nil]
  | cons f fields ih =>
    obtain ⟨hname, hnames⟩ := List.nodup_cons.1 hnames
    obtain ⟨hf, hkept⟩ := List.forall_mem_cons.1 hkept
    -- the name is none of those before it, so its draft gets a place at the end
    have hput : Entries.put Value.same (.text f.name) (f.form.json a).toValue before =
        before ++ [(.text f.name, (f.form.json a).toValue)] :=
      Entries.put_of_forall fun e he => hbefore e he f List.mem_cons_self
    have hnew : ∀ e ∈ before ++ [(Value.text f.name, (f.form.json a).toValue)],
        ∀ g ∈ fields, e.1.same (.text g.name) = false := by
      refine List.forall_mem_append.2 ⟨fun e he g hg => hbefore e he g (List.mem_cons_of_mem _ hg),
        List.forall_mem_singleton.2 fun g hg => Value.same_text_of_ne ?_⟩
      intro heq
      exact hname (heq ▸ List.mem_map_of_mem hg)
    rw [List.map_cons, Draft.ofFields, hf, if_neg Bool.false_ne_true, f.form.drafted,
      Except.ok_bind, hput, ih hnames hkept _ hnew, List.append_assoc]
    rfl

theorem checkFields_members (a : α) (fields : List (Field α)) (ms : Members)
    (h : ∀ f ∈ fields, Members.get? f.name ms = some (f.form.json a)) :
    Schema.checkFields (fields.map fun f => (f.name, f.form.schema, f.otherwise)) ms =
      .ok (members fields a) := by
  induction fields with
  | nil => rfl
  | cons f fields ih =>
    obtain ⟨hf, hfields⟩ := List.forall_mem_cons.1 h
    rw [List.map_cons, Schema.checkFields.eq_2 _ _ _ _ _ _ hf, f.form.checked, ih hfields]
    rfl

/-- Records, whose fields have different names that are no bookkeeping. -/
def record (kind : RecordKind) (name : Text) (fields : List (Field α))
    (hnames : (fields.map Field.name).Nodup)
    (hkept : ∀ f ∈ fields, Draft.isBookkeeping f.name = false) : Form α where
  schema := .record kind name (fields.map fun f => (f.name, f.form.schema, f.otherwise))
  value a := .record name (fields.map fun f => (f.name, f.form.value a))
  json a := .object (members fields a)
  drafted a := by
    rw [Draft.ofValue, ofFields_members a fields hnames hkept [] (List.forall_mem_nil _)]
    rfl
  checked a := by
    have hget : ∀ f ∈ fields, Members.get? f.name (members fields a) = some (f.form.json a) :=
      fun f hf => Members.get?_of_mem (names_members fields a ▸ hnames)
        (List.mem_map_of_mem (f := fun f => (f.name, f.form.json a)) hf)
    rw [Schema.check, checkFields_members a fields _ hget]
    rfl
  distinct a := .object (names_members fields a ▸ hnames)
    (List.forall_mem_map.2 fun f _ => f.form.distinct a)

theorem faithful_record {kind : RecordKind} {name : Text} {fields : List (Field α)}
    {hnames : (fields.map Field.name).Nodup}
    {hkept : ∀ f ∈ fields, Draft.isBookkeeping f.name = false}
    (h : ∀ a b, (∀ f ∈ fields, f.form.json a = f.form.json b) → a = b) :
    (record kind name fields hnames hkept).Faithful := by
  intro a b hab
  refine h a b fun f hf => ?_
  have hmap := List.map_inj_left.1 (Json.object.inj hab) f hf
  exact congrArg Prod.snd hmap

end Form

end JsonApi
