import JsonApi.Error
import JsonApi.Proofs.Except

/-!
# Kinds of failures

An operation keeps to the terms of the API when no fault ends it.  `Failure.IsOf` says so, and of
which classes its errors are; the two halves are `Failure.IsReported` and `Failure.Within`, which
have different reasons.
-/

namespace JsonApi

namespace Failure

/-- The failure is reported in the terms of the API. -/
def IsReported : Failure → Prop
  | .api _ => True
  | .fault _ => False

instance : DecidablePred IsReported
  | .api _ => isTrue trivial
  | .fault _ => isFalse id

/-- The failure is of one of the classes, if it is an error of the API. -/
def Within (classes : List ErrorClass) : Failure → Prop
  | .api e => e.errorClass ∈ classes
  | .fault _ => True

/-- The failure is an error of the API, of one of the classes. -/
def IsOf (classes : List ErrorClass) : Failure → Prop
  | .api e => e.errorClass ∈ classes
  | .fault _ => False

theorem isOf_iff {classes : List ErrorClass} {f : Failure} :
    f.IsOf classes ↔ f.IsReported ∧ f.Within classes := by
  cases f <;> simp [IsOf, IsReported, Within]

theorem Within.mono {some more : List ErrorClass} (h : some ⊆ more) {f : Failure}
    (hf : f.Within some) : f.Within more := by
  cases f with
  | api e => exact h hf
  | fault f => trivial

theorem IsOf.mono {some more : List ErrorClass} (h : some ⊆ more) {f : Failure}
    (hf : f.IsOf some) : f.IsOf more := by
  cases f with
  | api e => exact h hf
  | fault f => exact hf

end Failure

variable {α β : Type} {x : Except Failure α} {classes : List ErrorClass} {c : ErrorClass}

/-- The result is an error of the API of a class. -/
def FailsAs (c : ErrorClass) (x : Except Failure α) : Prop :=
  ∃ e, x = .error (.api e) ∧ e.errorClass = c

theorem FailsAs.bind (h : FailsAs c x) (f : α → Except Failure β) : FailsAs c (x >>= f) := by
  obtain ⟨e, rfl, he⟩ := h
  exact ⟨e, rfl, he⟩

theorem FailsAs.map (h : FailsAs c x) (f : α → β) : FailsAs c (x.map f) := by
  obtain ⟨e, rfl, he⟩ := h
  exact ⟨e, rfl, he⟩

/-- What has no result fails, and in the only way it can. -/
theorem failsAs_of_failsOnly (h : x.FailsOnly (Failure.IsOf [c])) (hx : ¬ ∃ a, x = .ok a) :
    FailsAs c x := by
  cases x with
  | ok a => exact absurd ⟨a, rfl⟩ hx
  | error f =>
    have hf := h f rfl
    cases f with
    | api e => exact ⟨e, rfl, List.mem_singleton.1 hf⟩
    | fault f => exact hf.elim

theorem Except.exists_api_of {p : ApiError → Bool}
    (h : (match x with | .error (.api e) => p e | _ => false) = true) :
    ∃ e, x = .error (.api e) ∧ p e = true := by
  cases x with
  | ok a => exact absurd h Bool.false_ne_true
  | error f =>
    cases f with
    | api e => exact ⟨e, rfl, h⟩
    | fault f => exact absurd h Bool.false_ne_true

/-- A result whose errors are of certain classes in any case keeps to them unless there are
faults. -/
theorem Except.failsOnly_isOf_iff (h : x.FailsOnly (Failure.Within classes)) :
    x.FailsOnly (Failure.IsOf classes) ↔ x.FailsOnly Failure.IsReported := by
  constructor
  · exact fun hx => hx.mono fun f hf => (Failure.isOf_iff.1 hf).1
  · exact fun hx e he => Failure.isOf_iff.2 ⟨hx e he, h e he⟩

end JsonApi
