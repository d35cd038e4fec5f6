import JsonApi.Body
import JsonApi.Proofs.Encoding.Utf8
import JsonApi.Proofs.Failure

/-!
# Bodies that are read and closed

Handling a body goes step by step, also when a step fails; whatever steps were taken before are kept
in front.

* `Body.outcome_drain` : taking the bytes out of a body reads a source and then closes it, whatever
  comes of reading;
* `Body.failsOnly_read_iff` : a body that is of one kind throughout, and fails only as a device
  does, has bytes unless it holds text that has no form in UTF-8.
-/

namespace JsonApi

/-- Whether a part is text. -/
def Chunk.isText : Chunk → Bool
  | .bytes _ => false
  | .text _ => true

namespace Body

/-! ### Steps -/

namespace Handling

variable {α β : Type} {x : Handling α} {f : α → Handling β} {handler : JsonApi.Failure → Handling α}
  {a : α} {e : JsonApi.Failure} {before after last : List Event}

/-- No step is taken for a result. -/
theorem outcome_pure (a : α) (before : List Event) :
    (pure a : Handling α).outcome before = (.ok a, before ++ []) :=
  congrArg (Prod.mk _) (List.append_nil before).symm

theorem outcome_ofExcept (r : Except JsonApi.Failure α) (before : List Event) :
    outcome (MonadExcept.ofExcept r) before = (r, before) := by
  cases r <;> rfl

theorem outcome_bind_of_ok (h : x.outcome before = (.ok a, after)) :
    (x >>= f).outcome before = (f a).outcome after := by
  simp only [outcome, ExceptT.run_bind, StateT.run_bind] at h ⊢
  rw [h]
  rfl

/-- A failure leaves out all further steps. -/
theorem outcome_bind_of_error (h : x.outcome before = (.error e, after)) :
    (x >>= f).outcome before = (.error e, after) := by
  simp only [outcome, ExceptT.run_bind, StateT.run_bind] at h ⊢
  rw [h]
  rfl

theorem outcome_tryCatch_of_ok (h : x.outcome before = (.ok a, after)) :
    (tryCatch x handler).outcome before = (.ok a, after) := by
  simp only [outcome, ExceptT.run_tryCatch, StateT.run_bind] at h ⊢
  rw [h]
  rfl

theorem outcome_tryCatch_of_error (h : x.outcome before = (.error e, after)) :
    (tryCatch x handler).outcome before = (handler e).outcome after := by
  simp only [outcome, ExceptT.run_tryCatch, StateT.run_bind] at h ⊢
  rw [h]
  rfl

/-- Final steps are taken behind a result and behind a failure alike. -/
theorem outcome_finally {r : Except JsonApi.Failure α} {final : Handling Unit}
    (hx : x.outcome before = (r, after)) (hfinal : final.outcome after = (.ok (), last)) :
    Handling.outcome (tryFinally x final) before = (r, last) := by
  have hx : x before = (r, after) := hx
  have hfinal : final after = (.ok (), last) := hfinal
  cases r <;>
  · simp only [outcome, tryFinally, tryFinally', StateT.run, ExceptT.run, ExceptT.mk, bind,
      StateT.bind, Functor.map, ExceptT.map, hx, hfinal]
    rfl

end Handling

open Handling

/-- The steps by which a body is closed. -/
def closing : Body → List Event
  | .source s => if s.kind.closes then [.close] else []
  | _ => []

/-- The steps by which the bytes are taken out of a body. -/
def draining : Body → List Event
  | .source s => .read :: closing (.source s)
  | _ => []

theorem outcome_close (body : Body) (before : List Event) :
    body.close.outcome before = (.ok (), before ++ body.closing) := by
  cases body with
  | source s =>
    rw [close, closing]
    split_ifs
    · rfl
    · exact outcome_pure () before
  | _ => exact outcome_pure () before

theorem outcome_consume (s : Source) (before : List Event) :
    s.consume.outcome before = (s.content.mapError .fault, before ++ [.read]) :=
  (outcome_bind_of_ok rfl).trans (outcome_ofExcept _ _)

/-- **A source is read, and closed behind that**, whether reading it fails or not. -/
theorem outcome_drain_source (s : Source) (before : List Event) :
    (drain (.source s)).outcome before =
      (s.content.mapError (fun f => readFailure (.fault f)) >>= fun c =>
        (encodeChunk c).mapError .fault, before ++ draining (.source s)) := by
  have hconsumed := outcome_consume s before
  have hclosed := outcome_close (.source s) (before ++ [.read])
  rw [List.append_assoc] at hclosed
  rw [drain]
  cases hcontent : s.content with
  | ok c =>
    rw [hcontent] at hconsumed
    exact (outcome_bind_of_ok
      (outcome_finally (outcome_tryCatch_of_ok hconsumed) hclosed)).trans (outcome_ofExcept _ _)
  | error f =>
    rw [hcontent] at hconsumed
    exact outcome_bind_of_error (outcome_finally (outcome_tryCatch_of_error hconsumed) hclosed)

theorem read_text (t : Text) : read (.text t) = (encode t).mapError .fault :=
  congrArg Prod.fst (outcome_ofExcept _ [])

theorem read_source (s : Source) : read (.source s) =
    s.content.mapError (fun f => readFailure (.fault f)) >>= fun c =>
      (encodeChunk c).mapError .fault :=
  congrArg Prod.fst (outcome_drain_source s [])

/-- **The bytes are taken out of a body** by the same steps whatever comes of them, behind those
that were taken before. -/
theorem outcome_drain (body : Body) (before : List Event) :
    body.drain.outcome before = (body.read, before ++ body.draining) := by
  cases body with
  | absent => exact outcome_pure [] before
  | bytes bs => exact outcome_pure bs before
  | text t =>
    have hnone : before ++ draining (.text t) = before := List.append_nil before
    rw [read_text, hnone]
    exact outcome_ofExcept _ before
  | source s =>
    rw [read_source]
    exact outcome_drain_source s before

/-! ### Bodies that can be read -/

/-- The parts of a source are of its kind, and its failure is one of the device. -/
structure Source.Admitted (s : Source) : Prop where
  parts : ∀ c ∈ s.parts, c.isText = decide (s.kind = .textFile)
  failure : ∀ f, s.failure = some f → f.ofDevice = true

/-- The kinds of bodies that a document may come in: all, but sources only when they keep to their
kind. -/
def Admitted : Body → Prop
  | .source s => s.Admitted
  | _ => True

/-- All text of the body has a form in UTF-8.  What a source holds does not matter when it fails. -/
def Scalar : Body → Prop
  | .text t => t.isScalar = true
  | .source s => s.failure = none → ∀ t, Chunk.text t ∈ s.parts → t.isScalar = true
  | _ => True

variable {cs : List Chunk}

theorem exists_join (index : Nat) (h : ∀ c ∈ cs, c.isText = false) :
    ∃ bs, join index cs = .ok bs := by
  induction cs generalizing index with
  | nil => exact ⟨[], rfl⟩
  | cons c cs ih =>
    obtain ⟨hc, hcs⟩ := List.forall_mem_cons.1 h
    cases c with
    | text t => cases hc
    | bytes bs =>
      obtain ⟨rest, hrest⟩ := ih (index + 1) hcs
      exact ⟨bs ++ rest, by rw [join, hrest, Except.ok_map]⟩

theorem exists_joinText (index : Nat) (h : ∀ c ∈ cs, c.isText = true) :
    ∃ t, joinText index cs = .ok t ∧
      (t.isScalar = true ↔ ∀ t, Chunk.text t ∈ cs → t.isScalar = true) := by
  induction cs generalizing index with
  | nil => exact ⟨[], rfl, by simp [Text.isScalar]⟩
  | cons c cs ih =>
    obtain ⟨hc, hcs⟩ := List.forall_mem_cons.1 h
    cases c with
    | bytes bs => cases hc
    | text t =>
      obtain ⟨rest, hrest, hscalar⟩ := ih (index + 1) hcs
      refine ⟨t ++ rest, by rw [joinText, hrest, Except.ok_map], ?_⟩
      rw [Text.isScalar, List.all_append, Bool.and_eq_true]
      refine (and_congr_right fun _ => hscalar).trans ?_
      simp [Text.isScalar, or_imp, forall_and]

theorem exists_encode_iff {t : Text} : (∃ bs, encode t = .ok bs) ↔ t.isScalar = true := by
  simp [encode, Except.mapError_eq_ok_iff, Utf8.encode_eq_ok_iff]

theorem failsOnly_encode_iff {t : Text} :
    ((encode t).mapError Failure.fault).FailsOnly Failure.IsReported ↔ t.isScalar = true := by
  rw [Except.failsOnly_mapError_iff, ← exists_encode_iff]
  exact Except.failsOnly_false_iff

theorem within_readFailure (f : Fault) :
    (readFailure (.fault f)).Within [.internal] := by
  cases f with
  | body f =>
    rw [readFailure]
    split_ifs
    · exact List.mem_singleton_self _
    · trivial
  | _ => trivial

theorem failsOnly_read_within (body : Body) : body.read.FailsOnly (Failure.Within [.internal]) := by
  cases body with
  | absent | bytes => exact Except.failsOnly_ok _
  | text t =>
    rw [read_text]
    exact Except.failsOnly_mapError_iff.2 fun _ _ => trivial
  | source s =>
    rw [read_source]
    refine .bind (Except.failsOnly_mapError_iff.2 fun f _ => within_readFailure f) fun c _ => ?_
    exact Except.failsOnly_mapError_iff.2 fun _ _ => trivial

theorem failsOnly_read_source_iff {s : Source} (h : s.Admitted) :
    (read (.source s)).FailsOnly Failure.IsReported ↔ Scalar (.source s) := by
  rw [read_source]
  cases hf : s.failure with
  | some f =>
    have hcontent : s.content = .error (.body f) := by rw [Source.content, hf]
    simp [hcontent, readFailure, h.failure f hf, Failure.IsReported, Scalar, hf]
  | none =>
    simp only [Scalar, hf, forall_const]
    by_cases hkind : s.kind = .textFile
    · obtain ⟨t, ht, hscalar⟩ :=
        exists_joinText 0 fun c hc => (h.parts c hc).trans (by simp [hkind])
      have hcontent : s.content = .ok (.text t) := by
        simp only [Source.content, hf, hkind, ht, Except.ok_map]
      rw [hcontent, ← hscalar]
      exact failsOnly_encode_iff
    · have hbytes : ∀ c ∈ s.parts, c.isText = false :=
        fun c hc => (h.parts c hc).trans (by simp [hkind])
      obtain ⟨bs, hbs⟩ := exists_join 0 hbytes
      have hcontent : s.content = .ok (.bytes bs) := by
        rw [Source.content, hf]
        cases hk : s.kind <;> simp_all
      rw [hcontent]
      refine iff_of_true (Except.failsOnly_ok bs) fun t ht => ?_
      exact absurd (hbytes _ ht) (by simp [Chunk.isText])

/-- Reading an admitted body ends in the terms of the API unless its text has no UTF-8 form. -/
theorem failsOnly_read_iff {body : Body} (h : body.Admitted) :
    body.read.FailsOnly Failure.IsReported ↔ body.Scalar := by
  cases body with
  | absent | bytes => exact iff_of_true (Except.failsOnly_ok _) trivial
  | text t =>
    rw [read_text]
    exact failsOnly_encode_iff
  | source s => exact failsOnly_read_source_iff h

end Body

end JsonApi
