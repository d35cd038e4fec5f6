import JsonApi.Validation
import Mathlib.Data.List.Forall2

/-!
# Results that may be errors

How the combinators of `Except` act on a result, and which results they give.  `FailsOnly` says of
a result that it is no error of other kinds than the given ones; it is decided step by step
(`failsOnly_bind_iff`).
-/

/-- A list is related to another one when each of its items is related to something. -/
theorem List.exists_forall₂_iff {α β : Type} {R : β → α → Prop} {as : List α} :
    (∃ bs, List.Forall₂ R bs as) ↔ ∀ a ∈ as, ∃ b, R b a := by
  induction as with
  | nil => simp
  | cons a as ih =>
    rw [List.forall_mem_cons, ← ih]
    constructor
    · rintro ⟨bs, h⟩
      obtain ⟨b, bs, hb, hbs, -⟩ := List.forall₂_cons_right_iff.1 h
      exact ⟨⟨b, hb⟩, bs, hbs⟩
    · rintro ⟨⟨b, hb⟩, bs, hbs⟩
      exact ⟨b :: bs, .cons hb hbs⟩

namespace Except

variable {ε ε' α β : Type}

@[simp] theorem ok_bind (a : α) (f : α → Except ε β) : ((.ok a : Except ε α) >>= f) = f a := rfl

@[simp] theorem error_bind (e : ε) (f : α → Except ε β) :
    ((.error e : Except ε α) >>= f) = .error e := rfl

@[simp] theorem ok_map (f : α → β) (a : α) : (.ok a : Except ε α).map f = .ok (f a) := rfl

@[simp] theorem error_map (f : α → β) (e : ε) : (.error e : Except ε α).map f = .error e := rfl

@[simp] theorem ok_mapError (f : ε → ε') (a : α) : (.ok a : Except ε α).mapError f = .ok a := rfl

@[simp] theorem error_mapError (f : ε → ε') (e : ε) :
    (.error e : Except ε α).mapError f = .error (f e) := rfl

theorem bind_eq_ok_iff {x : Except ε α} {f : α → Except ε β} {b : β} :
    (x >>= f) = .ok b ↔ ∃ a, x = .ok a ∧ f a = .ok b := by
  cases x <;> simp

theorem map_eq_ok_iff {x : Except ε α} {f : α → β} {b : β} :
    x.map f = .ok b ↔ ∃ a, x = .ok a ∧ f a = b := by
  cases x <;> simp

theorem exists_map_eq_ok_iff {x : Except ε α} {f : α → β} :
    (∃ b, x.map f = .ok b) ↔ ∃ a, x = .ok a := by
  cases x <;> simp

theorem mapError_eq_ok_iff {x : Except ε α} {f : ε → ε'} {a : α} :
    x.mapError f = .ok a ↔ x = .ok a := by
  cases x <;> simp

/-- A computation fails in its first step or in what follows it. -/
theorem bind_eq_error_iff {x : Except ε α} {f : α → Except ε β} {e : ε} :
    (x >>= f) = .error e ↔ x = .error e ∨ ∃ a, x = .ok a ∧ f a = .error e := by
  cases x <;> simp

theorem map_eq_error_iff {x : Except ε α} {f : α → β} {e : ε} :
    x.map f = .error e ↔ x = .error e := by
  cases x <;> simp

theorem mapError_eq_error_iff {x : Except ε α} {f : ε → ε'} {e : ε'} :
    x.mapError f = .error e ↔ ∃ e', x = .error e' ∧ f e' = e := by
  cases x <;> simp

/-- What goes on behind a guard goes on because the guard does not hold. -/
theorem of_guard_eq_ok {c : Prop} [Decidable c] {e : ε} {f : Unit → Except ε β} {b : β}
    (h : (if c then throw e >>= f else f ()) = .ok b) : ¬ c ∧ f () = .ok b := by
  split at h
  · cases h
  · exact ⟨‹_›, h⟩

theorem exists_mapError_eq_error_iff {x : Except ε α} {f : ε → ε'} :
    (∃ e, x.mapError f = .error e) ↔ ∃ e, x = .error e := by
  cases x <;> simp

theorem exists_of_isOk {x : Except ε α} (h : x.isOk = true) : ∃ a, x = .ok a := by
  cases x with
  | error e => cases h
  | ok a => exact ⟨a, rfl⟩

theorem toOption_eq_some_iff {x : Except ε α} {a : α} : x.toOption = some a ↔ x = .ok a := by
  cases x <;> simp [Except.toOption]

theorem exists_of_any {x : Except ε α} {p : α → Bool} (h : x.toOption.any p = true) :
    ∃ a, x = .ok a ∧ p a = true := by
  cases x with
  | error e => cases h
  | ok a => exact ⟨a, rfl, h⟩

theorem exists_ok_and {x : Except ε α} {p : α → Prop} (h : x.isOk = true)
    (hp : ∀ a, x = .ok a → p a) : ∃ a, x = .ok a ∧ p a := by
  obtain ⟨a, ha⟩ := exists_of_isOk h
  exact ⟨a, ha, hp a ha⟩

theorem mapM_eq_ok_iff {f : α → Except ε β} {as : List α} {bs : List β} :
    as.mapM f = .ok bs ↔ List.Forall₂ (fun b a => f a = .ok b) bs as := by
  induction as generalizing bs with
  | nil =>
    rw [List.mapM_nil, List.forall₂_nil_right_iff]
    exact ⟨fun h => (Except.ok.inj h).symm, fun h => h ▸ rfl⟩
  | cons a as ih =>
    rw [List.forall₂_cons_right_iff, List.mapM_cons]
    constructor
    · intro h
      obtain ⟨b, hb, h⟩ := bind_eq_ok_iff.1 h
      obtain ⟨cs, hcs, h⟩ := bind_eq_ok_iff.1 h
      exact ⟨b, cs, hb, ih.1 hcs, (Except.ok.inj h).symm⟩
    · rintro ⟨b, cs, hb, hcs, rfl⟩
      rw [hb, ok_bind, ih.2 hcs]
      rfl

theorem forM_eq_ok_iff {f : α → Except ε Unit} {as : List α} :
    as.forM f = .ok () ↔ ∀ a ∈ as, f a = .ok () := by
  induction as with
  | nil => exact iff_of_true rfl (List.forall_mem_nil _)
  | cons a as ih =>
    have hcons : (a :: as).forM f = (f a >>= fun _ => as.forM f) := rfl
    rw [List.forall_mem_cons, ← ih, hcons, bind_eq_ok_iff]
    exact ⟨fun ⟨_, h⟩ => h, fun h => ⟨(), h⟩⟩

theorem exists_mapM_eq_ok_iff {f : α → Except ε β} {as : List α} :
    (∃ bs, as.mapM f = .ok bs) ↔ ∀ a ∈ as, ∃ b, f a = .ok b := by
  simp only [mapM_eq_ok_iff, List.exists_forall₂_iff]

theorem exists_mem_of_mapM {f : α → Except ε β} {as : List α} {bs : List β}
    (h : as.mapM f = .ok bs) {b : β} (hb : b ∈ bs) : ∃ a ∈ as, f a = .ok b := by
  induction mapM_eq_ok_iff.1 h with
  | nil => cases hb
  | @cons b' a bs as hhead htail ih =>
    rcases List.mem_cons.1 hb with rfl | hb
    · exact ⟨a, List.mem_cons_self, hhead⟩
    · obtain ⟨a, ha, hfa⟩ := ih (mapM_eq_ok_iff.2 htail) hb
      exact ⟨a, List.mem_cons_of_mem _ ha, hfa⟩

theorem mapError_mapM (g : ε → ε') (f : α → Except ε β) (as : List α) :
    (as.mapM f).mapError g = as.mapM fun a => (f a).mapError g := by
  induction as with
  | nil => rfl
  | cons a as ih =>
    rw [List.mapM_cons, List.mapM_cons, ← ih]
    cases f a with
    | error e => rfl
    | ok b =>
      rw [ok_bind, ok_mapError, ok_bind]
      cases as.mapM f <;> rfl

/-- A traversal fails as the first item that fails. -/
theorem mapM_eq_error_iff {f : α → Except ε β} {as : List α} {e : ε} :
    as.mapM f = .error e ↔ ∃ before a after, as = before ++ a :: after ∧
      (∀ b ∈ before, ∃ c, f b = .ok c) ∧ f a = .error e := by
  constructor
  · intro h
    induction as with
    | nil => cases h
    | cons a as ih =>
      rw [List.mapM_cons] at h
      cases hb : f a with
      | error e' =>
        rw [hb] at h
        obtain rfl := Except.error.inj h
        exact ⟨[], a, as, rfl, List.forall_mem_nil _, hb⟩
      | ok b =>
        rw [hb, ok_bind] at h
        cases hbs : as.mapM f with
        | ok bs =>
          rw [hbs] at h
          cases h
        | error e' =>
          rw [hbs] at h
          obtain ⟨before, x, after, rfl, hbefore, hx⟩ := ih (hbs.trans h)
          exact ⟨a :: before, x, after, rfl, List.forall_mem_cons.2 ⟨⟨b, hb⟩, hbefore⟩, hx⟩
  · rintro ⟨before, a, after, rfl, hbefore, ha⟩
    obtain ⟨bs, hbs⟩ := exists_mapM_eq_ok_iff.2 hbefore
    rw [List.mapM_append, hbs, ok_bind, List.mapM_cons, ha]
    rfl

theorem exists_mapM_eq_error_iff {f : α → Except ε β} {as : List α} :
    (∃ e, as.mapM f = .error e) ↔ ∃ a ∈ as, ∃ e, f a = .error e := by
  constructor
  · rintro ⟨e, h⟩
    obtain ⟨before, a, after, rfl, -, ha⟩ := mapM_eq_error_iff.1 h
    exact ⟨a, List.mem_append_right _ List.mem_cons_self, e, ha⟩
  · rintro ⟨a, ha, e, he⟩
    cases h : as.mapM f with
    | error e => exact ⟨e, rfl⟩
    | ok bs =>
      obtain ⟨b, hb⟩ := exists_mapM_eq_ok_iff.1 ⟨bs, h⟩ a ha
      rw [he] at hb
      cases hb

/-- A traversal that has failed does not come to what follows. -/
theorem mapM_append_of_error {f : α → Except ε β} {as : List α} {e : ε} (h : as.mapM f = .error e)
    (bs : List α) : (as ++ bs).mapM f = .error e := by
  rw [List.mapM_append, h]
  rfl

/-! ### The errors a result can be -/

variable {p q : ε → Prop} {x : Except ε α}

/-- A result that is an error of a kind only, if it is an error at all. -/
def FailsOnly (p : ε → Prop) (x : Except ε α) : Prop := ∀ e, x = .error e → p e

@[simp] theorem failsOnly_ok (a : α) : (.ok a : Except ε α).FailsOnly p := nofun

@[simp] theorem failsOnly_error_iff {e : ε} : (.error e : Except ε α).FailsOnly p ↔ p e := by
  simp [FailsOnly]

instance [DecidablePred p] : Decidable (x.FailsOnly p) :=
  match x with
  | .ok a => isTrue (failsOnly_ok a)
  | .error e => decidable_of_iff (p e) failsOnly_error_iff.symm

theorem FailsOnly.mono (h : x.FailsOnly p) (hpq : ∀ e, p e → q e) : x.FailsOnly q :=
  fun e he => hpq e (h e he)

/-- A computation fails in a way only when its first step does and what follows does. -/
theorem failsOnly_bind_iff {f : α → Except ε β} :
    (x >>= f).FailsOnly p ↔ x.FailsOnly p ∧ ∀ a, x = .ok a → (f a).FailsOnly p := by
  cases x <;> simp

theorem FailsOnly.bind {f : α → Except ε β} (hx : x.FailsOnly p)
    (hf : ∀ a, x = .ok a → (f a).FailsOnly p) : (x >>= f).FailsOnly p :=
  failsOnly_bind_iff.2 ⟨hx, hf⟩

@[simp] theorem failsOnly_map_iff {f : α → β} : (x.map f).FailsOnly p ↔ x.FailsOnly p := by
  cases x <;> simp

theorem failsOnly_mapError_iff {p : ε' → Prop} {f : ε → ε'} :
    (x.mapError f).FailsOnly p ↔ x.FailsOnly fun e => p (f e) := by
  cases x <;> simp

/-- A result that cannot be an error of any kind is a value. -/
theorem failsOnly_false_iff : (x.FailsOnly fun _ => False) ↔ ∃ a, x = .ok a := by
  cases x <;> simp

theorem failsOnly_mapM {f : α → Except ε β} {as : List α} (h : ∀ a ∈ as, (f a).FailsOnly p) :
    (as.mapM f).FailsOnly p := by
  induction as with
  | nil => exact failsOnly_ok _
  | cons a as ih =>
    obtain ⟨ha, has⟩ := List.forall_mem_cons.1 h
    rw [List.mapM_cons, failsOnly_bind_iff]
    refine ⟨ha, fun b _ => ?_⟩
    rw [failsOnly_bind_iff]
    exact ⟨ih has, fun bs _ => failsOnly_ok _⟩

/-- A result that is a value of a kind, or an error of a kind. -/
def EndsIn (r : α → Prop) (p : ε → Prop) : Except ε α → Prop
  | .ok a => r a
  | .error e => p e

theorem EndsIn.bind {r : α → Prop} {s : β → Prop} {f : α → Except ε β} (h : x.EndsIn r p)
    (hf : ∀ a, r a → (f a).EndsIn s p) : (x >>= f).EndsIn s p := by
  cases x with
  | ok a => exact hf a h
  | error e => exact h

theorem EndsIn.map {r : α → Prop} {s : β → Prop} {f : α → β} (h : x.EndsIn r p)
    (hf : ∀ a, r a → s (f a)) : (x.map f).EndsIn s p := by
  cases x with
  | ok a => exact hf a h
  | error e => exact h

end Except

namespace JsonApi.Checked

variable {α β : Type} {x : Checked α}

theorem below_eq_ok_iff {step : Step} {a : α} : x.below step = .ok a ↔ x = .ok a :=
  Except.mapError_eq_ok_iff

theorem pair_eq_ok_iff {y : Checked β} {p : α × β} :
    x.pair y = .ok p ↔ x = .ok p.1 ∧ y = .ok p.2 := by
  cases x <;> cases y <;> simp [pair, Prod.ext_iff]

theorem all_eq_ok_iff {xs : List (Checked α)} {as : List α} :
    all xs = .ok as ↔ List.Forall₂ (fun a x => x = .ok a) as xs := by
  induction xs generalizing as with
  | nil =>
    rw [all, List.forall₂_nil_right_iff]
    exact ⟨fun h => (Except.ok.inj h).symm, fun h => h ▸ rfl⟩
  | cons x xs ih =>
    rw [all, Except.map_eq_ok_iff, List.forall₂_cons_right_iff]
    simp only [pair_eq_ok_iff, ih, Prod.exists]
    exact ⟨fun ⟨a, as', ⟨ha, has⟩, h⟩ => ⟨a, as', ha, has, h.symm⟩,
      fun ⟨a, as', ha, has, h⟩ => ⟨a, as', ⟨ha, has⟩, h.symm⟩⟩

end JsonApi.Checked
