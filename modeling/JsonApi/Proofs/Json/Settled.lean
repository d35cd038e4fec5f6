import JsonApi.Proofs.Double.Rounding
import JsonApi.Proofs.Json.Leaves
import JsonApi.Proofs.Json.Merged

/-!
# The values that reading can give

A value is settled when no object in it holds a name twice, no integer is past the limit and no
double is no number.

* `merged_of_settled` : nothing is left to merge in a settled value;
* `settled_of_ofText` : whatever is read without constants is settled.  The reader keeps the
  values in its open containers settled at every step (`State.settled_step`).
-/

namespace JsonApi

namespace Json

/-- The values that reading can give. -/
inductive Settled : Json → Prop
  | null : Settled .null
  | bool (b : Bool) : Settled (.bool b)
  | int {n : Int} (h : n.natAbs < 10 ^ digitLimit) : Settled (.int n)
  | float {x : Double} (h : x ≠ .nan) : Settled (.float x)
  | string (t : Text) : Settled (.string t)
  | array {vs : List Json} (h : ∀ v ∈ vs, Settled v) : Settled (.array vs)
  | object {ms : List (Text × Json)} (hnames : (Members.names ms).Nodup)
      (h : ∀ m ∈ ms, Settled m.2) : Settled (.object ms)

theorem settled_array_iff {vs : List Json} : (array vs).Settled ↔ ∀ v ∈ vs, v.Settled :=
  ⟨fun h => by cases h; assumption, .array⟩

theorem settled_object_iff {ms : List (Text × Json)} :
    (object ms).Settled ↔ (Members.names ms).Nodup ∧ ∀ m ∈ ms, m.2.Settled :=
  ⟨fun h => by cases h; exact ⟨‹_›, ‹_›⟩, fun h => .object h.1 h.2⟩

theorem Settled.distinct {v : Json} (h : v.Settled) : v.Distinct := by
  induction h with
  | null => exact .null
  | bool b => exact .bool b
  | int => exact .int _
  | float => exact .float _
  | string t => exact .string t
  | array _ ih => exact .array ih
  | object hnames _ ih => exact .object hnames ih

theorem merged_of_settled {v : Json} (h : v.Settled) : v.merged = v :=
  merged_of_distinct h.distinct

theorem settled_of_distinct {v : Json} (hv : v.Distinct) (hwritable : v.Writable) : v.Settled := by
  induction hv with
  | null => exact .null
  | bool b => exact .bool b
  | string t => exact .string t
  | int n => exact .int (writable_int.1 hwritable)
  | float x =>
    refine .float ?_
    rintro rfl
    exact absurd (writable_float.1 hwritable) Bool.false_ne_true
  | array _ ih =>
    exact .array fun v hv => ih v hv fun x hx => hwritable x (mem_leavesOfItems.2 ⟨v, hv, hx⟩)
  | object hnames _ ih =>
    exact .object hnames fun m hm =>
      ih m hm fun x hx => hwritable x (mem_leavesOfMembers.2 ⟨m, hm, .inr hx⟩)

/-! ### Numbers -/

theorem isDigit_of_mem_digits {t : Text} {c : Char} (h : c ∈ (digits t).1) : c.isDigit = true := by
  fun_induction digits t with
  | case1 d rest hd cs rest' hr ih =>
    simp only [List.mem_cons] at h
    rcases h with rfl | h
    · exact hd
    · exact ih (by simpa [hr] using h)
  | case2 => simp at h
  | case3 => simp at h

theorem isDigit_of_numeral {negative : Bool} {t rest : Text} {n : Numeral}
    (h : numeral negative t = .ok (.number n, rest)) : ∀ d ∈ n.whole, d.isDigit = true := by
  unfold numeral at h
  split at h
  · rename_i c r
    split at h
    · rename_i hc
      simp only [Except.ok.injEq, Prod.mk.injEq, Token.number.injEq] at h
      obtain ⟨rfl, -⟩ := h
      intro d hd
      simp only at hd
      split at hd
      · obtain rfl := List.mem_singleton.1 hd
        exact hc
      · rcases List.mem_cons.1 hd with rfl | hd
        · exact hc
        · exact isDigit_of_mem_digits hd
    · cases h
  · cases h

theorem number_ne_of_word {w : List Char} {token : Token} {t rest : Text} {n : Numeral}
    (h : wordToken w token t = .ok (.number n, rest)) : token = .number n := by
  unfold wordToken at h
  split at h <;> cases h
  rfl

theorem isDigit_of_scan {c : CodePoint} {t rest : Text} {n : Numeral}
    (h : scan c t = .ok (.number n, rest)) : ∀ d ∈ n.whole, d.isDigit = true := by
  unfold scan at h
  split at h
  case h_7 =>
    cases hs : stringRest (.scalar '"' :: t) t <;> simp [hs, Except.map] at h
  case h_13 =>
    split at h
    · cases h
    · exact isDigit_of_numeral h
  case h_14 => exact isDigit_of_numeral h
  all_goals first
    | cases h
    | cases number_ne_of_word h

theorem ofDigitChars_lt {ds : List Char} (h : ∀ c ∈ ds, c.isDigit = true) (init : Nat) :
    Nat.ofDigitChars 10 ds init < (init + 1) * 10 ^ ds.length := by
  induction ds generalizing init with
  | nil => simp
  | cons c ds ih =>
    have hc : c.toNat - 48 < 10 := by
      have hdigit := Char.isDigit_iff_toNat.1 (h c List.mem_cons_self)
      exact Nat.lt_of_le_of_lt (Nat.sub_le_sub_right hdigit.2 48) (by decide)
    rw [Nat.ofDigitChars_cons]
    refine Nat.lt_of_lt_of_le (ih (fun x hx => h x (List.mem_cons_of_mem _ hx)) _) ?_
    rw [List.length_cons, Nat.pow_succ, Nat.mul_comm (10 ^ ds.length), ← Nat.mul_assoc]
    refine Nat.mul_le_mul_right _ ?_
    change 10 * init + (c.toNat - 48) + 1 ≤ _
    omega

theorem settled_of_value {n : Numeral} {v : Json} (hd : ∀ c ∈ n.whole, c.isDigit = true)
    (h : n.value = .ok v) : v.Settled := by
  unfold Numeral.value at h
  split at h
  · split at h
    · cases h
    · rename_i hlen
      cases h
      refine .int ?_
      have hlt := ofDigitChars_lt hd 0
      have hpow := Nat.pow_le_pow_right (n := 10) (by decide) (Nat.not_lt.1 hlen)
      split <;> omega
  · cases h
    exact .float (Double.ofDecimal_ne_nan _ _ _)

/-! ### What is read is settled -/

/-- The values that an open container holds are settled. -/
def Frame.Settled : Frame → Prop
  | .array items => ∀ v ∈ items, v.Settled
  | .object members _ => ∀ m ∈ members, m.2.Settled

namespace State

/-- The values that a state holds are settled. -/
def Settled : State → Prop
  | .value outer | .firstItem outer | .firstName outer => ∀ f ∈ outer, f.Settled
  | .nextName members outer | .colon members _ outer | .afterMember members outer =>
    (∀ m ∈ members, m.2.Settled) ∧ ∀ f ∈ outer, f.Settled
  | .afterItem items outer => (∀ v ∈ items, v.Settled) ∧ ∀ f ∈ outer, f.Settled
  | .complete v => v.Settled

variable {s s' : State} {outer : List Frame}

theorem settled_deliver {v : Json} (hv : v.Settled) (ho : ∀ f ∈ outer, f.Settled) :
    (deliver v outer).Settled := by
  match outer with
  | [] => exact hv
  | .array items :: outer =>
    obtain ⟨hitems, ho⟩ := List.forall_mem_cons.1 ho
    exact ⟨List.forall_mem_cons.2 ⟨hv, hitems⟩, ho⟩
  | .object members name :: outer =>
    obtain ⟨hmembers, ho⟩ := List.forall_mem_cons.1 ho
    exact ⟨List.forall_mem_cons.2 ⟨hv, hmembers⟩, ho⟩

theorem settled_object {members : List (Text × Json)} (h : ∀ m ∈ members, m.2.Settled) :
    (Json.object (Members.ofPairs members.reverse)).Settled := by
  refine .object (Members.nodup_names_ofPairs _) fun m hm => ?_
  obtain ⟨p, hp, he⟩ := Members.exists_mem_of_mem_ofPairs hm
  exact he ▸ h p (List.mem_reverse.1 hp)

theorem settled_start {token : Token}
    (hd : ∀ n, token = .number n → ∀ c ∈ n.whole, c.isDigit = true)
    (ho : ∀ f ∈ outer, f.Settled) (h : start false outer token = .ok s') : s'.Settled := by
  unfold start at h
  split at h
  -- a number is settled because its digits are digits, and a bracket opens an empty container
  case h_6 n =>
    cases hv : n.value with
    | error e => simp [hv, Except.map] at h
    | ok v =>
      simp only [hv, Except.map, Except.ok.injEq] at h
      subst h
      exact settled_deliver (settled_of_value (hd n rfl) hv) ho
  case h_3 => cases h; exact settled_deliver .null ho
  case h_4 => cases h; exact settled_deliver (.bool _) ho
  case h_5 => cases h; exact settled_deliver (.string _) ho
  all_goals simp at h
  all_goals subst h; exact ho

/-- **A step keeps the values of a state settled.** -/
theorem settled_step {token : Token}
    (hd : ∀ n, token = .number n → ∀ c ∈ n.whole, c.isDigit = true)
    (hs : s.Settled) (h : step false s token = .ok s') : s'.Settled := by
  unfold step at h
  split at h
  · exact settled_start hd hs h
  · cases h; exact settled_deliver (.array (List.forall_mem_nil _)) hs
  · have hframe : Frame.Settled (.array []) := List.forall_mem_nil _
    exact settled_start hd (List.forall_mem_cons.2 ⟨hframe, hs⟩) h
  · cases h; exact settled_deliver (.object List.nodup_nil (List.forall_mem_nil _)) hs
  · cases h; exact ⟨List.forall_mem_nil _, hs⟩
  · cases h; exact hs
  · cases h; exact List.forall_mem_cons.2 hs
  · cases h; exact List.forall_mem_cons.2 hs
  · cases h; exact settled_deliver (.array fun v hv => hs.1 v (List.mem_reverse.1 hv)) hs.2
  · cases h; exact hs
  · cases h; exact settled_deliver (settled_object hs.1) hs.2
  · cases h

end State

theorem isDigit_of_mem_lexemes {t : Text} {l : Lexeme} {n : Numeral} (hl : l ∈ lexemes t)
    (h : l.token = .ok (.number n)) : ∀ c ∈ n.whole, c.isDigit = true := by
  fun_induction lexemes t with
  | case1 => simp at hl
  | case2 t c r hdrop e hs =>
    obtain rfl := List.mem_singleton.1 hl
    cases h
  | case3 t c r hdrop token rest hs hlt ih =>
    rcases List.mem_cons.1 hl with rfl | hl
    · cases h
      exact isDigit_of_scan hs
    · exact ih hl

/-- **A run ends in a settled value**, since it starts with none and every step keeps them so. -/
theorem State.settled_of_run {document : Text} {s : State} {ls : List Lexeme} {v : Json}
    (hd : ∀ l ∈ ls, ∀ n, l.token = .ok (.number n) → ∀ c ∈ n.whole, c.isDigit = true)
    (hs : s.Settled) (h : run false document s ls = .ok v) : v.Settled := by
  fun_induction run false document s ls with
  | case1 w =>
    cases h
    exact hs
  | case2 => cases h
  | case3 s front token rest s' hstep ih =>
    obtain ⟨hfirst, hrest⟩ := List.forall_mem_cons.1 hd
    exact ih hrest (settled_step (fun n hn => hfirst n (by rw [hn])) hs hstep) h
  | _ => cases h

theorem settled_of_ofText {t : Text} {v : Json} (h : ofText false t = .ok v) : v.Settled :=
  State.settled_of_run (fun _ hl _ hn => isDigit_of_mem_lexemes hl hn) (by simp [State.Settled]) h

end Json

end JsonApi
