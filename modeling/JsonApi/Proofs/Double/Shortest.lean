import JsonApi.Double.Shortest
import JsonApi.Proofs.Double.Rounding

/-!
# The shortest decimal reads back

`Units.shortest` tries the decimals of growing length and keeps the first one that rounds to the
given double; when none of them does it falls back on the exact decimal.  Dropping zeros at the
end of the coefficient changes nothing, so whichever decimal comes out rounds to the double it was
made from (`Units.ofDecimal_shortest`).
-/

namespace JsonApi

/-- The double that a decimal rounds to. -/
def Decimal.toDouble (negative : Bool) (d : Decimal) : Double :=
  .ofDecimal negative d.coefficient d.exponent

namespace Decimal

theorem toDouble_strip (negative : Bool) (fuel : Nat) (d : Decimal) :
    (strip fuel d).toDouble negative = d.toDouble negative := by
  induction fuel generalizing d with
  | zero => rfl
  | succ fuel ih =>
    obtain ⟨c, e⟩ := d
    simp only [strip]
    split_ifs with h
    · rw [ih]
      have hc : 10 * (c / 10) = c := Nat.mul_div_cancel' (Nat.dvd_of_mod_eq_zero h.2)
      have := Double.ofDecimal_ten_mul negative (c / 10) e
      rw [hc] at this
      exact this.symm
    · rfl

end Decimal

namespace Units

theorem readsBack_iff {units : Nat} {d : Decimal} :
    readsBack units d = true ↔ d.toDouble false = .ofUnits false units := beq_iff_eq

theorem readsBack_of_neighbour {units : Nat} {exponent : Int} {d : Decimal}
    (h : neighbour? units exponent = some d) : readsBack units d = true := by
  simp only [neighbour?] at h
  split at h
  · cases h
  · cases h; assumption
  · cases h; assumption
  · -- both neighbours read back, so whichever is picked does
    simp only [Option.some.injEq] at h
    split_ifs at h <;> subst h <;> assumption

theorem toDouble_shortest {units : Nat} (h : Representable units) :
    (shortest units).toDouble false = .finite false units h := by
  unfold shortest
  simp only
  split
  · -- a decimal that was kept has been tested
    rename_i d hd
    obtain ⟨e, -, he⟩ := List.exists_of_findSome?_eq_some hd
    rw [Decimal.toDouble_strip, readsBack_iff.1 (readsBack_of_neighbour he),
      Double.ofUnits_of_representable h]
  · exact Double.ofDecimal_exact false h

/-- **The shortest decimal of a double reads back as that double**, with either sign. -/
theorem ofDecimal_shortest {units : Nat} (h : Representable units) (negative : Bool) :
    Double.ofDecimal negative (shortest units).coefficient (shortest units).exponent =
      .finite negative units h := by
  have := congrArg (Double.withSign negative) (toDouble_shortest h)
  rwa [Decimal.toDouble, Double.withSign_ofDecimal] at this

theorem coefficient_shortest_ne_zero {units : Nat} (h : Representable units) (h₀ : units ≠ 0) :
    (shortest units).coefficient ≠ 0 := by
  intro hc
  have := ofDecimal_shortest h false
  rw [hc, Double.ofDecimal_zero] at this
  simp only [Double.finite.injEq, true_and] at this
  exact h₀ this.symm

end Units

end JsonApi
