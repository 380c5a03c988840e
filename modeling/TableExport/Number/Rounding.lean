/-!
Rounding of a quotient of natural numbers to the nearest natural number. Ties go
to the even neighbour, so the error is half a unit at most.
-/

set_option autoImplicit false

namespace TableExport.Number

/-- The natural number nearest to a quotient; a tie goes to the even neighbour. -/
def roundedQuotient (numerator denominator : Nat) : Nat :=
  let quotient := numerator / denominator
  let remainder := numerator % denominator
  if 2 * remainder < denominator then quotient
  else if denominator < 2 * remainder then quotient + 1
  else if quotient % 2 = 0 then quotient else quotient + 1

/-- The rounded quotient is at most half a unit away from the quotient. -/
theorem roundedQuotient_near (numerator denominator : Nat) (positive : 0 < denominator) :
    2 * numerator ≤ (2 * roundedQuotient numerator denominator + 1) * denominator ∧
      2 * (roundedQuotient numerator denominator * denominator) ≤
        2 * numerator + denominator := by
  have whole := Nat.div_add_mod numerator denominator
  have small := Nat.mod_lt numerator positive
  have step : denominator * (numerator / denominator + 1) =
      denominator * (numerator / denominator) + denominator := Nat.mul_succ _ _
  unfold roundedQuotient
  simp only
  rw [Nat.mul_comm (_ + 1) denominator, Nat.mul_add, Nat.mul_left_comm,
    Nat.mul_comm _ denominator]
  split
  · omega
  · split
    · omega
    · split <;> omega

end TableExport.Number
