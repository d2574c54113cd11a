/-!
# One decimal place

The decimal with one place that is nearest to a binary floating-point number. The number is taken
for exactly what it is, a whole number times a power of two, and a tie goes to the even neighbour.
-/

namespace DatagramMux.Tenths

/-- The whole number nearest to a quotient; a tie goes to the even one. -/
def nearestQuotient (numerator denominator : Nat) : Nat :=
  let quotient := numerator / denominator
  let twiceRest := 2 * (numerator % denominator)
  if twiceRest < denominator ∨ (twiceRest = denominator ∧ quotient % 2 = 0) then quotient
  else quotient + 1

/-- No whole number is nearer: the distance is at most one half. -/
theorem nearestQuotient_within_half (numerator denominator : Nat) (positive : 0 < denominator) :
    2 * numerator ≤ (2 * nearestQuotient numerator denominator + 1) * denominator ∧
      (2 * nearestQuotient numerator denominator) * denominator ≤
        2 * numerator + denominator := by
  have division := Nat.div_add_mod numerator denominator
  have small := Nat.mod_lt numerator positive
  have expanded (factor : Nat) :
      (2 * factor + 1) * denominator = 2 * (factor * denominator) + denominator ∧
        2 * factor * denominator = 2 * (factor * denominator) := by
    rw [Nat.add_mul, Nat.mul_assoc, Nat.one_mul]
    exact ⟨rfl, rfl⟩
  rw [(expanded _).1, (expanded _).2]
  rw [Nat.mul_comm denominator] at division
  unfold nearestQuotient
  simp only
  split
  · omega
  · rw [Nat.add_mul]
    omega

/-- A finite number that is not negative, as a whole number and the exponent of a power of two. -/
def parts (value : Float) : Nat × Int :=
  let bits := value.toBits
  let exponent := ((bits >>> 52) &&& 0x7ff).toNat
  let fraction := (bits &&& 0xfffffffffffff).toNat
  let significand := if exponent = 0 then fraction else fraction + 0x10000000000000
  (significand, (max exponent 1 : Int) - 1075)

/-- The number of tenths nearest to a finite number that is not negative. -/
def ofFloat (value : Float) : Nat :=
  let (significand, exponent) := parts value
  if 0 ≤ exponent then 10 * significand * Nat.pow 2 exponent.toNat
  else nearestQuotient (10 * significand) (Nat.pow 2 (-exponent).toNat)

/-- A number of tenths with its decimal point. -/
def text (tenths : Nat) : String := toString (tenths / 10) ++ "." ++ toString (tenths % 10)

end DatagramMux.Tenths
