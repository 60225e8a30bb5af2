/-!
Binary floating-point numbers with 53 bits, by exact arithmetic on natural numbers. A decimal is
rounded to the nearest such number, a tie going to the even mantissa; one that is too large is
infinite, one that is too small is zero.
-/

namespace ProviderRegistry

/-- A finite number is its mantissa times two to its exponent, with the sign. -/
inductive Binary64
  | nan
  | infinite (negative : Bool)
  | finite (negative : Bool) (mantissa : Nat) (exponent : Int)
  deriving DecidableEq, Repr

namespace Binary64

/-- The quotient rounded to the nearest integer, a tie going to the even one. -/
def roundHalfEven (num den : Nat) : Nat :=
  let q := num / den
  let r := num % den
  if 2 * r < den then q else if den < 2 * r then q + 1 else q + q % 2

theorem roundHalfEven_exact (q den : Nat) (h : 0 < den) : roundHalfEven (q * den) den = q := by
  simp [roundHalfEven, Nat.mul_div_cancel _ h, h]

def power (base : Nat) (e : Int) : Nat × Nat :=
  if 0 ≤ e then (Nat.pow base e.toNat, 1) else (1, Nat.pow base (-e).toNat)

def minExponent : Int := -1074

/-- The exponent under which the quotient has a mantissa of 53 bits, or the least one. -/
def exponentFor (num den : Nat) : Int :=
  let guess := max ((num.log2 : Int) - den.log2 - 53) minExponent
  let unit := power 2 guess
  if num * unit.2 / (den * unit.1) < Nat.pow 2 53 then guess else guess + 1

/-- The number nearest to a positive quotient. -/
def ofRatio (negative : Bool) (num den : Nat) : Binary64 :=
  let e := exponentFor num den
  let unit := power 2 e
  let m := roundHalfEven (num * unit.2) (den * unit.1)
  let (m, e) := if m = Nat.pow 2 53 then (Nat.pow 2 52, e + 1) else (m, e)
  if e > 971 then infinite negative else finite negative m e

def decimalLength (n : Nat) : Nat := (Nat.toDigits 10 n).length

def ofDecimal (negative : Bool) (digits : Nat) (e : Int) : Binary64 :=
  let top := e + decimalLength digits
  if digits = 0 ∨ top < -330 then finite negative 0 minExponent
  else if top > 310 then infinite negative
  else
    let unit := power 10 e
    ofRatio negative (digits * unit.1) unit.2

end Binary64

end ProviderRegistry
