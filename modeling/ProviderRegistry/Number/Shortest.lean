import ProviderRegistry.Number.Binary64

/-!
The shortest decimal that reads back as a given number: for one digit, two digits and so on, the
two neighbours of the value on that decimal grid are tried, and the first grid with a neighbour
inside the interval of reals that round to the number wins; of two such neighbours, the nearer,
or the upper one when both are as near.
The text is positional, without an exponent, however large or small the number is.
-/

namespace ProviderRegistry.Binary64

structure Decimal where
  digits : Nat
  exponent : Int
  deriving DecidableEq, Repr

/-- The reals that round to a finite positive number, as multiples of a quarter unit. -/
structure Interval where
  low : Nat
  value : Nat
  high : Nat
  closed : Bool
  unit : Nat × Nat

def intervalOf (m : Nat) (e : Int) : Interval where
  low := if m = Nat.pow 2 52 ∧ e > minExponent then 4 * m - 1 else 4 * m - 2
  value := 4 * m
  high := 4 * m + 2
  closed := m % 2 == 0
  unit := power 2 (e - 2)

def Interval.holds (i : Interval) (d : Decimal) : Bool :=
  let ten := power 10 d.exponent
  let x := d.digits * ten.1 * i.unit.2
  let low := i.low * i.unit.1 * ten.2
  let high := i.high * i.unit.1 * ten.2
  if i.closed then low ≤ x && x ≤ high else low < x && x < high

def leadingExponent (num den : Nat) : Int :=
  if den ≤ num then (decimalLength (num / den) : Int) - 1
  else -(decimalLength ((den + num - 1) / num - 1) : Int)

/-- The neighbour of the value on the grid of a decimal exponent that lies in the interval. -/
def Interval.onGrid (i : Interval) (exponent : Int) : Option Decimal :=
  let ten := power 10 exponent
  let num := i.value * i.unit.1 * ten.2
  let den := i.unit.2 * ten.1
  let below : Decimal := ⟨num / den, exponent⟩
  let above : Decimal := ⟨num / den + 1, exponent⟩
  match i.holds below, i.holds above with
  | true, true => some (if 2 * (num % den) < den then below else above)
  | true, false => some below
  | false, true => some above
  | false, false => none

/-- The first hit among the grids of the exponent and of those below it. -/
def Interval.firstHit (i : Interval) : Nat → Int → Decimal
  | 0, exponent => ⟨0, exponent⟩
  | n + 1, exponent =>
    match i.onGrid exponent with
    | some d => d
    | none => firstHit i n (exponent - 1)

def Decimal.normal : Nat → Decimal → Decimal
  | 0, d => d
  | n + 1, d =>
    if d.digits ≠ 0 ∧ d.digits % 10 = 0 then normal n ⟨d.digits / 10, d.exponent + 1⟩ else d

/-- The shortest decimal of a finite positive number; 17 digits always suffice. -/
def shortest (m : Nat) (e : Int) : Decimal :=
  let unit := power 2 e
  let i := intervalOf m e
  Decimal.normal 20 (i.firstHit 17 (leadingExponent (m * unit.1) unit.2))

def zeros (n : Nat) : List Char := List.replicate n '0'

def Decimal.shown (d : Decimal) : String :=
  let ds := Nat.toDigits 10 d.digits
  if 0 ≤ d.exponent then String.ofList (ds ++ zeros d.exponent.toNat)
  else
    let places := (-d.exponent).toNat
    let padded := zeros (places + 1 - ds.length) ++ ds
    let whole := padded.length - places
    String.ofList (padded.take whole ++ '.' :: padded.drop whole)

def shown : Binary64 → String
  | nan => "NaN"
  | infinite negative => (if negative then "-" else "") ++ "inf"
  | finite negative m e =>
    (if negative then "-" else "") ++ if m = 0 then "0" else (shortest m e).shown

end ProviderRegistry.Binary64
