-- A finite float is an exact fraction. A float is taken apart here, so that its
-- decimal texts can be computed with natural numbers alone. A text has a fixed
-- count of decimal places: those of the exact value, where a half goes to the even
-- neighbour.

namespace Failover

/-! ## Powers of the two bases -/

def twoTo (n : Nat) : Nat := Nat.pow 2 n

def tenTo (n : Nat) : Nat := Nat.pow 10 n

/-! ## Floats as fractions -/

/-- The number `± mantissa * 2 ^ exponent`. -/
structure Binary where
  negative : Bool
  mantissa : Nat
  exponent : Int
  deriving Repr, DecidableEq

namespace Binary

/-- The parts of a finite float, and nothing for an infinite or undefined
one. -/
def ofFloat? (x : Float) : Option Binary :=
  let bits := x.toBits.toNat
  let negative := bits / twoTo 63 == 1
  let field : Nat := bits / twoTo 52 % twoTo 11
  let fraction : Nat := bits % twoTo 52
  if field == 2047 then none
  else if field == 0 then some ⟨negative, fraction, -1074⟩
  else some ⟨negative, fraction + twoTo 52, (field : Int) - 1075⟩

/-- The size of the number as a fraction of naturals. -/
def ratio (b : Binary) : Nat × Nat :=
  if b.exponent ≥ 0 then (b.mantissa * twoTo b.exponent.toNat, 1)
  else (b.mantissa, twoTo (-b.exponent).toNat)

end Binary

/-- The quotient to the nearest natural; a half goes to the even
neighbour. -/
def roundDiv (num den : Nat) : Nat :=
  let q := num / den
  let twice := 2 * (num % den)
  if twice < den then q
  else if den < twice then q + 1
  else if q % 2 == 0 then q else q + 1

end Failover

namespace Failover.Fixed

/-- A natural with at least `width` digits. -/
def padded (width n : Nat) : String :=
  let digits := toString n
  String.ofList (List.replicate (width - digits.length) '0') ++ digits

/-- The text of `n / 10 ^ places`. -/
def ofScaled (places n : Nat) : String :=
  if places == 0 then toString n
  else toString (n / tenTo places) ++ "." ++ padded places (n % tenTo places)

def render (places : Nat) (x : Float) : String :=
  match Binary.ofFloat? x with
  | some b =>
    let (num, den) := b.ratio
    (if b.negative then "-" else "") ++ ofScaled places (roundDiv (num * tenTo places) den)
  | none => if x.isNaN then "nan" else if x < 0 then "-inf" else "inf"

/-- Every measured number is reported with six places. -/
def report (x : Float) : String := render 6 x

end Failover.Fixed
