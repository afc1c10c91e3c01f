-- The numbers that scores are made of. The formulas are written once, over
-- any scalar: machine floats when the program runs, exact rationals in the
-- theory.

namespace Failover

/-- The arithmetic a score needs. A scalar may have values that are not
numbers; every comparison with such a value is false. -/
class Scalar (α : Type) extends Add α, Sub α, Mul α, Div α, LT α, LE α, OfScientific α where
  ofInt : Int → α
  decidableLT : DecidableLT α
  decidableLE : DecidableLE α
  /-- Neither infinite nor undefined. -/
  isFinite : α → Bool

namespace Scalar

instance {α : Type} [Scalar α] : DecidableLT α := decidableLT
instance {α : Type} [Scalar α] : DecidableLE α := decidableLE

instance : Scalar Float where
  ofInt := Float.ofInt
  decidableLT := inferInstance
  decidableLE := inferInstance
  isFinite := Float.isFinite

instance : Scalar Rat where
  ofInt := Rat.ofInt
  decidableLT := inferInstance
  decidableLE := inferInstance
  isFinite := fun _ => true

variable {α : Type} [Scalar α]

def zero : α := ofInt 0

def one : α := ofInt 1

/-- The value itself when it is positive, and zero for every other value,
also for one that is not a number. -/
def positivePart (x : α) : α := if (zero : α) < x then x else zero

/-- The nearest point of the unit interval. A value that is not a number
stays as it is. -/
def clampUnit (x : α) : α :=
  if x < (zero : α) then zero else if (one : α) < x then one else x

def power (x : α) : Nat → α
  | 0 => one
  | n + 1 => power x n * x

/-- The sum of one or more scalars. No zero is added, so that a sum of
negative zeros stays one. -/
def sum (first : α) (rest : List α) : α := rest.foldl (· + ·) first

end Scalar

end Failover
