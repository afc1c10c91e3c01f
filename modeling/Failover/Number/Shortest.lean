import Failover.Number.Fixed

-- The shortest decimal text of a float: the fewest digits that read back as
-- the same float, and of those the digits nearest to its value.

namespace Failover.Shortest

/-- The number `digits * 10 ^ exponent`. -/
structure Digits where
  digits : Nat
  exponent : Int
  deriving Repr, DecidableEq

/-! ## The grid of decimals -/

/-- The fraction `num / den` times `10 ^ k`, again as a fraction. -/
def scale (num den : Nat) (k : Int) : Nat × Nat :=
  if k ≥ 0 then (num * tenTo k.toNat, den) else (num, den * tenTo (-k).toNat)

/-- The least `k` with `1 ≤ num * 10 ^ k / den`, counted up from `k`. -/
def leadingZeros (num den : Nat) : Nat → Nat → Nat
  | 0, k => k
  | fuel + 1, k => if den ≤ num * tenTo k then k else leadingZeros num den fuel (k + 1)

/-- The `e` with `10 ^ (e - 1) ≤ num / den < 10 ^ e`. No float is smaller
than `10 ^ -324`. -/
def magnitude (num den : Nat) : Int :=
  if den ≤ num then ((toString (num / den)).length : Int)
  else 1 - (leadingZeros num den 330 1 : Int)

/-! ## The numbers that read back as one float -/

/-- The mantissa `m` stands for every number between `low` and `high`
quarters of its unit, ends included when `m` is even. Below a power of two
the floats lie twice as close. -/
structure Neighbourhood where
  low : Nat
  high : Nat
  closed : Bool

def Neighbourhood.of (b : Binary) : Neighbourhood :=
  let narrow := b.mantissa == twoTo 52 && b.exponent > -1074
  { low := 4 * b.mantissa - (if narrow then 1 else 2)
    high := 4 * b.mantissa + 2
    closed := b.mantissa % 2 == 0 }

/-- Whether `d * 10 ^ e` lies in the neighbourhood of the float. -/
def readsBack (b : Binary) (d : Nat) (e : Int) : Bool :=
  let around := Neighbourhood.of b
  let unit := if b.exponent ≥ 2 then (twoTo (b.exponent - 2).toNat, 1) else (1, twoTo (2 - b.exponent).toNat)
  let (num, den) := scale d 1 e
  let mine := num * unit.2
  let lo := around.low * unit.1 * den
  let hi := around.high * unit.1 * den
  if around.closed then lo ≤ mine && mine ≤ hi else lo < mine && mine < hi

/-- The best hit on the grid of `count` digits: the two neighbours of the
value are tried, the nearer first. -/
def onGrid (b : Binary) (mag : Int) (count : Nat) : Option Digits :=
  let (num, den) := b.ratio
  let e := mag - count
  let (gridNum, gridDen) := scale num den (-e)
  let below := gridNum / gridDen
  let near := roundDiv gridNum gridDen
  let far := if near == below then below + 1 else below
  if readsBack b near e then some ⟨near, e⟩
  else if readsBack b far e then some ⟨far, e⟩
  else none

/-- Tries one digit, then two, and so on. Seventeen always suffice. -/
def search (b : Binary) (mag : Int) : Nat → Nat → Digits
  | 0, count => (onGrid b mag count).getD ⟨b.mantissa, 0⟩
  | fuel + 1, count =>
    match onGrid b mag count with
    | some d => d
    | none => search b mag fuel (count + 1)

/-- Drops zeros at the end of the digits. -/
def trim : Nat → Digits → Digits
  | 0, d => d
  | fuel + 1, d =>
    if d.digits != 0 && d.digits % 10 == 0 then trim fuel ⟨d.digits / 10, d.exponent + 1⟩ else d

def ofBinary (b : Binary) : Digits :=
  if b.mantissa == 0 then ⟨0, 0⟩
  else
    let (num, den) := b.ratio
    trim 17 (search b (magnitude num den) 16 1)

/-! ## Layout -/

/-- Digits are written out plainly while the point stands within sixteen
places after the first digit or five places before it. Beyond that one
digit stands before the point, and an exponent follows with its sign. -/
def layout (d : Digits) : String :=
  let text := toString d.digits
  let point := (text.length : Int) + d.exponent
  let zeros (n : Int) := String.ofList (List.replicate n.toNat '0')
  if d.digits == 0 then "0.0"
  else if 0 ≤ d.exponent && point ≤ 16 then text ++ zeros d.exponent ++ ".0"
  else if 0 < point && point ≤ 16 then
    String.ofList (text.toList.take point.toNat) ++ "." ++ String.ofList (text.toList.drop point.toNat)
  else if -5 < point && point ≤ 0 then "0." ++ zeros (-point) ++ text
  else
    let tail := String.ofList (text.toList.drop 1)
    let power := point - 1
    String.ofList (text.toList.take 1) ++ (if tail.isEmpty then "" else "." ++ tail) ++
      (if power < 0 then "e" else "e+") ++ toString power

/-- The shortest text of a finite float, and nothing for any other. -/
def render? (x : Float) : Option String :=
  (Binary.ofFloat? x).map fun b => (if b.negative then "-" else "") ++ layout (ofBinary b)

end Failover.Shortest
