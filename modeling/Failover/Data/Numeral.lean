import Failover.Data.Basic
import Failover.Number.Fixed

-- Numbers as a document writes them, and the values they stand for.

namespace Failover

/-- A decimal number as written: sign, digits before and after the point,
and the digits of the exponent. -/
structure Numeral where
  negative : Bool
  whole : List Char
  fraction : Option (List Char)
  exponent : Option (Bool × List Char)

namespace Numeral

def digit (c : Char) : Nat := c.toNat - '0'.toNat

def natOf (digits : List Char) : Nat := digits.foldl (fun n c => n * 10 + digit c) 0

/-! ## Integers -/

/-- An integer has neither point nor exponent and fits 64 bits, with or
without a sign. A negative zero is no integer. -/
def int? (n : Numeral) : Option Int :=
  if n.fraction.isSome || n.exponent.isSome then none
  else
    let size := natOf n.whole
    if n.negative then (if 0 < size && size ≤ twoTo 63 then some (-(size : Int)) else none)
    else if size < twoTo 64 then some (size : Int) else none

/-! ## Floats from a 64-bit significand -/

/-- The leading digits that fit 64 bits, and how many are left over. -/
def leading : Nat → List Char → Nat × Nat
  | significand, [] => (significand, 0)
  | significand, c :: rest =>
    let next := significand * 10 + digit c
    if twoTo 64 ≤ next then (significand, rest.length + 1) else leading next rest

/-- Goes on with the digits after the point. Digits that no longer fit are
dropped, and each one that fits lowers the exponent. -/
def following : Nat → Int → List Char → Nat × Int
  | significand, exponent, [] => (significand, exponent)
  | significand, exponent, c :: rest =>
    let next := significand * 10 + digit c
    if twoTo 64 ≤ next then (significand, exponent) else following next (exponent - 1) rest

def powerOfTen (k : Nat) : Float := Float.ofScientific 1 false k

/-- The significand times a power of ten, by one multiplication or
division. Powers beyond the range of floats are taken in steps. -/
def scaled : Nat → Float → Int → Option Float
  | 0, _, _ => some 0.0
  | fuel + 1, f, exponent =>
    if exponent.natAbs ≤ 308 then
      if exponent ≥ 0 then
        let r := f * powerOfTen exponent.natAbs
        if r.isFinite then some r else none
      else some (f / powerOfTen exponent.natAbs)
    else if f == 0.0 then some f
    else if exponent ≥ 0 then none
    else scaled fuel (f / powerOfTen 308) (exponent + 308)

/-- The largest exponent that is taken as written. -/
def exponentLimit : Nat := twoTo 31

/-- The float of a numeral, unless it is beyond the range of floats. -/
def float? (n : Numeral) : Option Float :=
  let (high, skipped) := leading 0 n.whole
  let (significand, places) := following high (skipped : Int) (n.fraction.getD [])
  let size :=
    match n.exponent with
    | none => scaled 4 (Float.ofNat significand) places
    | some (negative, digits) =>
      let e := natOf digits
      if exponentLimit ≤ e then
        (if significand != 0 && !negative then none else some 0.0)
      else scaled 4 (Float.ofNat significand) (if negative then places - e else places + e)
  size.map fun f => if n.negative then -f else f

/-- Integers stay integers; every other number is a float. -/
def toData (n : Numeral) : Data :=
  match n.int? with
  | some i => .int i
  | none =>
    match n.float? with
    | some f => .float f
    | none => .unfit

/-! ## Floats to the nearest -/

/-- The nearest float, unless it is beyond the range of floats. -/
def nearestFloat? (n : Numeral) : Option Float :=
  let digits := n.whole ++ n.fraction.getD []
  let significand := natOf digits
  let shift : Int := -((n.fraction.getD []).length : Int)
  let exponent : Int :=
    match n.exponent with
    | none => shift
    | some (negative, ds) => if negative then shift - natOf ds else shift + natOf ds
  let size : Float :=
    if significand == 0 then 0.0
    else if exponent + digits.length < -400 then 0.0
    else if 400 < exponent + digits.length && 400 < exponent then 1.0 / 0.0
    else if exponent ≥ 0 then Float.ofScientific significand false exponent.toNat
    else Float.ofScientific significand true (-exponent).toNat
  if size.isFinite then some (if n.negative then -size else size) else none

end Numeral

end Failover
