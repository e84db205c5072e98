import Conform.Number.Binary64

/-!
# Numbers to the base of sixty

A numeral such as `1:30` counts in sixties, the way hours, minutes and seconds do. Its parts are
given from the most significant on, and each may have a sign of its own. Where the parts are
floating-point numbers, each product and each sum is rounded, starting from the least significant
part.
-/

namespace Conform

/-- The number that integer parts spell. -/
def sexagesimal (parts : List Int) : Int := parts.foldl (fun n part => 60 * n + part) 0

namespace Binary64

/-- A finite number as a ratio of an integer and a natural number. -/
def ratio? : Binary64 → Option (Int × Nat)
  | .finite s m e =>
    let size : Int := (m * pow2 e.toNat : Nat)
    some (if s then -size else size, pow2 (-e).toNat)
  | _ => none

/-- Whether a number has a minus sign. -/
def isNegative : Binary64 → Bool
  | .finite s .. => s
  | .infinity s => s
  | .notANumber _ => false

/-- **The sum of two numbers**, rounded. A sum of zero is negative only if both numbers are. -/
def plus (x y : Binary64) : Binary64 :=
  match x, y with
  | .notANumber _, _ => .nan
  | _, .notANumber _ => .nan
  | .infinity s, .infinity t => if s = t then .infinity s else .nan
  | .infinity s, _ => .infinity s
  | _, .infinity t => .infinity t
  | x, y =>
    match x.ratio?, y.ratio? with
    | some (a, b), some (c, d) =>
      let n := a * d + c * b
      let negative := if n = 0 then x.isNegative && y.isNegative else decide (n < 0)
      ofRatio double negative n.natAbs (b * d)
    | _, _ => .nan

/-- **The product of two numbers**, rounded. -/
def times (x y : Binary64) : Binary64 :=
  let negative := x.isNegative != y.isNegative
  match x, y with
  | .notANumber _, _ => .nan
  | _, .notANumber _ => .nan
  | .finite _ 0 _, .infinity _ => .nan
  | .infinity _, .finite _ 0 _ => .nan
  | .infinity _, _ => .infinity negative
  | _, .infinity _ => .infinity negative
  | x, y =>
    match x.ratio?, y.ratio? with
    | some (a, b), some (c, d) => ofRatio double negative (a * c).natAbs (b * d)
    | _, _ => .nan

/-- A power of sixty, if it is not beyond the largest number. -/
def powerOfSixty? (n : Nat) : Option Binary64 :=
  match ofInt (Nat.pow 60 n) with
  | .infinity _ => none
  | x => some x

/-- **The number that floating-point parts spell**, if there are not so many of them that a power
of sixty is beyond the largest number. -/
def sexagesimal? (parts : List Binary64) : Option Binary64 :=
  parts.reverse.zipIdx.foldlM (fun sum (part, index) => do
    return sum.plus (part.times (← powerOfSixty? index))) (ofInt 0)

end Binary64

end Conform
