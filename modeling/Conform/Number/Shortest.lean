import Conform.Number.Binary64

/-!
# The shortest decimal of a floating-point number

A binary number is written with the fewest decimal digits that read back as that number; of the
decimals with so few digits, the one nearest to it; of two equally near, the even one.

The reals that round to the number `m · 2^e` are an interval around it, with its ends included
exactly if `m` is even. `Binary64.shortest` walks through the decimal grids from one digit on and
looks at the two neighbours of the number on each grid: the first grid with a neighbour inside
the interval wins. All of it is arithmetic on naturals – the number, the ends of its interval and
the neighbours are compared over one denominator.
-/

namespace Conform.Binary64

/-- The largest `d` with `10 ^ d ≤ num / den`, for a positive ratio. -/
def log10Ratio (num den : Nat) : Int :=
  let guess : Int :=
    ((Nat.toDigits 10 num).length : Int) - ((Nat.toDigits 10 den).length : Int)
  if den * pow10 guess.toNat ≤ num * pow10 (-guess).toNat then guess else guess - 1

/-- The interval of reals that round to `m · 2^e`, in quarters of the unit `2^e`: the number
itself is `4 * m` quarters. Below a power of two the numbers lie twice as close. -/
structure Interval where
  low : Nat
  middle : Nat
  high : Nat
  closed : Bool

/-- The rounding interval of a positive finite double. -/
def interval (m : Nat) (e : Int) : Interval :=
  let low := if m = pow2 52 ∧ double.leastExponent < e then 4 * m - 1 else 4 * m - 2
  ⟨low, 4 * m, 4 * m + 2, m % 2 = 0⟩

/-- Whether the point `x` lies in the interval, the interval's bounds being scaled by `a`. -/
def Interval.covers (i : Interval) (a x : Nat) : Bool :=
  if i.closed then i.low * a ≤ x && x ≤ i.high * a else i.low * a < x && x < i.high * a

/-- **The neighbours on one grid**: the multiples of `10 ^ s` next to the number that lie in its
interval, the nearer one if both do, and the even one if they are equally near. -/
def onGrid? (i : Interval) (e s : Int) : Option Nat :=
  let a := pow2 (e - 2).toNat * pow10 (-s).toNat
  let b := pow2 (2 - e).toNat * pow10 s.toNat
  let v := i.middle * a
  let c := v / b
  match i.covers a (c * b), i.covers a ((c + 1) * b) with
  | true, false => some c
  | false, true => some (c + 1)
  | false, false => none
  | true, true =>
    let below := v - c * b
    let above := (c + 1) * b - v
    if below < above then some c
    else if above < below then some (c + 1)
    else some (c + c % 2)

/-- The first grid from `digits` digits on that has a neighbour, at most `tries` grids being
looked at. -/
def firstGrid (i : Interval) (e d : Int) : (tries : Nat) → (digits : Nat) → Nat × Int
  | 0, digits =>
    let s := d - digits + 1
    (i.middle * pow2 (e - 2).toNat * pow10 (-s).toNat / (pow2 (2 - e).toNat * pow10 s.toNat), s)
  | tries + 1, digits =>
    let s := d - digits + 1
    match onGrid? i e s with
    | some c => (c, s)
    | none => firstGrid i e d tries (digits + 1)

/-- **The shortest decimal** `c · 10 ^ s` of the positive number `m · 2^e`, as the pair `(c, s)`.
Seventeen digits always suffice. -/
def shortest (m : Nat) (e : Int) : Nat × Int :=
  firstGrid (interval m e) e (log10Ratio (m * pow2 e.toNat) (pow2 (-e).toNat)) 17 1

end Conform.Binary64
