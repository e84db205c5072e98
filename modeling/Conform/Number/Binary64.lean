/-!
# Binary floating-point numbers

A data document may hold fractional numbers, and they are floating-point numbers of double
precision: `(-1)^s · m · 2^e` with a significand `m` below `2 ^ 53`. This library
hardly *computes* with them – they are read, compared exactly with integers and with each other,
and written – so a number is kept in the decoded form `Binary64.finite s m e`, on which comparison
is integer arithmetic.

The datum that is no number is equal to nothing, not even to itself. So it matters where it comes
from: one that is found in two places may be one and the same object (`NaNObject`).

`Binary64.ofRatio` rounds a ratio of naturals to the nearest number of a format, ties to the
even significand; every number of this library comes out of it in *canonical* form, the exponent
as small as the format allows. `Binary64.position?` places a number on the extended real line,
and `Position.lt` compares two places exactly.
-/

namespace Conform

/-- **A datum that is no number, as an object.** A document format has one of its own, which stands
wherever a document says that something is no number. -/
inductive NaNObject where
  | json
  | yaml
  /-- One that the caller has named. -/
  | named (index : Nat)
deriving DecidableEq, Repr

/-- **A binary floating-point number**: a finite one `(-1)^negative · significand · 2^exponent`,
an infinity, or the datum that is no number. Negative zero is `finite true 0 e`. -/
inductive Binary64 where
  | finite (negative : Bool) (significand : Nat) (exponent : Int)
  | infinity (negative : Bool)
  /-- The datum that is no number. One that has just been computed is no object that is found
  anywhere else. -/
  | notANumber (object : Option NaNObject)
deriving DecidableEq, Repr, Inhabited

/-- The datum that is no number, as it is computed. -/
@[match_pattern] abbrev Binary64.nan : Binary64 := .notANumber none

/-- A power of two. -/
def pow2 (n : Nat) : Nat := Nat.pow 2 n

/-- A power of ten. -/
def pow10 (n : Nat) : Nat := Nat.pow 10 n

/-- The integer quotient nearest to `num / den`, a half going to the even neighbour. -/
def roundDiv (num den : Nat) : Nat :=
  let q := num / den
  let r := num % den
  if 2 * r < den then q else if den < 2 * r then q + 1 else q + q % 2

namespace Binary64

/-- **A binary format**: how many binary digits a significand has, and between which exponents
its last digit may lie. -/
structure Format where
  /-- Number of binary digits of the significand. -/
  precision : Nat
  /-- Exponent of the last digit of the smallest numbers. -/
  leastExponent : Int
  /-- Exponent of the last digit of the largest numbers. -/
  greatestExponent : Int
deriving Repr

/-- Double precision. -/
def double : Format := ⟨53, -1074, 971⟩

/-- Single precision. -/
def single : Format := ⟨24, -149, 104⟩

/-- The ratio `num / den` measured in units of `2 ^ e`, as a ratio of naturals. -/
def inUnits (num den : Nat) (e : Int) : Nat × Nat :=
  (num * pow2 (-e).toNat, den * pow2 e.toNat)

/-- The largest `e` with `2 ^ e ≤ num / den`, for a positive ratio. -/
def log2Ratio (num den : Nat) : Int :=
  let guess : Int := (num.log2 : Int) - (den.log2 : Int)
  let (n, d) := inUnits num den guess
  if d ≤ n then guess else guess - 1

/-- **Rounding to a format**: the number of the format nearest to `num / den`, ties to even;
a ratio beyond the largest number rounds to the infinity of its sign. -/
def ofRatio (f : Format) (negative : Bool) (num den : Nat) : Binary64 :=
  if num = 0 then .finite negative 0 f.leastExponent
  else
    let e := max (log2Ratio num den - f.precision + 1) f.leastExponent
    let (n, d) := inUnits num den e
    let q := roundDiv n d
    let (q, e) := if q = pow2 f.precision then (pow2 (f.precision - 1), e + 1) else (q, e)
    if f.greatestExponent < e then .infinity negative else .finite negative q e

/-- The double nearest to `coefficient · 10 ^ exponent`. A decimal exponent far outside the
range of the format is decided by its size alone. -/
def ofDecimal (negative : Bool) (coefficient : Nat) (exponent : Int) : Binary64 :=
  let size : Int := (Nat.toDigits 10 coefficient).length + exponent
  if coefficient = 0 ∨ size < -330 then .finite negative 0 double.leastExponent
  else if 330 < size then .infinity negative
  else
    ofRatio double negative (coefficient * pow10 exponent.toNat) (pow10 (-exponent).toNat)

/-- The double nearest to an integer. -/
def ofInt (n : Int) : Binary64 := ofRatio double (decide (n < 0)) n.natAbs 1

/-- The nearest number of single precision, kept as a double. -/
def toSingle : Binary64 → Binary64
  | .finite s m e =>
    match ofRatio single s (m * pow2 e.toNat) (pow2 (-e).toNat) with
    | .finite s m e => ofRatio double s (m * pow2 e.toNat) (pow2 (-e).toNat)
    | x => x
  | .notANumber _ => .nan
  | x => x

/-- The number with the other sign. -/
def negated : Binary64 → Binary64
  | .finite s m e => .finite (!s) m e
  | .infinity s => .infinity (!s)
  | .notANumber object => .notANumber object

/-- Whether the number is finite and has no fraction. -/
def isWhole : Binary64 → Bool
  | .finite _ m e => m % pow2 (-e).toNat == 0
  | _ => false

/-- The integral part of a finite number, cut off toward zero. -/
def truncate? : Binary64 → Option Int
  | .finite s m e =>
    let n : Int := (m * pow2 e.toNat / pow2 (-e).toNat : Nat)
    some (if s then -n else n)
  | _ => none

end Binary64

/-! ## Places on the extended real line -/

/-- **A place on the extended real line**: `mantissa · 2 ^ exponent`, or one of its two ends. -/
inductive Position where
  | negativeEnd
  | finite (mantissa : Int) (exponent : Int)
  | positiveEnd
deriving DecidableEq, Repr

namespace Position

/-- The two mantissas over the smaller of the two exponents: the places they belong to are in
the order of these integers. -/
def align (m₁ e₁ m₂ e₂ : Int) : Int × Int :=
  let e := min e₁ e₂
  (m₁ * (pow2 (e₁ - e).toNat : Int), m₂ * (pow2 (e₂ - e).toNat : Int))

/-- The strict order of the line. -/
def lt : Position → Position → Bool
  | .positiveEnd, _ => false
  | _, .negativeEnd => false
  | .negativeEnd, _ => true
  | _, .positiveEnd => true
  | .finite m₁ e₁, .finite m₂ e₂ =>
    let (a, b) := align m₁ e₁ m₂ e₂
    decide (a < b)

/-- Equality of places; it does not depend on how a finite place is written. -/
def same : Position → Position → Bool
  | .positiveEnd, .positiveEnd => true
  | .negativeEnd, .negativeEnd => true
  | .finite m₁ e₁, .finite m₂ e₂ =>
    let (a, b) := align m₁ e₁ m₂ e₂
    decide (a = b)
  | _, _ => false

end Position

/-- The place of a floating-point number; the datum that is no number has none. -/
def Binary64.position? : Binary64 → Option Position
  | .finite s m e => some (.finite (if s then -(m : Int) else m) e)
  | .infinity true => some .negativeEnd
  | .infinity false => some .positiveEnd
  | .notANumber _ => none

end Conform
