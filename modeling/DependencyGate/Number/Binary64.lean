/-!
# Double-precision numbers

A number of the IEEE 754 binary64 format as a value: what is compared, added and
printed is exact arithmetic on sign, mantissa and exponent. Only `ofRatio` rounds,
to the nearest representable number with ties to the even mantissa.
-/

namespace DependencyGate.Number

/--
Finite numbers are `± mantissa * 2 ^ exponent`. The constructors built here keep
`exponent` between -1074 and 971 and `mantissa` below `2 ^ 53`, and at least
`2 ^ 52` above the lowest exponent, so every number has one form.
-/
inductive Binary64
  | nan
  | infinity (negative : Bool)
  | finite (negative : Bool) (mantissa : Nat) (exponent : Int)
deriving DecidableEq, Repr, Inhabited

def twoTo (n : Nat) : Nat := Nat.pow 2 n

def tenTo (n : Nat) : Nat := Nat.pow 10 n

namespace Binary64

def minExponent : Int := -1074

def maxExponent : Int := 971

def zero (negative : Bool) : Binary64 := .finite negative 0 minExponent

/-- `num / den` rounded to an integer, a half to the even neighbour. -/
def divNearest (num den : Nat) : Nat :=
  let q := num / den
  let twice := 2 * (num % den)
  if twice < den then q
  else if den < twice then q + 1
  else if q % 2 = 0 then q else q + 1

def scaleRatio (num den : Nat) (shift : Int) : Nat × Nat :=
  if 0 ≤ shift then (num * twoTo shift.toNat, den) else (num, den * twoTo (-shift).toNat)

def floorLog2 (num den : Nat) : Int :=
  let guess : Int := (num.log2 : Int) - den.log2
  let (n, d) := scaleRatio num den (-guess)
  if d ≤ n then guess else guess - 1

def ofRatio (negative : Bool) (num den : Nat) : Binary64 :=
  if num = 0 then zero negative
  else
    let exponent := max (floorLog2 num den - 52) minExponent
    let (n, d) := scaleRatio num den (-exponent)
    let mantissa := divNearest n d
    let (mantissa, exponent) :=
      if mantissa = twoTo 53 then (twoTo 52, exponent + 1) else (mantissa, exponent)
    if maxExponent < exponent then .infinity negative else .finite negative mantissa exponent

def ofInt (n : Int) : Binary64 := ofRatio (n < 0) n.natAbs 1

/-- A finite number in units of the smallest positive one. -/
def units (negative : Bool) (mantissa : Nat) (exponent : Int) : Int :=
  let magnitude : Int := mantissa * twoTo (exponent - minExponent).toNat
  if negative then -magnitude else magnitude

def unitsOfInt (n : Int) : Int := n * twoTo (-minExponent).toNat

def whole? : Binary64 → Option Int
  | .finite s m e =>
    let u := units s m e
    let one := unitsOfInt 1
    if u % one = 0 then some (u / one) else none
  | _ => none

/-- Where a number stands among the exact ones; a number that is none stands nowhere. -/
inductive Place
  | below
  | at (units : Int)
  | above

def place? : Binary64 → Option Place
  | .nan => none
  | .infinity true => some .below
  | .infinity false => some .above
  | .finite s m e => some (.at (units s m e))

def Place.le : Place → Place → Bool
  | .below, _ => true
  | _, .above => true
  | .at a, .at b => a ≤ b
  | _, _ => false

/-- `a ≤ b`; false when one of them is not a number. -/
def le (a b : Binary64) : Bool :=
  match a.place?, b.place? with
  | some p, some q => p.le q
  | _, _ => false

def add : Binary64 → Binary64 → Binary64
  | .nan, _ => .nan
  | _, .nan => .nan
  | .infinity s, .infinity t => if s = t then .infinity s else .nan
  | .infinity s, .finite .. => .infinity s
  | .finite .., .infinity t => .infinity t
  | .finite s m e, .finite t k f =>
    let sum := units s m e + units t k f
    if sum = 0 then zero (s && t)
    else ofRatio (sum < 0) sum.natAbs (twoTo (-minExponent).toNat)

end Binary64
end DependencyGate.Number
