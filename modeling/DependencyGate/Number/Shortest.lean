import DependencyGate.Number.Binary64

/-!
# The fewest digits that read back

`Decimal` is a number in decimal scientific form. `Binary64.shortest` finds the
fewest significant digits that read back as the same number and, of those, the
nearest; `Binary64.text` lays them out, and `Binary64.fixedTenths` rounds the exact
value to one decimal place.
-/

namespace DependencyGate.Number

structure Decimal where
  digits : Nat
  exponent : Int
deriving DecidableEq, Repr

def scaleTen (num den : Nat) (shift : Int) : Nat × Nat :=
  if 0 ≤ shift then (num * tenTo shift.toNat, den) else (num, den * tenTo (-shift).toNat)

def digitCount (n : Nat) : Nat := (Nat.toDigits 10 n).length

def floorLog10 (num den : Nat) : Int :=
  let guess : Int := (digitCount num : Int) - digitCount den
  let (n, d) := scaleTen num den (-guess)
  if d ≤ n then guess else guess - 1

/-- The reals that round to one number: fractions over a common denominator. -/
structure Basin where
  low : Nat
  value : Nat
  high : Nat
  den : Nat
  /-- The ends belong to it. -/
  closed : Bool

def basin (mantissa : Nat) (exponent : Int) : Basin :=
  -- Below a power of two the neighbour is only half as far away.
  let narrow := mantissa = twoTo 52 ∧ Binary64.minExponent < exponent
  let (unit, den) := Binary64.scaleRatio 1 4 exponent
  { low := (4 * mantissa - if narrow then 1 else 2) * unit
    value := 4 * mantissa * unit
    high := (4 * mantissa + 2) * unit
    den := den
    closed := mantissa % 2 = 0 }

def Basin.holds (b : Basin) (d : Decimal) : Bool :=
  let (n, m) := scaleTen d.digits 1 d.exponent
  let x := n * b.den
  if b.closed then b.low * m ≤ x && x ≤ b.high * m else b.low * m < x && x < b.high * m

def Basin.distance (b : Basin) (d : Decimal) : Nat :=
  let (n, m) := scaleTen d.digits 1 d.exponent
  (((n * b.den : Nat) : Int) - ((b.value * m : Nat) : Int)).natAbs

/-- The nearest decimal with its last digit at `10 ^ exponent` that reads back, if there is one. -/
def Basin.onGrid (b : Basin) (exponent : Int) : Option Decimal :=
  let (n, d) := scaleTen b.value b.den (-exponent)
  let floor : Decimal := ⟨n / d, exponent⟩
  let ceiling : Decimal := ⟨n / d + 1, exponent⟩
  match b.holds floor, b.holds ceiling with
  | true, true =>
    let below := b.distance floor
    let above := b.distance ceiling
    if below < above || (below == above && floor.digits % 2 == 0) then some floor else some ceiling
  | true, false => some floor
  | false, true => some ceiling
  | false, false => none

def Decimal.strip : Nat → Decimal → Decimal
  | 0, d => d
  | fuel + 1, d =>
    if d.digits % 10 = 0 ∧ d.digits ≠ 0 then strip fuel ⟨d.digits / 10, d.exponent + 1⟩ else d

/-- The first grid with a hit, from one significant digit on; seventeen always suffice. -/
def Basin.search (b : Basin) (top : Int) : Nat → Nat → Decimal
  | 0, _ => ⟨0, 0⟩
  | fuel + 1, count =>
    match b.onGrid (top - count + 1) with
    | some d => d.strip 20
    | none => b.search top fuel (count + 1)

/-- The shortest decimal that reads back as `mantissa * 2 ^ exponent`, nearest of its length. -/
def shortest (mantissa : Nat) (exponent : Int) : Decimal :=
  let b := basin mantissa exponent
  b.search (floorLog10 b.value b.den) 18 1

/-- Scientific exponents written without an exponent part: from the first up to the second. -/
def positionalExponents : Int × Int := (-4, 16)

def exponentText (e : Int) : List Char :=
  let digits := Nat.toDigits 10 e.natAbs
  let padded := if digits.length < 2 then '0' :: digits else digits
  (if e < 0 then '-' else '+') :: padded

def Decimal.layOut (d : Decimal) : List Char :=
  let digits := Nat.toDigits 10 d.digits
  let point : Int := digits.length + d.exponent
  let top := point - 1
  if top < positionalExponents.1 ∨ positionalExponents.2 ≤ top then
    let mantissa :=
      match digits with
      | [] => []
      | [c] => [c]
      | c :: rest => c :: '.' :: rest
    mantissa ++ 'e' :: exponentText top
  else if point ≤ 0 then
    '0' :: '.' :: (List.replicate (-point).toNat '0' ++ digits)
  else if d.exponent < 0 then
    digits.take point.toNat ++ '.' :: digits.drop point.toNat
  else
    digits ++ List.replicate d.exponent.toNat '0' ++ ['.', '0']

namespace Binary64

def signText (negative : Bool) (cs : List Char) : List Char :=
  if negative then '-' :: cs else cs

def text : Binary64 → String
  | .nan => "nan"
  | .infinity false => "inf"
  | .infinity true => "-inf"
  | .finite s m e =>
    String.ofList (signText s (if m = 0 then ['0', '.', '0'] else (shortest m e).layOut))

def fixedTenths : Binary64 → String
  | .nan => "nan"
  | .infinity false => "inf"
  | .infinity true => "-inf"
  | .finite s m e =>
    let (num, den) := scaleRatio (10 * m) 1 e
    let tenths := divNearest num den
    String.ofList
      (signText s (Nat.toDigits 10 (tenths / 10) ++ '.' :: Nat.toDigits 10 (tenths % 10)))

end Binary64
end DependencyGate.Number
