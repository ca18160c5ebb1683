import DependencyGate.Number.Binary64
import DependencyGate.Text.Blank
import DependencyGate.Text.WordTable

/-!
# Number literals

`ofDecimal` rounds a decimal to the nearest double. `parseReal?` reads what a
setting may hold for a number: blanks around it, a sign, digits of any script with
single underscores between them, a point, an exponent, or a word for infinity or
for no number. `parsePlainReal?` reads the same in ASCII alone, with looser
underscores.
-/

namespace DependencyGate.Number

/-- `± digits * 10 ^ exponent` to the nearest double. Exponents far outside the format are cut. -/
def ofDecimal (negative : Bool) (digits : Nat) (exponent : Int) : Binary64 :=
  if digits = 0 then .zero negative
  else
    let top := exponent + (Nat.toDigits 10 digits).length
    if 400 < top then .infinity negative
    else if top < -400 then .zero negative
    else if 0 ≤ exponent then .ofRatio negative (digits * tenTo exponent.toNat) 1
    else .ofRatio negative digits (tenTo (-exponent).toNat)

def isDigit (c : Char) : Bool := '0' ≤ c && c ≤ '9'

def digitsValue (acc : Nat) : List Char → Nat
  | [] => acc
  | c :: rest => digitsValue (acc * 10 + (c.toNat - 48)) rest

/-- Decimal digits of other scripts as ASCII and their blanks as spaces; nothing else is known. -/
def plainChar? (c : Char) : Option Char :=
  if c.toNat < 0x7F then some c
  else if Text.isBlank c then some ' '
  else (Text.digitValue? c).map fun d => Char.ofNat (48 + d)

def isPadding (c : Char) : Bool :=
  (9 ≤ c.toNat && c.toNat ≤ 13) || c == ' '

def dropUnderscores (afterDigit : Bool) : List Char → Option (List Char)
  | [] => some []
  | '_' :: rest =>
    match rest with
    | c :: _ => if afterDigit && isDigit c then dropUnderscores false rest else none
    | [] => none
  | c :: rest => (dropUnderscores (isDigit c) rest).map (c :: ·)

def takeSign : List Char → Bool × List Char
  | '-' :: rest => (true, rest)
  | '+' :: rest => (false, rest)
  | cs => (false, cs)

def exponent? : List Char → Option Int
  | [] => some 0
  | c :: rest =>
    if c = 'e' ∨ c = 'E' then
      let (negative, digits) := takeSign rest
      if digits.isEmpty || !digits.all isDigit then none
      else
        let n : Int := digitsValue 0 digits
        some (if negative then -n else n)
    else none

def decimal? (negative : Bool) (cs : List Char) : Option Binary64 :=
  let whole := cs.takeWhile isDigit
  let rest := cs.dropWhile isDigit
  let (fraction, rest) :=
    match rest with
    | '.' :: rest => (rest.takeWhile isDigit, rest.dropWhile isDigit)
    | rest => ([], rest)
  if whole.isEmpty && fraction.isEmpty then none
  else
    (exponent? rest).map fun e =>
      ofDecimal negative (digitsValue 0 (whole ++ fraction)) (e - fraction.length)

def signed? (cs : List Char) : Option Binary64 :=
  let (negative, rest) := takeSign cs
  let word := String.ofList (rest.map Char.toLower)
  if word == "inf" || word == "infinity" then some (.infinity negative)
  else if word == "nan" then some .nan
  else decimal? negative rest

def parseReal? (s : String) : Option Binary64 := do
  let plain ← s.toList.mapM plainChar?
  let trimmed := ((plain.dropWhile isPadding).reverse.dropWhile isPadding).reverse
  signed? (← dropUnderscores false trimmed)

def isWhiteSpace (c : Char) : Bool := Text.isBlank c && !(0x1C ≤ c.toNat && c.toNat ≤ 0x1F)

def hasUnderscorePair : List Char → Bool
  | '_' :: '_' :: _ => true
  | _ :: rest => hasUnderscorePair rest
  | [] => false

def hasLooseUnderscore (cs : List Char) : Bool :=
  cs.head? == some '_' || cs.getLast? == some '_' || hasUnderscorePair cs

/--
The number that a word of a command stands for. It is written in ASCII, with white space around it
or with single underscores anywhere inside it, not with both.
-/
def parsePlainReal? (s : String) : Option Binary64 :=
  let cs := s.toList
  let trimmed := ((cs.dropWhile isWhiteSpace).reverse.dropWhile isWhiteSpace).reverse
  match signed? trimmed with
  | some x => some x
  | none => if hasLooseUnderscore cs then none else signed? (cs.filter (· != '_'))

end DependencyGate.Number
