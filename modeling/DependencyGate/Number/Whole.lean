import DependencyGate.Number.Literal
import DependencyGate.Text.Quoted

/-!
# Whole numbers in texts

`parseWhole` reads blanks, a sign and digits of any script with single underscores
between them. Numbers with too many digits are neither read nor written: what a message
or a document names is `Short`.
-/

namespace DependencyGate.Number

def digitLimit : Nat := 4300

/-- A whole number that has a text. -/
def isShort (n : Int) : Bool := (Nat.toDigits 10 n.natAbs).length ≤ digitLimit

abbrev Short (n : Int) : Prop := isShort n = true

inductive WholeFault
  | malformed (text : String)
  | tooLong (digits : Nat)
deriving DecidableEq, Repr

def WholeFault.message : WholeFault → String
  | .malformed text => s!"invalid literal for int() with base 10: {Text.quoted text}"
  | .tooLong digits =>
    s!"Exceeds the limit ({digitLimit} digits) for integer string conversion: " ++
      s!"value has {digits} digits; " ++
      "use sys.set_int_max_str_digits() to increase the limit"

/-- The whole number that a text stands for. The digits are counted before what follows is read. -/
def parseWhole (s : String) : Except WholeFault Int :=
  let plain := s.toList.map fun c => (plainChar? c).getD '?'
  let (negative, cs) := takeSign ((plain.dropWhile isPadding).reverse.dropWhile isPadding).reverse
  let run := cs.takeWhile fun c => isDigit c || c == '_'
  let digits := run.filter isDigit
  if hasLooseUnderscore run then .error (.malformed s)
  else if digitLimit < digits.length then .error (.tooLong digits.length)
  else if run.isEmpty || run.length < cs.length then .error (.malformed s)
  else
    let n : Int := digitsValue 0 digits
    .ok (if negative then -n else n)

end DependencyGate.Number
