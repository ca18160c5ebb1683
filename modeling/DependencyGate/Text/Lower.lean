import DependencyGate.Text.CaseTable

/-!
# Lower case

Lower-casing a text may change its length (a dotted capital I becomes an i and a
combining dot) and looks at the neighbours of one letter: a capital sigma that
ends a word takes the final form.
-/

namespace DependencyGate.Text

def inSpans (spans : List (Nat × Nat)) (n : Nat) : Bool :=
  spans.any fun span => span.1 ≤ n && n ≤ span.2

def lowerBeyondAscii (c : Char) : Char :=
  let n := c.toNat
  match lowerRuns.find? fun run =>
    run.first ≤ n && n ≤ run.last && (n - run.first) % run.step == 0 with
  | some run => Char.ofNat (n + run.delta).toNat
  | none => c

/-- The lower-case form of a character that does not depend on its neighbours. -/
def lowerChar (c : Char) : List Char :=
  if c.toNat < 0x80 then [c.toLower]
  else if c.toNat = 0x130 then ['i', Char.ofNat 0x307]
  else [lowerBeyondAscii c]

def isCased (c : Char) : Bool :=
  if c.toNat < 0x80 then c.isAlpha else inSpans casedSpans c.toNat

def isCaseIgnorable (c : Char) : Bool :=
  inSpans caseIgnorableSpans c.toNat

def meetsCased (neighbours : List Char) : Bool :=
  match neighbours.dropWhile isCaseIgnorable with
  | [] => false
  | c :: _ => isCased c

/-- Lower-cases a text, `before` being what was read already, nearest first. -/
def lowerFrom (before : List Char) : List Char → List Char
  | [] => []
  | c :: rest =>
    let here :=
      if c.toNat = 0x3A3 then
        [Char.ofNat (if meetsCased before && !meetsCased rest then 0x3C2 else 0x3C3)]
      else lowerChar c
    here ++ lowerFrom (c :: before) rest

def lower (s : String) : String :=
  String.ofList (lowerFrom [] s.toList)

end DependencyGate.Text
