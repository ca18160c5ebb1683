import DependencyGate.Number.Whole
import DependencyGate.Text.Blank
import DependencyGate.Text.Quoted

/-!
# Literals

The parameters of a handler in a tag are written as a literal: a number, a text, a
constant, or a collection of literals in round or curly brackets. `isLiteral` decides
whether a text is one. A text is cut into tokens first; line ends count only outside
brackets.
-/

namespace DependencyGate.Console.Literal

inductive Token
  | real
  | imaginary
  | text
  | bytes
  | constant
  /-- The word that makes an empty set when round brackets follow. -/
  | setWord
  | sign
  | comma
  | colon
  | openRound
  | closeRound
  | openCurly
  | closeCurly
  | lineEnd
deriving DecidableEq, Repr

-- ---------------------------------------------------------------------------
-- Numbers
-- ---------------------------------------------------------------------------

/-- Digits with single underscores between them, and what follows; `after` tells that one came
before. -/
def takeDigits (isDigit : Char → Bool) (after : Bool) : List Char → List Char × List Char
  | '_' :: c :: rest =>
    if after && isDigit c then
      let (digits, rest) := takeDigits isDigit true rest
      (c :: digits, rest)
    else ([], '_' :: c :: rest)
  | c :: rest =>
    if isDigit c then
      let (digits, rest) := takeDigits isDigit true rest
      (c :: digits, rest)
    else ([], c :: rest)
  | [] => ([], [])

def isHex (c : Char) : Bool := (Text.hexValue? c).isSome

def isOctal (c : Char) : Bool := '0' ≤ c && c ≤ '7'

def isBinary (c : Char) : Bool := c == '0' || c == '1'

def baseDigits? (letter : Char) : Option (Char → Bool) :=
  if letter = 'x' ∨ letter = 'X' then some isHex
  else if letter = 'o' ∨ letter = 'O' then some isOctal
  else if letter = 'b' ∨ letter = 'B' then some isBinary
  else none

def afterBase? (cs : List Char) : Option (List Char) :=
  match cs with
  | '0' :: letter :: rest =>
    match baseDigits? letter with
    | none => none
    | some isDigit =>
      match takeDigits isDigit true rest with
      | ([], _) => none
      | (_, rest) => some rest
  | _ => none

def afterExponent? (cs : List Char) : Option (List Char) :=
  match cs with
  | c :: rest =>
    if c = 'e' ∨ c = 'E' then
      match takeDigits Number.isDigit false (Number.takeSign rest).2 with
      | ([], _) => none
      | (_, rest) => some rest
    else none
  | [] => none

/-- A whole number may start with a zero only if it is zero, and is not too long otherwise. -/
def isWholeText (digits : List Char) : Bool :=
  digits.all (· == '0') || (digits.head? != some '0' && digits.length ≤ Number.digitLimit)

def afterUnit? (cs : List Char) : Option (List Char) :=
  match cs with
  | c :: rest => if c = 'j' ∨ c = 'J' then some rest else none
  | [] => none

def decimal? (cs : List Char) : Option (Token × List Char) :=
  let (whole, rest) := takeDigits Number.isDigit false cs
  let (pointed, fraction, rest) :=
    match rest with
    | '.' :: rest =>
      let (fraction, rest) := takeDigits Number.isDigit false rest
      (true, fraction, rest)
    | rest => (false, [], rest)
  if whole.isEmpty && fraction.isEmpty then none
  else
    let (raised, rest) :=
      match afterExponent? rest with
      | some rest => (true, rest)
      | none => (false, rest)
    match afterUnit? rest with
    | some rest => some (.imaginary, rest)
    | none => if pointed || raised || isWholeText whole then some (.real, rest) else none

def number? (cs : List Char) : Option (Token × List Char) :=
  match afterBase? cs with
  | some rest => some (.real, rest)
  | none => decimal? cs

-- ---------------------------------------------------------------------------
-- Texts
-- ---------------------------------------------------------------------------

structure Quoting where
  mark : Char
  /-- Three marks stand on each side. -/
  triple : Bool
  /-- Backslashes start no escapes. -/
  raw : Bool
  bytes : Bool

def startsWithHex (count : Nat) (cs : List Char) : Bool :=
  (cs.take count).length == count && (cs.take count).all isHex

def hexNumber (cs : List Char) : Nat :=
  cs.foldl (fun n c => n * 16 + (Text.hexValue? c).getD 0) 0

def startsWithName (cs : List Char) : Bool :=
  match cs with
  | '\x7b' :: rest =>
    let name := rest.takeWhile (· != '\x7d')
    !name.isEmpty && name.length < rest.length &&
      name.all fun c => c.isAlphanum || c == ' ' || c == '-'
  | _ => false

def isEscape (q : Quoting) (cs : List Char) : Bool :=
  match cs with
  | [] => false
  | 'x' :: rest => startsWithHex 2 rest
  | 'u' :: rest => q.bytes || startsWithHex 4 rest
  | 'U' :: rest =>
    q.bytes || (startsWithHex 8 rest && hexNumber (rest.take 8) ≤ 0x10FFFF)
  | 'N' :: rest => q.bytes || startsWithName rest
  | _ => true

def closes (q : Quoting) (cs : List Char) : Bool :=
  if q.triple then [q.mark, q.mark, q.mark].isPrefixOf cs else cs.head? == some q.mark

/-- What follows a text in quotes; `escaped` tells that a backslash came before. -/
def afterText? (q : Quoting) : Bool → List Char → Option (List Char)
  | _, [] => none
  | true, c :: rest => if q.bytes && 128 ≤ c.toNat then none else afterText? q false rest
  | false, c :: rest =>
    if closes q (c :: rest) then some (if q.triple then rest.drop 2 else rest)
    else if q.bytes && 128 ≤ c.toNat then none
    else if c = '\\' then if q.raw || isEscape q rest then afterText? q true rest else none
    else if c = '\n' && !q.triple then none
    else afterText? q false rest

/-- What letters before a text say: whether it is raw and whether it holds bytes. -/
def textKind? (letters : List Char) : Option (Bool × Bool) :=
  match letters.map Char.toLower with
  | [] => some (false, false)
  | ['u'] => some (false, false)
  | ['r'] => some (true, false)
  | ['b'] => some (false, true)
  | ['b', 'r'] => some (true, true)
  | ['r', 'b'] => some (true, true)
  | _ => none

def isQuote (c : Char) : Bool := c == '\'' || c == '"'

def text? (letters cs : List Char) : Option (Token × List Char) :=
  match cs with
  | [] => none
  | mark :: rest =>
    match textKind? letters with
    | none => none
    | some (raw, bytes) =>
      let triple := [mark, mark].isPrefixOf rest
      let body := if triple then rest.drop 2 else rest
      (afterText? ⟨mark, triple, raw, bytes⟩ false body).map fun rest =>
        (if bytes then .bytes else .text, rest)

-- ---------------------------------------------------------------------------
-- Tokens
-- ---------------------------------------------------------------------------

def isNameChar (c : Char) : Bool := c.isAlphanum || c == '_' || 128 ≤ c.toNat

def word? (cs : List Char) : Option (Token × List Char) :=
  let name := cs.takeWhile isNameChar
  let rest := cs.dropWhile isNameChar
  if rest.head?.any isQuote then text? name rest
  else if ["True".toList, "False".toList, "None".toList].contains name then some (.constant, rest)
  else if name = "set".toList then some (.setWord, rest)
  else none

/-- A token that is a single character, with the change of depth that it makes. -/
def single? (c : Char) : Option (Token × Int) :=
  match c with
  | '+' => some (.sign, 0)
  | '-' => some (.sign, 0)
  | ',' => some (.comma, 0)
  | ':' => some (.colon, 0)
  | '(' => some (.openRound, 1)
  | ')' => some (.closeRound, -1)
  | '\x7b' => some (.openCurly, 1)
  | '\x7d' => some (.closeCurly, -1)
  | _ => none

def long? (cs : List Char) : Option (Token × List Char) :=
  match cs with
  | [] => none
  | c :: rest =>
    if ['.', '.', '.'].isPrefixOf cs then some (.constant, cs.drop 3)
    else if Number.isDigit c || c = '.' then number? cs
    else if isQuote c then text? [] (c :: rest)
    else word? cs

def isGap (c : Char) : Bool := c == ' ' || c == '\t' || c == '\x0c'

def isIdleLine (cs : List Char) : Bool :=
  match cs.dropWhile isGap with
  | [] => true
  | c :: _ => c == '\n' || c == '#'

/-- How far a line is set in; a form feed starts anew, and a backslash joins the next line. -/
def indent : Nat → List Char → Nat
  | n, '\\' :: '\n' :: rest => if n = 0 then indent 0 rest else n
  | n, c :: rest =>
    if c = '\x0c' then indent 0 rest
    else if c = ' ' ∨ c = '\t' then indent (n + 1) rest
    else n
  | n, [] => n

def depthLimit : Int := 200

/-- Cuts a text into tokens; `fuel` bounds their number, `depth` counts open brackets. -/
def tokens : Nat → Int → List Char → Option (List Token)
  | 0, _, _ => none
  | fuel + 1, depth, cs =>
    match cs with
    | [] => some []
    | '\n' :: rest =>
      if depth = 0 then
        if isIdleLine rest || indent 0 rest = 0 then (tokens fuel 0 rest).map (.lineEnd :: ·)
        else none
      else tokens fuel depth rest
    | '\\' :: '\n' :: rest => if rest.isEmpty then none else tokens fuel depth rest
    | '#' :: rest => tokens fuel depth (rest.dropWhile (· != '\n'))
    | c :: rest =>
      if isGap c then tokens fuel depth rest
      else
        match single? c with
        | some (t, change) =>
          let depth := depth + change
          if 0 ≤ depth ∧ depth ≤ depthLimit then (tokens fuel depth rest).map (t :: ·) else none
        | none =>
          match long? cs with
          | some (t, rest) => (tokens fuel depth rest).map (t :: ·)
          | none => none

-- ---------------------------------------------------------------------------
-- Values
-- ---------------------------------------------------------------------------

inductive Kind
  | number (signed imaginary : Bool)
  /-- A value that can be an element of a set. -/
  | solid
  /-- A set or a dictionary. -/
  | fluid
  /-- No value yet: round brackets have to follow. -/
  | setWord
deriving DecidableEq, Repr

def Kind.isSolid : Kind → Bool
  | .number .. => true
  | .solid => true
  | _ => false

def Kind.isValue (k : Kind) : Bool := k != .setWord

/-- The kind of a collection whose elements can be changed only if one of them can. -/
def tupleKind (kinds : List Kind) : Kind := if kinds.all Kind.isSolid then .solid else .fluid

mutual
def atom? : Nat → List Token → Option (Kind × List Token)
  | 0, _ => none
  | fuel + 1, ts =>
    match ts with
    | .real :: rest => some (.number false false, rest)
    | .imaginary :: rest => some (.number false true, rest)
    | .text :: rest => some (.solid, rest.dropWhile (· == .text))
    | .bytes :: rest => some (.solid, rest.dropWhile (· == .bytes))
    | .constant :: rest => some (.solid, rest)
    | .setWord :: rest => some (.setWord, rest)
    | .openRound :: .closeRound :: rest => some (.solid, rest)
    | .openRound :: rest =>
      match values? fuel rest with
      | some (kinds, bare, .closeRound :: rest) =>
        match bare, kinds with
        | true, [kind] => some (kind, rest)
        | _, kinds => if kinds.all Kind.isValue then some (tupleKind kinds, rest) else none
      | _ => none
    | .openCurly :: .closeCurly :: rest => some (.fluid, rest)
    | .openCurly :: rest => curly? fuel rest
    | _ => none

def call? : Nat → List Token → Option (Kind × List Token)
  | 0, _ => none
  | fuel + 1, ts =>
    match atom? fuel ts with
    | some (.setWord, .openRound :: .closeRound :: rest) => some (.fluid, rest)
    | r => r

def signed? : Nat → List Token → Option (Kind × List Token)
  | 0, _ => none
  | fuel + 1, ts =>
    match ts with
    | .sign :: rest =>
      match call? fuel rest with
      | some (.number false i, rest) => some (.number true i, rest)
      | _ => none
    | ts => call? fuel ts

def value? : Nat → List Token → Option (Kind × List Token)
  | 0, _ => none
  | fuel + 1, ts =>
    match signed? fuel ts with
    | some (.number _ false, .sign :: rest) =>
      match call? fuel rest with
      | some (.number false true, rest) => some (.solid, rest)
      | _ => none
    | r => r

/-- Values with commas between them, whether no comma follows a single one, and what follows. -/
def values? : Nat → List Token → Option (List Kind × Bool × List Token)
  | 0, _ => none
  | fuel + 1, ts =>
    match value? fuel ts with
    | none => none
    | some (kind, .comma :: rest) =>
      match values? fuel rest with
      | some (kinds, _, rest) => some (kind :: kinds, false, rest)
      | none => some ([kind], false, rest)
    | some (kind, rest) => some ([kind], true, rest)

def curly? : Nat → List Token → Option (Kind × List Token)
  | 0, _ => none
  | fuel + 1, ts =>
    match value? fuel ts with
    | some (_, .colon :: _) => entries? fuel ts
    | _ =>
      match values? fuel ts with
      | some (kinds, _, .closeCurly :: rest) =>
        if kinds.all Kind.isSolid then some (.fluid, rest) else none
      | _ => none

def entries? : Nat → List Token → Option (Kind × List Token)
  | 0, _ => none
  | fuel + 1, ts =>
    match value? fuel ts with
    | some (key, .colon :: rest) =>
      match value? fuel rest with
      | some (value, rest) =>
        if key.isSolid && value.isValue then
          match rest with
          | .closeCurly :: rest => some (.fluid, rest)
          | .comma :: .closeCurly :: rest => some (.fluid, rest)
          | .comma :: rest => entries? fuel rest
          | _ => none
        else none
      | none => none
    | _ => none
end

/-- A text is the written form of a value; line ends may surround it, and one is put before it. -/
def isLiteral (text : List Char) : Bool :=
  let cs := '\n' :: Text.singleBreaks (text.dropWhile fun c => c == ' ' || c == '\t')
  if cs.any fun c => c.toNat == 0 then false
  else
    match tokens (cs.length + 1) 0 cs with
    | none => false
    | some ts =>
      let ts := ts.dropWhile (· == .lineEnd)
      match values? (8 * ts.length + 8) ts with
      | some (kinds, _, rest) => kinds.all Kind.isValue && rest.all (· == .lineEnd)
      | none => false

end DependencyGate.Console.Literal
