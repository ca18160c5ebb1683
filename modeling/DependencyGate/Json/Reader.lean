import DependencyGate.Json.Value
import DependencyGate.Number.Whole
import DependencyGate.Text.Quoted

/-!
# Reading a JSON document

A recursive-descent reader over characters that counts the position it stands at,
so that a problem is reported by line, column and character. `NaN`, `Infinity` and
`-Infinity` are read as numbers. A repeated field name keeps its first place and its
last value. Escapes that stand for half of a surrogate pair are no characters: a document
that has one is read to its end and then refused.
-/

namespace DependencyGate.Json

inductive Problem
  | expectedValue
  | expectedName
  | expectedColon
  | expectedComma
  | extraData
  | byteOrderMark
  | unterminatedText
  | controlCharacter
  | badEscape
  | badCodeEscape
deriving DecidableEq, Repr

def Problem.message : Problem → String
  | .expectedValue => "Expecting value"
  | .expectedName => "Expecting property name enclosed in double quotes"
  | .expectedColon => "Expecting ':' delimiter"
  | .expectedComma => "Expecting ',' delimiter"
  | .extraData => "Extra data"
  | .byteOrderMark => "Unexpected UTF-8 BOM (decode using utf-8-sig)"
  | .unterminatedText => "Unterminated string starting at"
  | .controlCharacter => "Invalid control character at"
  | .badEscape => "Invalid \\escape"
  | .badCodeEscape => "Invalid \\uXXXX escape"

inductive ReadFault
  /-- `line` and `column` count from one, `position` from zero. -/
  | malformed (problem : Problem) (line column position : Nat)
  /-- A whole number is longer than the reader takes. -/
  | longNumber (digits : Nat)
  /-- Lists and objects are nested too deeply. -/
  | deepNesting
  /-- A text holds half of a surrogate pair. -/
  | unpairedHalf
deriving DecidableEq, Repr

def nestingLimit : Nat := 980

/-- What is left to read and how many characters came before it. -/
structure Cursor where
  rest : List Char
  position : Nat
  /-- Half of a surrogate pair came before it. -/
  halved : Bool := false
deriving Repr

namespace Cursor

def advance (c : Cursor) (n : Nat) : Cursor :=
  { c with rest := c.rest.drop n, position := c.position + n }

def isSpace (c : Char) : Bool := c == ' ' || c == '\t' || c == '\n' || c == '\r'

def skipSpaces (c : Cursor) : Cursor :=
  let spaces := c.rest.takeWhile isSpace
  { c with rest := c.rest.dropWhile isSpace, position := c.position + spaces.length }

end Cursor

/-- A problem and its position, before line and column are known. -/
inductive Stop
  | problem (p : Problem) (position : Nat)
  | longNumber (digits : Nat)
  | deepNesting
  | unpairedHalf

abbrev Read (α : Type) := Except Stop (α × Cursor)

-- ---------------------------------------------------------------------------
-- Texts
-- ---------------------------------------------------------------------------

def fourHex? (cs : List Char) : Option Nat :=
  match cs with
  | a :: b :: c :: d :: _ => do
    let a ← Text.hexValue? a
    let b ← Text.hexValue? b
    let c ← Text.hexValue? c
    let d ← Text.hexValue? d
    some (((a * 16 + b) * 16 + c) * 16 + d)
  | _ => none

def isHighSurrogate (n : Nat) : Bool := 0xD800 ≤ n && n ≤ 0xDBFF
def isLowSurrogate (n : Nat) : Bool := 0xDC00 ≤ n && n ≤ 0xDFFF

/-- The second half of a pair, when an escape that stands for one follows and more comes after. -/
def secondHalf? (cs : List Char) : Except Unit (Option Nat) :=
  match cs with
  | '\\' :: 'u' :: digits =>
    if cs.length ≤ 6 then .ok none
    else
      match fourHex? digits with
      | none => .error ()
      | some n => .ok (if isLowSurrogate n then some n else none)
  | _ => .ok none

def simpleEscape? : Char → Option Char
  | '"' => some '"'
  | '\\' => some '\\'
  | '/' => some '/'
  | 'b' => some (Char.ofNat 8)
  | 'f' => some (Char.ofNat 12)
  | 'n' => some '\n'
  | 'r' => some '\r'
  | 't' => some '\t'
  | _ => none

/-- The characters up to the closing mark; `start` is the position of the opening one. -/
def readText (start : Nat) : Nat → List Char → Cursor → Read String
  | 0, _, _ => .error (.problem .unterminatedText start)
  | fuel + 1, acc, cur =>
    match cur.rest with
    | [] => .error (.problem .unterminatedText start)
    | '"' :: _ => .ok (String.ofList acc.reverse, cur.advance 1)
    | '\\' :: after =>
      match after with
      | [] => .error (.problem .unterminatedText start)
      | 'u' :: digits =>
        if digits.length ≤ 4 then .error (.problem .badCodeEscape (cur.position + 1))
        else
          match fourHex? digits with
          | none => .error (.problem .badCodeEscape (cur.position + 1))
          | some n =>
            if isHighSurrogate n then
              match secondHalf? (digits.drop 4) with
              | .error () => .error (.problem .badCodeEscape (cur.position + 7))
              | .ok (some m) =>
                let joined := 0x10000 + (n - 0xD800) * 0x400 + (m - 0xDC00)
                readText start fuel (Char.ofNat joined :: acc) (cur.advance 12)
              | .ok none => readText start fuel acc { cur.advance 6 with halved := true }
            else if isLowSurrogate n then
              readText start fuel acc { cur.advance 6 with halved := true }
            else readText start fuel (Char.ofNat n :: acc) (cur.advance 6)
      | c :: _ =>
        match simpleEscape? c with
        | some d => readText start fuel (d :: acc) (cur.advance 2)
        | none => .error (.problem .badEscape cur.position)
    | c :: _ =>
      if c.toNat ≤ 0x1F then .error (.problem .controlCharacter cur.position)
      else readText start fuel (c :: acc) (cur.advance 1)

def readQuoted (cur : Cursor) : Read String :=
  readText (cur.position - 1) (cur.rest.length + 1) [] cur

-- ---------------------------------------------------------------------------
-- Numbers
-- ---------------------------------------------------------------------------

open Number (isDigit digitsValue)

/-- The digits of a whole number without a leading zero before others; none when there are none. -/
def wholeDigits : List Char → List Char
  | '0' :: _ => ['0']
  | cs => cs.takeWhile isDigit

def fractionDigits : List Char → List Char
  | '.' :: rest => rest.takeWhile isDigit
  | _ => []

def exponentPart : List Char → Option (Int × Nat)
  | c :: rest =>
    if c = 'e' ∨ c = 'E' then
      let (negative, digits) := Number.takeSign rest
      let digits := digits.takeWhile isDigit
      if digits.isEmpty then none
      else
        let signLength := match rest with
          | '-' :: _ => 1
          | '+' :: _ => 1
          | _ => 0
        let n : Int := digitsValue 0 digits
        some (if negative then -n else n, 1 + signLength + digits.length)
    else none
  | [] => none

def readNumber (cur : Cursor) : Read Value :=
  let negative := cur.rest.head? == some '-'
  let signLength := if negative then 1 else 0
  let body := cur.rest.drop signLength
  let whole := wholeDigits body
  if whole.isEmpty then .error (.problem .expectedValue cur.position)
  else
    let afterWhole := body.drop whole.length
    let fraction := fractionDigits afterWhole
    let fractionLength := if fraction.isEmpty then 0 else fraction.length + 1
    let part := exponentPart (afterWhole.drop fractionLength)
    let length := signLength + whole.length + fractionLength
    match fraction, part with
    | [], none =>
      let n : Int := digitsValue 0 whole
      let n := if negative then -n else n
      if short : Number.Short n then .ok (.int n short, cur.advance length)
      else .error (.longNumber whole.length)
    | _, _ =>
      let (e, partLength) := part.getD (0, 0)
      let x := Number.ofDecimal negative (digitsValue 0 (whole ++ fraction)) (e - fraction.length)
      .ok (.real x, cur.advance (length + partLength))

def words : List (List Char × Value) :=
  [("null".toList, .null), ("true".toList, .bool true), ("false".toList, .bool false),
   ("NaN".toList, .real .nan), ("Infinity".toList, .real (.infinity false)),
   ("-Infinity".toList, .real (.infinity true))]

-- ---------------------------------------------------------------------------
-- Values
-- ---------------------------------------------------------------------------

mutual
def readValue : Nat → Nat → Cursor → Read Value
  | 0, _, cur => .error (.problem .expectedValue cur.position)
  | fuel + 1, depth, cur =>
    match cur.rest with
    | '"' :: _ =>
      match readQuoted (cur.advance 1) with
      | .error e => .error e
      | .ok (s, cur) => .ok (.str s, cur)
    | '[' :: _ =>
      if nestingLimit ≤ depth then .error .deepNesting
      else
        let inner := (cur.advance 1).skipSpaces
        match inner.rest with
        | ']' :: _ => .ok (.list [], inner.advance 1)
        | _ =>
          match readItems fuel (depth + 1) [] inner with
          | .error e => .error e
          | .ok (items, cur) => .ok (.list items, cur)
    | '{' :: _ =>
      if nestingLimit ≤ depth then .error .deepNesting
      else
        let inner := (cur.advance 1).skipSpaces
        match inner.rest with
        | '}' :: _ => .ok (.object [], inner.advance 1)
        | _ =>
          match readFields fuel (depth + 1) [] inner with
          | .error e => .error e
          | .ok (fields, cur) => .ok (.object fields, cur)
    | _ =>
      match words.find? fun word => word.1.isPrefixOf cur.rest with
      | some (word, v) => .ok (v, cur.advance word.length)
      | none => readNumber cur
/-- The items of a list and its closing bracket; `acc` holds those already read, last first. -/
def readItems : Nat → Nat → List Value → Cursor → Read (List Value)
  | 0, _, _, cur => .error (.problem .expectedValue cur.position)
  | fuel + 1, depth, acc, cur =>
    match readValue fuel depth cur with
    | .error e => .error e
    | .ok (v, cur) =>
      let cur := cur.skipSpaces
      match cur.rest with
      | ']' :: _ => .ok ((v :: acc).reverse, cur.advance 1)
      | ',' :: _ => readItems fuel depth (v :: acc) (cur.advance 1).skipSpaces
      | _ => .error (.problem .expectedComma cur.position)
def readFields : Nat → Nat → List (String × Value) → Cursor → Read (List (String × Value))
  | 0, _, _, cur => .error (.problem .expectedName cur.position)
  | fuel + 1, depth, acc, cur =>
    match cur.rest with
    | '"' :: _ =>
      match readQuoted (cur.advance 1) with
      | .error e => .error e
      | .ok (name, cur) =>
        let cur := cur.skipSpaces
        match cur.rest with
        | ':' :: _ =>
          match readValue fuel depth (cur.advance 1).skipSpaces with
          | .error e => .error e
          | .ok (v, cur) =>
            let cur := cur.skipSpaces
            let acc := Value.assign name v acc
            match cur.rest with
            | '}' :: _ => .ok (acc, cur.advance 1)
            | ',' :: _ => readFields fuel depth acc (cur.advance 1).skipSpaces
            | _ => .error (.problem .expectedComma cur.position)
        | _ => .error (.problem .expectedColon cur.position)
    | _ => .error (.problem .expectedName cur.position)
end

-- ---------------------------------------------------------------------------
-- Documents
-- ---------------------------------------------------------------------------

def lineColumn (cs : List Char) (position : Nat) : Nat × Nat :=
  let before := cs.take position
  let line := before.count '\n' + 1
  let column := (before.reverse.takeWhile (· != '\n')).length + 1
  (line, column)

def readDocument (cs : List Char) : Except Stop Value :=
  if cs.head? == some (Char.ofNat 0xFEFF) then .error (.problem .byteOrderMark 0)
  else
    match readValue (2 * cs.length + 2) 0 (Cursor.skipSpaces { rest := cs, position := 0 }) with
    | .error e => .error e
    | .ok (v, cur) =>
      let cur := cur.skipSpaces
      if !cur.rest.isEmpty then .error (.problem .extraData cur.position)
      else if cur.halved then .error .unpairedHalf
      else .ok v

def read (text : String) : Except ReadFault Value :=
  let cs := text.toList
  match readDocument cs with
  | .ok v => .ok v
  | .error (.problem p position) =>
    let (line, column) := lineColumn cs position
    .error (.malformed p line column position)
  | .error (.longNumber n) => .error (.longNumber n)
  | .error .deepNesting => .error .deepNesting
  | .error .unpairedHalf => .error .unpairedHalf

def ReadFault.message : ReadFault → String
  | .malformed p line column position =>
    s!"{p.message}: line {line} column {column} (char {position})"
  | .longNumber n => (Number.WholeFault.tooLong n).message
  | .deepNesting => "maximum recursion depth exceeded while decoding a JSON document"
  | .unpairedHalf => "surrogates not allowed"

end DependencyGate.Json
