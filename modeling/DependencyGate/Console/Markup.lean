import DependencyGate.Console.Literal
import DependencyGate.Console.Pictograph
import DependencyGate.Console.Style
import DependencyGate.Fault
import DependencyGate.Text.WidthTable
import DependencyGate.Text.WordTable

/-!
# Console markup

Texts for the console may hold style tags in square brackets: `[red]` opens a style,
`[/red]` closes the last one of that name and `[/]` the last one of all. Two names are the
same when they stand for the same style. A tag that starts with `@` names a handler and
may give it parameters. A backslash before a bracket makes it a plain one, and a name
between colons stands for a pictograph. `Markup.plain` gives the characters that remain; a
closing tag without an open one is a fault, and so are parameters of a handler that are
no literal. A tab moves on to the next column whose number is a multiple of eight, counted
from the start of the line.
-/

namespace DependencyGate.Console.Markup

open Text (trimChars)

-- ---------------------------------------------------------------------------
-- Tabs
-- ---------------------------------------------------------------------------

def tabDistance : Nat := 8

/-- Replaces tabs by spaces behind a number of columns of the same line. -/
def expandTabsFrom (column : Nat) : List Char → List Char
  | [] => []
  | c :: rest =>
    if c = '\n' then c :: expandTabsFrom 0 rest
    else if c = '\t' then
      let width := tabDistance - column % tabDistance
      List.replicate width ' ' ++ expandTabsFrom (column + width) rest
    else c :: expandTabsFrom (column + Text.columns c) rest

def expandTabs (cs : List Char) : List Char := expandTabsFrom 0 cs

-- ---------------------------------------------------------------------------
-- Pieces
-- ---------------------------------------------------------------------------

structure Tag where
  name : List Char
  /-- What follows an equals sign. -/
  parameters : Option (List Char)
deriving DecidableEq

inductive Piece
  | plain (cs : List Char)
  | tag (t : Tag)
deriving DecidableEq

def startsTag (c : Char) : Bool := ('a' ≤ c && c ≤ 'z') || c == '#' || c == '/' || c == '@'

def tag? (cs : List Char) : Option (List Char × List Char) :=
  match cs with
  | [] => none
  | c :: rest =>
    if startsTag c then
      match rest.dropWhile fun d => d != ']' && d != '[' with
      | ']' :: after => some (c :: rest.takeWhile fun d => d != ']' && d != '[', after)
      | _ => none
    else none

def Tag.ofText (text : List Char) : Tag where
  name := text.takeWhile (· != '=')
  parameters :=
    match text.dropWhile (· != '=') with
    | _ :: parameters => some parameters
    | [] => none

/-- Plain brackets lose the backslash before them. -/
def unescape : List Char → List Char
  | '\\' :: '[' :: rest => '[' :: unescape rest
  | c :: rest => c :: unescape rest
  | [] => []

/-- The pieces of a tag with `n` backslashes before it: pairs of them are plain ones. -/
def tagPieces (n : Nat) (text : List Char) : List Piece :=
  .plain (List.replicate (n / 2) '\\') ::
    [if n % 2 = 1 then .plain ('[' :: text ++ [']']) else .tag (.ofText text)]

/-- Splits a text into pieces; `fuel` bounds their number, `before` is plain and reversed. -/
def pieces : Nat → List Char → List Char → List Piece
  | 0, before, cs => [.plain (before.reverse ++ cs)]
  | fuel + 1, before, cs =>
    match cs with
    | [] => [.plain before.reverse]
    | c :: rest =>
      let slashes := cs.takeWhile (· == '\\')
      match cs.dropWhile (· == '\\') with
      | '[' :: body =>
        match tag? body with
        | some (text, after) =>
          .plain before.reverse :: tagPieces slashes.length text ++ pieces fuel [] after
        | none => pieces fuel ('[' :: slashes ++ before) body
      | _ => pieces fuel (c :: before) rest

-- ---------------------------------------------------------------------------
-- Tags
-- ---------------------------------------------------------------------------

def Tag.styleText (t : Tag) : List Char :=
  match t.parameters with
  | none => t.name
  | some parameters => t.name ++ ' ' :: parameters

def Tag.isHandler (t : Tag) : Bool := t.name.head? == some '@'

def Tag.text (t : Tag) : String :=
  match t.parameters with
  | none => s!"[{String.ofList t.name}]"
  | some parameters => s!"[{String.ofList t.name}={String.ofList parameters}]"

/-- A dotted name, and behind it nothing or something in round brackets on one line. -/
def callBrackets? (cs : List Char) : Option (List Char) :=
  match cs.dropWhile fun c => Text.isWordChar c || c == '.' with
  | [] => some []
  | '(' :: rest =>
    if rest.getLast? == some ')' && !rest.contains '\n' then some ('(' :: rest) else none
  | _ => none

/-- The parameters of a handler can be read: those of a call, or else a literal. -/
def areParameters (cs : List Char) : Bool :=
  let cs := trimChars cs
  match callBrackets? cs with
  | some [] => true
  | some brackets => Literal.isLiteral brackets
  | none => Literal.isLiteral cs

def Tag.canClose (t : Tag) : Bool :=
  match t.isHandler, t.parameters with
  | true, some (c :: parameters) => areParameters (c :: parameters)
  | _, _ => true

-- ---------------------------------------------------------------------------
-- Rendering
-- ---------------------------------------------------------------------------

/-- A tag and the number of characters before it. -/
abbrev OpenTag := Tag × Nat

structure Canvas where
  /-- The characters in reverse order. -/
  shown : List Char := []
  /-- The open tags, the last first. -/
  openTags : List OpenTag := []
  /-- The closed tags with what they enclose. -/
  closed : List (Tag × List Char) := []

def isControl (c : Char) : Bool :=
  let n := c.toNat
  n == 7 || n == 8 || n == 11 || n == 12 || n == 13

def shownText (cs : List Char) : List Char :=
  (Pictograph.replaceAll cs).filter fun c => !isControl c

namespace Canvas

def write (v : Canvas) (cs : List Char) : Canvas :=
  { v with shown := (shownText (unescape cs)).reverse ++ v.shown }

def finish (v : Canvas) (t : OpenTag) : Canvas :=
  { v with closed := (t.1, (v.shown.take (v.shown.length - t.2)).reverse) :: v.closed }

def openTag (v : Canvas) (t : Tag) : Except Foreign Canvas :=
  match Style.normalForm t.name with
  | .error f => .error (.wholeText f)
  | .ok name => .ok { v with openTags := ({ t with name := name }, v.shown.length) :: v.openTags }

def takeTag (name : List Char) : List OpenTag → Option (OpenTag × List OpenTag)
  | [] => none
  | t :: rest =>
    if t.1.name = name then some (t, rest)
    else (takeTag name rest).map fun (found, rest) => (found, t :: rest)

/-- The open tag that a closing tag closes, and the others. -/
def closedBy (t : Tag) (tags : List OpenTag) : Except Foreign (OpenTag × List OpenTag) := do
  match trimChars (t.name.drop 1), tags with
  | [], [] => .error (.markup t.text)
  | [], last :: rest => return (last, rest)
  | name, tags =>
    match Style.normalForm name with
    | .error f => .error (.wholeText f)
    | .ok name =>
      match takeTag name tags with
      | none => .error (.markup t.text)
      | some found => return found

def closeTag (v : Canvas) (t : Tag) : Except Foreign Canvas := do
  let (found, rest) ← closedBy t v.openTags
  if found.1.canClose then return { v.finish found with openTags := rest }
  else .error (.markup found.1.text)

def add (v : Canvas) : Piece → Except Foreign Canvas
  | .plain cs => .ok (v.write cs)
  | .tag t => if t.name.head? == some '/' then v.closeTag t else v.openTag t

def finishAll (v : Canvas) : Canvas := v.openTags.foldl Canvas.finish { v with openTags := [] }

/-- What a tag encloses is printed. In a text of one line without tabs even nothing is. -/
def isPrinted (v : Canvas) (enclosed : List Char) : Bool :=
  enclosed.any (· != '\n') || !(v.shown.contains '\n' || v.shown.contains '\t')

def checkStyle (v : Canvas) (t : Tag × List Char) : Except Foreign Unit :=
  if t.1.isHandler || !v.isPrinted t.2 then .ok ()
  else
    match Style.normalForm t.1.styleText with
    | .ok _ => .ok ()
    | .error f => .error (.wholeText f)

end Canvas

def plain (text : String) : Except Foreign String := do
  let cs := text.toList
  if cs.contains '[' then
    let canvas := (← (pieces (cs.length + 1) [] cs).foldlM Canvas.add {}).finishAll
    canvas.closed.forM canvas.checkStyle
    return String.ofList (expandTabs canvas.shown.reverse)
  else return String.ofList (expandTabs (shownText cs))

end DependencyGate.Console.Markup
