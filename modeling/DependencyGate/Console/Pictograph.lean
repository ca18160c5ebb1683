import DependencyGate.Console.Pictograph.AtoB
import DependencyGate.Console.Pictograph.CtoD
import DependencyGate.Console.Pictograph.EtoF
import DependencyGate.Console.Pictograph.GtoL
import DependencyGate.Console.Pictograph.M
import DependencyGate.Console.Pictograph.NtoR
import DependencyGate.Console.Pictograph.StoV
import DependencyGate.Console.Pictograph.WtoZ
import DependencyGate.Text.Blank
import DependencyGate.Text.Lower

/-!
# Pictographs

A name between two colons stands for a pictograph. The name may end in `-emoji` or
`-text`, which asks for that form of it. `replaceAll` puts pictographs in place of
their names; between colons that enclose no known name, and in names with blanks, nothing
changes.
-/

namespace DependencyGate.Console.Pictograph

/-- The names that start with a character, each followed by its pictograph. -/
def table (first : Char) : String :=
  match first with
  | 'a' => letterA
  | 'b' => letterB
  | 'c' => letterC
  | 'd' => letterD
  | 'e' => letterE
  | 'f' => letterF
  | 'g' => letterG
  | 'h' => letterH
  | 'i' => letterI
  | 'j' => letterJ
  | 'k' => letterK
  | 'l' => letterL
  | 'm' => letterM
  | 'n' => letterN
  | 'o' => letterO
  | 'p' => letterP
  | 'q' => letterQ
  | 'r' => letterR
  | 's' => letterS
  | 't' => letterT
  | 'u' => letterU
  | 'v' => letterV
  | 'w' => letterW
  | 'x' => letterX
  | 'y' => letterY
  | 'z' => letterZ
  | _ => signs

def entry? (name : List Char) : List (List Char) → Option (List Char)
  | n :: pictograph :: rest => if n = name then some pictograph else entry? name rest
  | _ => none

def find? (name : List Char) : Option (List Char) :=
  match name with
  | [] => none
  | first :: _ => entry? name (Text.words (table first).toList)

/-- The endings of a name that ask for a form, each with the character that gives the form. -/
def forms : List (List Char × Char) :=
  [("-emoji".toList, Char.ofNat 0xFE0F), ("-text".toList, Char.ofNat 0xFE0E)]

def splitForm (code : List Char) : List Char × List Char :=
  match forms.find? fun form => form.1.isSuffixOf code with
  | some (ending, mark) => (code.take (code.length - ending.length), [mark])
  | none => (code, [])

def shown (code : List Char) : List Char :=
  let (name, mark) := splitForm code
  match find? (Text.lower (String.ofList name)).toList with
  | some pictograph => pictograph ++ mark
  | none => ':' :: code ++ [':']

/-- Replaces names; `code` is what was read behind a colon, reversed. -/
def replaceFrom : Option (List Char) → List Char → List Char
  | none, [] => []
  | some code, [] => ':' :: code.reverse
  | none, c :: rest => if c = ':' then replaceFrom (some []) rest else c :: replaceFrom none rest
  | some code, c :: rest =>
    if c = ':' then shown code.reverse ++ replaceFrom none rest
    else if Text.isBlank c then ':' :: code.reverse ++ c :: replaceFrom none rest
    else replaceFrom (some (c :: code)) rest

def replaceAll (cs : List Char) : List Char := replaceFrom none cs

end DependencyGate.Console.Pictograph
