import DependencyGate.Console.Color

/-!
# Styles

A style is written as words: attributes such as `bold`, an attribute behind `not`, a
colour, a colour of the ground behind `on`, an address behind `link`. `Style.text` writes
the words in a fixed order, so that styles of one effect have one text, and `normalForm`
does this for every text that can be read as a style.
-/

namespace DependencyGate.Console

inductive Attribute
  | bold
  | dim
  | italic
  | underline
  | blink
  | blink2
  | reverse
  | conceal
  | strike
  | underline2
  | frame
  | encircle
  | overline
deriving DecidableEq, Repr

namespace Attribute

def all : List Attribute :=
  [.bold, .dim, .italic, .underline, .blink, .blink2, .reverse, .conceal, .strike, .underline2,
    .frame, .encircle, .overline]

def name : Attribute → String
  | .bold => "bold"
  | .dim => "dim"
  | .italic => "italic"
  | .underline => "underline"
  | .blink => "blink"
  | .blink2 => "blink2"
  | .reverse => "reverse"
  | .conceal => "conceal"
  | .strike => "strike"
  | .underline2 => "underline2"
  | .frame => "frame"
  | .encircle => "encircle"
  | .overline => "overline"

def shortNames : List (String × Attribute) :=
  [("d", .dim), ("b", .bold), ("i", .italic), ("u", .underline), ("r", .reverse), ("c", .conceal),
   ("s", .strike), ("uu", .underline2), ("o", .overline)]

def ofName? (word : List Char) : Option Attribute :=
  let word := String.ofList word
  match all.find? fun a => a.name == word with
  | some a => some a
  | none => (shortNames.find? fun n => n.1 == word).map (·.2)

end Attribute

structure Style where
  /-- Attributes that are set on or off; of several settings the first one counts. -/
  attributes : List (Attribute × Bool) := []
  color : Option (List Char) := none
  ground : Option (List Char) := none
  link : Option (List Char) := none
deriving DecidableEq, Repr

namespace Style

def set (s : Style) (a : Attribute) (on : Bool) : Style :=
  { s with attributes := (a, on) :: s.attributes }

def setting? (s : Style) (a : Attribute) : Option Bool :=
  (s.attributes.find? fun e => e.1 == a).map (·.2)

def readWords (s : Style) : List (List Char) → Except ColorFault Style
  | [] => .ok s
  | word :: rest =>
    let name := (Text.lower (String.ofList word)).toList
    if name = "on".toList then
      match rest with
      | [] => .error .unknown
      | color :: rest => do readWords { s with ground := some (← readColor color) } rest
    else if name = "not".toList then
      match rest with
      | [] => .error .unknown
      | named :: rest =>
        match Attribute.ofName? named with
        | none => .error .unknown
        | some a => readWords (s.set a false) rest
    else if name = "link".toList then
      match rest with
      | [] => .error .unknown
      | link :: rest => readWords { s with link := some link } rest
    else
      match Attribute.ofName? name with
      | some a => readWords (s.set a true) rest
      | none => do readWords { s with color := some (← readColor name) } rest

def read (cs : List Char) : Except ColorFault Style :=
  let words := Text.words cs
  if words = ["none".toList] then .ok {} else readWords {} words

def attributeWords (s : Style) (a : Attribute) : List (List Char) :=
  match s.setting? a with
  | none => []
  | some true => [a.name.toList]
  | some false => ["not".toList, a.name.toList]

def marked (mark : String) : Option (List Char) → List (List Char)
  | none => []
  | some word => [mark.toList, word]

def text (s : Style) : List Char :=
  let words := Attribute.all.flatMap s.attributeWords ++ s.color.toList ++ marked "on" s.ground ++
    marked "link" s.link
  if words.isEmpty then "none".toList else [' '].intercalate words

/-- The text of the style that a text stands for; other texts are lower-cased. -/
def normalForm (cs : List Char) : Except Number.WholeFault (List Char) :=
  match read cs with
  | .ok s => .ok s.text
  | .error .unknown => .ok (Text.lower (String.ofList (Text.trimChars cs))).toList
  | .error (.part f) => .error f

end Style
end DependencyGate.Console
