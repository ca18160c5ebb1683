/-!
# Blanks and parts

White space in the sense of Unicode, together with the four ASCII information
separators. Zero-width characters and the byte order mark are not blank. `words` cuts a
text at its blanks, `parts` at every occurrence of a character, with one part more than
there are occurrences.
-/

namespace DependencyGate.Text

def isBlank (c : Char) : Bool :=
  let n := c.toNat
  (0x09 ≤ n && n ≤ 0x0D) || (0x1C ≤ n && n ≤ 0x20) || n == 0x85 || n == 0xA0 || n == 0x1680 ||
    (0x2000 ≤ n && n ≤ 0x200A) || n == 0x2028 || n == 0x2029 || n == 0x202F || n == 0x205F ||
    n == 0x3000

def trimEnd (cs : List Char) : List Char :=
  (cs.reverse.dropWhile isBlank).reverse

def trimChars (cs : List Char) : List Char :=
  trimEnd (cs.dropWhile isBlank)

def trim (s : String) : String :=
  String.ofList (trimChars s.toList)

/-- The runs of other characters between blanks; `run` was read already and is reversed. -/
def wordsFrom (run : List Char) : List Char → List (List Char)
  | [] => if run.isEmpty then [] else [run.reverse]
  | c :: rest =>
    if isBlank c then
      if run.isEmpty then wordsFrom [] rest else run.reverse :: wordsFrom [] rest
    else wordsFrom (c :: run) rest

def words (cs : List Char) : List (List Char) := wordsFrom [] cs

/-- The parts of a text between occurrences of a character; `part` was read already, reversed. -/
def partsFrom (mark : Char) (part : List Char) : List Char → List (List Char)
  | [] => [part.reverse]
  | c :: rest =>
    if c = mark then part.reverse :: partsFrom mark [] rest else partsFrom mark (c :: part) rest

def parts (mark : Char) (cs : List Char) : List (List Char) := partsFrom mark [] cs

def singleBreaks : List Char → List Char
  | '\r' :: '\n' :: rest => '\n' :: singleBreaks rest
  | '\r' :: rest => '\n' :: singleBreaks rest
  | c :: rest => c :: singleBreaks rest
  | [] => []

def blank (s : String) : Bool :=
  s.toList.all isBlank

end DependencyGate.Text
