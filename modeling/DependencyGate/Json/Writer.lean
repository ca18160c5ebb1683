import DependencyGate.Json.Value

/-!
# Writing a JSON document

One line without spaces. Characters below the space, the quotation mark and the
backslash are escaped; everything else stands as it is.
-/

namespace DependencyGate.Json

def writeChar (c : Char) : List Char :=
  if c = '"' || c = '\\' then ['\\', c]
  else if c = '\n' then ['\\', 'n']
  else if c = '\r' then ['\\', 'r']
  else if c = '\t' then ['\\', 't']
  else if c.toNat < 0x20 || c.toNat = 0x7F then '\\' :: 'u' :: Text.hexDigits 4 c.toNat
  else [c]

def writeText (s : String) : String :=
  String.ofList ('"' :: s.toList.flatMap writeChar ++ ['"'])

mutual
def Value.write : Value → String
  | .null => "null"
  | .bool b => if b then "true" else "false"
  | .int n _ => toString n
  | .real x => x.text
  | .str s => writeText s
  | .list items => "[" ++ ",".intercalate (writeItems items) ++ "]"
  | .object fields => "\x7b" ++ ",".intercalate (writeFields fields) ++ "\x7d"
def writeItems : List Value → List String
  | [] => []
  | v :: rest => v.write :: writeItems rest
def writeFields : List (String × Value) → List String
  | [] => []
  | (k, v) :: rest => (writeText k ++ ":" ++ v.write) :: writeFields rest
end

end DependencyGate.Json
