import DependencyGate.Fault
import DependencyGate.Text.Blank
import DependencyGate.Text.Percent
import DependencyGate.Text.WordTable

/-!
# Addresses of the history

A database is named by an address such as `sqlite:///history.db?timeout=5`: a dialect with
an optional driver, a user, a host with a service number, a path and options.
`Address.read` takes an address apart. Percent codes in the user, the path and
the options are replaced by what they stand for.
-/

namespace DependencyGate.History

abbrev Query := List (String × List String)

structure Address where
  /-- The dialect and what follows it behind plus signs. -/
  scheme : List String
  user : String
  password : String
  host : String
  /-- The number under which the host offers its service. -/
  service : Option Int
  path : Option String
  query : Query
deriving DecidableEq

namespace Address

def isInMemory (text : String) : Bool := text == "sqlite://" || text == "sqlite:///:memory:"

-- ---------------------------------------------------------------------------
-- Parts
-- ---------------------------------------------------------------------------

def isNameChar (c : Char) : Bool := Text.isWordChar c || c == '+'

def splitLast? (c : Char) (cs : List Char) : Option (List Char × List Char) :=
  match cs.reverse.dropWhile (· != c) with
  | [] => none
  | _ :: before => some (before.reverse, (cs.reverse.takeWhile (· != c)).reverse)

def takeUser (cs : List Char) : (List Char × List Char) × List Char :=
  let user := cs.takeWhile fun c => c != ':' && c != '/'
  let bare := match splitLast? '@' user with
    | some (user, after) =>
      ((user, []), after ++ cs.dropWhile fun c => c != ':' && c != '/')
    | none => (([], []), cs)
  match cs.dropWhile fun c => c != ':' && c != '/' with
  | ':' :: rest =>
    match rest.dropWhile (· != '@') with
    | '@' :: after => ((user, rest.takeWhile (· != '@')), after)
    | _ => bare
  | _ => bare

/-- A host and what follows it; one in brackets may hold colons. -/
def takeHost (cs : List Char) : List Char × List Char :=
  let plain := (cs.takeWhile fun c => c != '/' && c != ':' && c != '?',
    cs.dropWhile fun c => c != '/' && c != ':' && c != '?')
  match cs with
  | '[' :: rest =>
    let inner := rest.takeWhile fun c => c != '/' && c != '?'
    match splitLast? ']' inner with
    | some ([], _) => plain
    | some (host, after) => (host, after ++ rest.dropWhile fun c => c != '/' && c != '?')
    | none => plain
  | _ => plain

def takeService (cs : List Char) : Option (List Char) × List Char :=
  match cs with
  | ':' :: rest =>
    (some (rest.takeWhile fun c => c != '/' && c != '?'),
      rest.dropWhile fun c => c != '/' && c != '?')
  | _ => (none, cs)

def takePath (cs : List Char) : Option (List Char) × List Char :=
  match cs with
  | '/' :: rest => (some (rest.takeWhile (· != '?')), rest.dropWhile (· != '?'))
  | _ => (none, cs)

def takeQuery (cs : List Char) : List Char :=
  match cs with
  | '?' :: rest => rest.takeWhile (· != '\n')
  | _ => []

def readService : Option (List Char) → Except Foreign (Option Int)
  | none => .ok none
  | some [] => .error (.address .emptyService)
  | some cs =>
    match Number.parseWhole (String.ofList cs) with
    | .ok n => .ok (some n)
    | .error f => .error (.wholeText f)

def optionText (cs : List Char) : String :=
  String.ofList (Text.percentDecode (cs.map fun c => if c = '+' then ' ' else c))

def addValue (name value : String) : Query → Query
  | [] => [(name, [value])]
  | (n, values) :: rest =>
    if n = name then (n, values ++ [value]) :: rest else (n, values) :: addValue name value rest

/-- Reads options; those without a value are left out. -/
def readQuery (cs : List Char) : Query :=
  (Text.parts '&' cs).foldl (fun query part =>
    match part.dropWhile (· != '=') with
    | _ :: c :: value =>
      addValue (optionText (part.takeWhile (· != '='))) (optionText (c :: value)) query
    | _ => query) []

def decoded (cs : List Char) : String := String.ofList (Text.percentDecode cs)

def read (text : String) : Except Foreign Address := do
  let cs := text.toList
  match cs.takeWhile isNameChar, cs.dropWhile isNameChar with
  | c :: name, ':' :: '/' :: '/' :: rest =>
    let ((user, password), rest) := takeUser rest
    let (host, rest) := takeHost rest
    let (service, rest) := takeService rest
    let (path, rest) := takePath rest
    let number ← readService service
    return {
      scheme := (Text.parts '+' (c :: name)).map String.ofList
      user := decoded user
      password := decoded password
      host := String.ofList host
      service := number
      path := path.map decoded
      query := readQuery (takeQuery rest) }
  | _, _ => .error (.address .malformed)

end Address
end DependencyGate.History
