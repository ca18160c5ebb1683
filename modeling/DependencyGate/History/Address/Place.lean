import DependencyGate.History.Address.Dialect
import DependencyGate.History.Address.Options
import DependencyGate.History.Table

/-!
# Where addresses lead

An address leads to a file, to an empty database, or to a database that refuses to be
opened at the first lookup. `Address.locate` says where, or what is wrong with the address.
Paths are written without `.` and empty parts, and `..` takes the part before it away.
-/

namespace DependencyGate.History

-- ---------------------------------------------------------------------------
-- Paths
-- ---------------------------------------------------------------------------

/-- Adds a part to the parts of a path, the last first; above a root there is nothing. -/
def addPathPart (rooted : Bool) (parts : List (List Char)) (part : List Char) : List (List Char) :=
  if part = [] ∨ part = ['.'] then parts
  else if part = ['.', '.'] then
    match parts with
    | [] => if rooted then [] else [part]
    | last :: rest => if last = ['.', '.'] then part :: last :: rest else rest
  else part :: parts

def normalPath (cs : List Char) : List Char :=
  let rooted := cs.head? == some '/'
  let parts := ((Text.parts '/' cs).foldl (addPathPart rooted) []).reverse
  let path := ['/'].intercalate parts
  if rooted then '/' :: path else if path.isEmpty then ['.'] else path

def memoryName : String := ":memory:"

def placeOf (path : String) : Place :=
  if path.toList.any fun c => c.toNat == 0 then .refused (.address .nullInPath)
  else if path = "" ∨ path = memoryName then .empty
  else .file (String.ofList (normalPath path.toList))

-- ---------------------------------------------------------------------------
-- References
-- ---------------------------------------------------------------------------

/-- How the file of a reference may be used, as a sum of bits: reading, writing, creating,
memory. -/
abbrev Access := Nat

def memoryAccess : Access := 128

def accessNames : List (String × Access) :=
  [("ro", 1), ("rw", 2), ("rwc", 6), ("memory", memoryAccess)]

def cacheNames : List String := ["shared", "private"]

def systemNames : List String := ["unix", "unix-none", "unix-dotfile", "unix-excl", "memdb"]

structure Reference where
  access : Access := 6
  system : String := "unix"

def Reference.add (r : Reference) (option : String × String) : Option Reference :=
  match option.1 with
  | "mode" =>
    match accessNames.find? fun a => a.1 == option.2 with
    | none => none
    | some (_, access) =>
      if access ≠ memoryAccess ∧ r.access < access then none else some { r with access := access }
  | "cache" => if cacheNames.contains option.2 then some r else none
  | "vfs" => some { r with system := option.2 }
  | _ => some r

/-- A part of a reference without percent codes; it ends at the first null character. -/
def referenceText (cs : List Char) : String :=
  String.ofList ((Text.percentDecode cs).takeWhile fun c => c.toNat != 0)

def referenceOptions (cs : List Char) : List (String × String) :=
  ((Text.parts '&' cs).map fun part =>
    (referenceText (part.takeWhile (· != '=')),
      referenceText ((part.dropWhile (· != '=')).drop 1))).filter fun option => option.1 != ""

/-- The path behind the host of a reference, if the host is this one. -/
def afterLocalHost? (cs : List Char) : Option (List Char) :=
  match cs with
  | '/' :: '/' :: rest =>
    let host := rest.takeWhile (· != '/')
    if host = [] ∨ host = "localhost".toList then some (rest.dropWhile (· != '/')) else none
  | _ => some cs

def unopened : Place := .refused (.database .operational)

/-- The place of a reference: a path and options, up to a number sign. -/
def placeOfReference (cs : List Char) : Place :=
  match afterLocalHost? (cs.takeWhile (· != '#')) with
  | none => unopened
  | some cs =>
    let options := referenceOptions ((cs.dropWhile (· != '?')).drop 1)
    match options.foldlM Reference.add ({} : Reference) with
    | none => unopened
    | some r =>
      if !systemNames.contains r.system then unopened
      else if r.system = "memdb" ∨ r.access = memoryAccess then .empty
      else placeOf (referenceText (cs.takeWhile (· != '?')))

def referenceMark : List Char := "file:".toList

def placeOfName (name : String) : Place :=
  let cs := name.toList
  if cs.any fun c => c.toNat == 0 then .refused (.address .nullInPath)
  else if referenceMark.isPrefixOf cs then placeOfReference (cs.drop referenceMark.length)
  else placeOf name

-- ---------------------------------------------------------------------------
-- Addresses
-- ---------------------------------------------------------------------------

namespace Address

def isRemote (a : Address) : Bool :=
  a.user != "" || a.password != "" || a.host != "" || (a.service.getD 0) != 0

def insertOption (e : String × List String) : Query → Query
  | [] => [e]
  | f :: rest => if f.1 < e.1 then f :: insertOption e rest else e :: f :: rest

def valueText : List String → String
  | [v] => v
  | values => "(" ++ ", ".intercalate (values.map Text.quoted) ++ ")"

def passedOptions (q : Query) : Query :=
  (q.filter fun e => !optionNames.contains e.1).foldr insertOption []

/-- The name that is opened when the path is an address of a file. -/
def referenceName (a : Address) : Except Foreign (Option String) :=
  match a.path, passedOptions a.query with
  | path, [] => .ok path
  | none, _ :: _ => .error (.address .missingPath)
  | some path, options =>
    .ok (some (path ++ "?" ++ "&".intercalate (options.map fun e => s!"{e.1}={valueText e.2}")))

def isNarrow (n : Int) : Bool := -2147483648 ≤ n && n < 2147483648

def place (a : Address) (o : OpenOptions) : Except Foreign Place := do
  let name ← if o.byReference then a.referenceName else .ok (some (a.path.getD ""))
  if !isNarrow o.detectTypes then return .refused (.address .wideOption)
  else if o.badIsolation then return .refused (.address .isolationLevel)
  else if !isNarrow o.cachedStatements then return .refused (.address .wideOption)
  else
    match name with
    | none => return .refused (.address .missingPath)
    | some name => return if o.byReference then placeOfName name else placeOf name

def addOnName : String := "plugin"

def withoutAddOns (q : Query) : Query := q.filter fun e => e.1 != addOnName && e.1 != "plugins"

def locate (text : String) : Except Foreign Place := do
  let a ← read text
  if a.query.any fun e => e.1 == addOnName then .error (.address .unknownDialect)
  else
    match Dialect.checkScheme a.scheme with
    | .error f => .error (.address f)
    | .ok () =>
      if a.isRemote then .error (.address .malformed)
      else
        let query := withoutAddOns a.query
        { a with query := query }.place (← OpenOptions.read query)

end Address
end DependencyGate.History
