import DependencyGate.History.Address
import DependencyGate.Text.Lower

/-!
# Options

The options of an address that say how its database is opened. They are read in a fixed
order, and the first that cannot be read is the fault.
-/

namespace DependencyGate.History

structure OpenOptions where
  /-- The path is itself an address of a file. -/
  byReference : Bool
  detectTypes : Int
  cachedStatements : Int
  /-- The level of isolation is no level. -/
  badIsolation : Bool
deriving DecidableEq, Repr

def optionNames : List String :=
  ["uri", "timeout", "isolation_level", "detect_types", "check_same_thread", "cached_statements"]

namespace Query

def values (q : Query) (name : String) : List String :=
  ((q.find? fun e => e.1 == name).map (·.2)).getD []

def truthWords : List (String × Bool) :=
  [("true", true), ("yes", true), ("on", true), ("y", true), ("t", true), ("1", true),
   ("false", false), ("no", false), ("off", false), ("n", false), ("f", false), ("0", false)]

def readTruth (text : String) : Except Foreign Bool :=
  let word := Text.lower (Text.trim text)
  match truthWords.find? fun w => w.1 == word with
  | some w => .ok w.2
  | none => .error (.truthText word)

def truth (q : Query) (name : String) : Except Foreign Bool :=
  match q.values name with
  | [] => .ok false
  | [v] => readTruth v
  | _ => .ok true

/-- A whole number; none is zero. -/
def whole (q : Query) (name : String) : Except Foreign Int :=
  match q.values name with
  | [] => .ok 0
  | [v] => (Number.parseWhole v).mapError .wholeText
  | _ => .error (.address .repeatedOption)

def checkReal (q : Query) (name : String) : Except Foreign Unit :=
  match q.values name with
  | [] => .ok ()
  | [v] => if (Number.parseReal? v).isSome then .ok () else .error (.realText v)
  | _ => .error (.address .repeatedOption)

end Query

def OpenOptions.read (q : Query) : Except Foreign OpenOptions := do
  let byReference ← q.truth "uri"
  q.checkReal "timeout"
  let badIsolation := 1 < (q.values "isolation_level").length
  let detectTypes ← q.whole "detect_types"
  let _ ← q.truth "check_same_thread"
  let cachedStatements ← q.whole "cached_statements"
  return ⟨byReference, detectTypes, cachedStatements, badIsolation⟩

end DependencyGate.History
