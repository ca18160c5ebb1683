import DependencyGate.Json.Reader
import DependencyGate.Number.Whole
import DependencyGate.Time.IsoText

/-!
# Faults

What can go wrong is one of two things. An incident is reported in the gate's own
terms: its kind, what happened, why, how to fix it and some context. A foreign fault
comes from a part the gate relies on, or from a value of the wrong kind; it is a cause
with a class and a message. `Incident.unavailable` turns a foreign fault of a
collaborator into an incident.
-/

namespace DependencyGate

-- ---------------------------------------------------------------------------
-- Foreign faults
-- ---------------------------------------------------------------------------

inductive FaultClass
  | connection
  | os
  | runtime
  | value
  | key
  | timeout
  | type
  | overflow
  | attribute
  | decoding
  | encoding
  | unknownZone
  | malformedDocument
  | recursion
  | operational
  | integrity
  | binding
  | malformedUrl
  | unknownDialect
  | missingDriver
  | markup
deriving DecidableEq, Repr

def FaultClass.name : FaultClass → String
  | .connection => "ConnectionError"
  | .os => "OSError"
  | .runtime => "RuntimeError"
  | .value => "ValueError"
  | .key => "KeyError"
  | .timeout => "TimeoutError"
  | .type => "TypeError"
  | .overflow => "OverflowError"
  | .attribute => "AttributeError"
  | .decoding => "UnicodeDecodeError"
  | .encoding => "UnicodeEncodeError"
  | .unknownZone => "UnknownTimeZoneError"
  | .malformedDocument => "JSONDecodeError"
  | .recursion => "RecursionError"
  | .operational => "OperationalError"
  | .integrity => "IntegrityError"
  | .binding => "ProgrammingError"
  | .malformedUrl => "ArgumentError"
  | .unknownDialect => "NoSuchModuleError"
  | .missingDriver => "ModuleNotFoundError"
  | .markup => "MarkupError"

/-- Classes that are special cases of an unfit value. What is not encoded is only met in printing,
and then it is no longer caught. -/
def FaultClass.isValueClass : FaultClass → Bool
  | .value => true
  | .decoding => true
  | .malformedDocument => true
  | _ => false

inductive NameSet
  | status
  | verdict
  | relation
  | runMode
deriving DecidableEq, Repr

def NameSet.name : NameSet → String
  | .status => "ExecutionStatus"
  | .verdict => "DependResult"
  | .relation => "DependentRelation"
  | .runMode => "RunMode"

inductive SettingProblem
  | pollInterval (shown : String)
  | timeout (shown : String)
  | timezone (name : String)
  | databaseUrl
deriving DecidableEq, Repr

def SettingProblem.message : SettingProblem → String
  | .pollInterval shown => s!"poll_interval_seconds must be positive, got {shown}"
  | .timeout shown => s!"timeout_seconds must be positive, got {shown}"
  | .timezone name => s!"Unknown timezone: {name}"
  | .databaseUrl => "database_url must not be empty"

inductive AddressFault
  | malformed
  | unknownDialect
  | missingDriver
  /-- The driver's name is that of something else in the dialect. -/
  | notDriver
  /-- The dialect has more than one driver. -/
  | manyDrivers
  /-- A service is announced but has no number. -/
  | emptyService
  /-- An option that takes one value is given several. -/
  | repeatedOption
  /-- A whole number does not fit into 32 bits. -/
  | wideOption
  | isolationLevel
  | missingPath
  /-- A path holds a character that ends it. -/
  | nullInPath
deriving DecidableEq, Repr

def AddressFault.cls : AddressFault → FaultClass
  | .malformed => .malformedUrl
  | .unknownDialect => .unknownDialect
  | .missingDriver => .missingDriver
  | .notDriver => .attribute
  | .manyDrivers => .value
  | .emptyService => .type
  | .repeatedOption => .type
  | .wideOption => .overflow
  | .isolationLevel => .value
  | .missingPath => .type
  | .nullInPath => .value

def AddressFault.message : AddressFault → String
  | .malformed => "malformed address"
  | .unknownDialect => "unknown dialect"
  | .missingDriver => "missing driver"
  | .notDriver => "not a driver"
  | .manyDrivers => "too many values to unpack (expected 2)"
  | .emptyService => "a service is announced but has no number"
  | .repeatedOption => "an option that takes one value is given several"
  | .wideOption => "Python int too large to convert to C int"
  | .isolationLevel =>
    "isolation_level string must be '', 'DEFERRED', 'IMMEDIATE', or 'EXCLUSIVE'"
  | .missingPath => "expected str, bytes or os.PathLike object, not NoneType"
  | .nullInPath => "embedded null byte"

/-- A fault that is not one of the gate's own incidents, by its cause. -/
inductive Foreign
  | time (f : Time.Fault)
  | momentText (f : Time.ParseFault)
  /-- The bytes of a file are no text. -/
  | undecodable (complaint : String)
  | document (f : Json.ReadFault)
  | unknownExpression (e : Json.Value)
  /-- A list or an object stands where a key is looked up. -/
  | unfitKey (kind : Json.Value.Kind)
  | unknownZone (name : String)
  /-- A whole number does not fit into 64 bits. -/
  | wideInteger
  | notMember (v : Json.Value) (set : NameSet)
  | unknownRelation (v : Json.Value)
  | missingField (name : String)
  | notContainer (kind : Json.Value.Kind)
  | notIterable (kind : Json.Value.Kind)
  | textIndex
  | listIndex
  | noAttribute (kind : Json.Value.Kind) (name : String)
  | lockedSnapshot
  | noGates
  | setting (p : SettingProblem)
  /-- The history database refuses: a table is missing, a row breaks a rule, a value is unfit. -/
  | database (cls : FaultClass)
  /-- A text stands where a whole number is read. -/
  | wholeText (f : Number.WholeFault)
  /-- A text stands where a number is read. -/
  | realText (text : String)
  /-- A text stands where a truth value is read. -/
  | truthText (text : String)
  | address (f : AddressFault)
  /-- A closing tag in a printed text matches no open one. -/
  | markup (tag : String)
  /-- The package has no member of that name. -/
  | noExport (name : String)
  /-- Raised by a collaborator. -/
  | raised (cls : FaultClass) (message : String)
deriving DecidableEq

namespace Foreign

def cls : Foreign → FaultClass
  | .time .outOfRange => .overflow
  | .time .mixedKinds => .type
  | .time (.reversed ..) => .value
  | .momentText _ => .value
  | .undecodable _ => .decoding
  | .document (.malformed ..) => .malformedDocument
  | .document (.longNumber _) => .value
  | .document .deepNesting => .recursion
  | .document .unpairedHalf => .encoding
  | .unknownExpression _ => .value
  | .unfitKey _ => .type
  | .unknownZone _ => .unknownZone
  | .wideInteger => .overflow
  | .notMember .. => .value
  | .unknownRelation _ => .value
  | .missingField _ => .key
  | .notContainer _ => .type
  | .notIterable _ => .type
  | .textIndex => .type
  | .listIndex => .type
  | .noAttribute .. => .attribute
  | .lockedSnapshot => .type
  | .noGates => .value
  | .setting _ => .value
  | .database cls => cls
  | .wholeText _ => .value
  | .realText _ => .value
  | .truthText _ => .value
  | .address f => f.cls
  | .markup _ => .markup
  | .noExport _ => .attribute
  | .raised cls _ => cls

/-- The message of a fault raised with a text: keys are quoted. -/
def raisedMessage (cls : FaultClass) (message : String) : String :=
  if cls = .key ∨ cls = .unknownZone then Text.quoted message else message

def message : Foreign → String
  | .time .outOfRange => "date value out of range"
  | .time .mixedKinds => "can't compare offset-naive and offset-aware datetimes"
  | .time (.reversed start stop) => s!"Interval start {start.text} is after end {stop.text}"
  | .momentText f => f.message
  | .undecodable complaint => complaint
  | .document f => f.message
  | .unknownExpression e => s!"Unknown date expression: {e.plain}"
  | .unfitKey kind => s!"unhashable type: '{kind.name}'"
  | .unknownZone name => Text.quoted name
  | .wideInteger => "Python int too large to convert to SQLite INTEGER"
  | .notMember v set => s!"{v.shown} is not a valid {set.name}"
  | .unknownRelation v => s!"Unknown dependent relation: {v.plain}"
  | .missingField name => Text.quoted name
  | .notContainer kind => s!"argument of type '{kind.name}' is not iterable"
  | .notIterable kind => s!"'{kind.name}' object is not iterable"
  | .textIndex => "string indices must be integers, not 'str'"
  | .listIndex => "list indices must be integers or slices, not str"
  | .noAttribute kind name => s!"'{kind.name}' object has no attribute '{name}'"
  | .lockedSnapshot => "'mappingproxy' object does not support item assignment"
  | .noGates => "DependentTask requires at least one DependentExecute"
  | .setting p => p.message
  | .database _ => ""
  | .wholeText f => f.message
  | .realText text => s!"could not convert string to float: {Text.quoted text}"
  | .truthText text => s!"String is not true/false: {Text.quoted text}"
  | .address f => f.message
  | .markup tag => s!"closing tag '{tag}' doesn't match any open tag"
  | .noExport name => s!"module 'depflow' has no attribute {Text.quoted name}"
  | .raised cls message => raisedMessage cls message

end Foreign

def checkKey (v : Json.Value) : Except Foreign Unit :=
  if v.isKey then .ok () else .error (.unfitKey v.kind)

-- ---------------------------------------------------------------------------
-- Incidents
-- ---------------------------------------------------------------------------

inductive IncidentKind
  | base
  | business
  | validation
  | configuration
  | declaration
  | system
  | unavailable
  | storage
deriving DecidableEq, Repr

namespace IncidentKind

def all : List IncidentKind :=
  [.base, .business, .validation, .configuration, .declaration, .system, .unavailable, .storage]

def name : IncidentKind → String
  | .base => "DepflowError"
  | .business => "BusinessError"
  | .validation => "ValidationError"
  | .configuration => "ConfigurationError"
  | .declaration => "DeclarationError"
  | .system => "SystemError"
  | .unavailable => "CollaboratorUnavailableError"
  | .storage => "StorageError"

def ofName? (s : String) : Option IncidentKind := all.find? fun kind => kind.name == s

def parent? : IncidentKind → Option IncidentKind
  | .base => none
  | .business => some .base
  | .validation => some .business
  | .configuration => some .business
  | .declaration => some .configuration
  | .system => some .base
  | .unavailable => some .system
  | .storage => some .unavailable

/-- A kind and its ancestors; no branch is longer than four. -/
def lineage (kind : IncidentKind) : List IncidentKind :=
  let rec go : Nat → IncidentKind → List IncidentKind
    | 0, k => [k]
    | fuel + 1, k => k :: (match k.parent? with
      | none => []
      | some p => go fuel p)
  go 4 kind

def lineageNames (kind : IncidentKind) : List String :=
  kind.lineage.map name ++ ["RuntimeError", "Exception", "BaseException"]

end IncidentKind

/-- A context: named values, each name once, in the order they were given. -/
abbrev Context := List (String × Json.Value)

structure Incident where
  kind : IncidentKind
  /-- Used when nothing says what happened. -/
  message : String
  what : Option String := none
  why : Option String := none
  howToFix : Option String := none
  context : Context := []
  /-- The foreign fault behind it. -/
  cause : Option Foreign := none
deriving DecidableEq

namespace Incident

def part (label : String) (text : Option String) : String :=
  match text with
  | none => ""
  | some "" => ""
  | some s => "\n\n" ++ label ++ s

def contextLine (entry : String × Json.Value) : String :=
  s!"  - {entry.1}: {entry.2.plain}"

def text (i : Incident) : String :=
  match i.what with
  | none => i.message
  | some "" => i.message
  | some what =>
    "❌ " ++ what ++ part "💡 Reason: " i.why ++ part "✅ Solution: " i.howToFix ++
      (if i.context.isEmpty then ""
       else "\n\n📝 Context:\n" ++ "\n".intercalate (i.context.map contextLine))

/-- A collaborator did not answer because of a foreign fault. -/
def unavailable (collaborator : String) (context : Context) (f : Foreign) : Incident where
  kind := .unavailable
  message := s!"{collaborator} failed: {f.message}"
  what := some s!"The {collaborator} did not answer"
  why := some s!"{f.cls.name}: {f.message}"
  howToFix := some "Check the collaborator's availability and poll again"
  context := context
  cause := some f

end Incident

inductive Fault
  | own (i : Incident)
  | foreign (f : Foreign)
deriving DecidableEq

def Fault.text : Fault → String
  | .own i => i.text
  | .foreign f => f.message

end DependencyGate
