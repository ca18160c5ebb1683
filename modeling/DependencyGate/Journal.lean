/-!
# The journal

Every part of the gate writes its own entries, each at a level. A reader who asks for
a level sees the entries of that level and above, in the order they were written.
-/

namespace DependencyGate.Journal

inductive Level
  | debug
  | info
  | warning
  | error
  | critical
deriving DecidableEq, Repr, Inhabited

namespace Level

def rank : Level → Nat
  | .debug => 10
  | .info => 20
  | .warning => 30
  | .error => 40
  | .critical => 50

def name : Level → String
  | .debug => "DEBUG"
  | .info => "INFO"
  | .warning => "WARNING"
  | .error => "ERROR"
  | .critical => "CRITICAL"

def all : List Level := [.debug, .info, .warning, .error, .critical]

def ofName? (s : String) : Option Level := all.find? fun level => level.name == s

end Level

inductive Part
  | validation
  | selection
  | evaluation
  | gate
  | task
  | history
  | settings
  | commands
deriving DecidableEq, Repr

def Part.name : Part → String
  | .validation => "depflow.core.dependency.validator"
  | .selection => "depflow.core.dependency.selector"
  | .evaluation => "depflow.core.dependency.evaluator"
  | .gate => "depflow.core.dependency.dependent_execute"
  | .task => "depflow.core.dependency.dependent_task"
  | .history => "depflow.core.storage.sqlalchemy.history_repository"
  | .settings => "depflow.core.config_manager"
  | .commands => "depflow.cli.commands.dependent"

structure Entry where
  level : Level
  part : Part
  message : String
deriving DecidableEq, Repr

def visible (level : Level) (entries : List Entry) : List Entry :=
  entries.filter fun entry => level.rank ≤ entry.level.rank

-- ---------------------------------------------------------------------------
-- Names and thresholds
-- ---------------------------------------------------------------------------

def rootName : String := "depflow"

/-- The full name of a part that asks for its place by `name`; foreign names are nested. -/
def qualifiedName (name : Option String) : String :=
  match name with
  | none => rootName
  | some name =>
    if name = "" ∨ name = rootName then rootName
    else if (rootName ++ ".").toList.isPrefixOf name.toList then name
    else rootName ++ "." ++ name

def thresholds : List (String × String) :=
  [("CRITICAL", "CRITICAL"), ("FATAL", "CRITICAL"), ("ERROR", "ERROR"), ("WARNING", "WARNING"),
   ("WARN", "WARNING"), ("INFO", "INFO"), ("DEBUG", "DEBUG"), ("NOTSET", "NOTSET")]

/-- Upper case as far as it can make a threshold's name: the dotless i and the long s count. -/
def upperChar (c : Char) : Char :=
  if c.toNat = 0x131 then 'I' else if c.toNat = 0x17F then 'S' else c.toUpper

def threshold (setting : Option String) : String :=
  match setting with
  | none => "INFO"
  | some s =>
    ((thresholds.find? fun t => t.1.toList == s.toList.map upperChar).map (·.2)).getD "INFO"

end DependencyGate.Journal
