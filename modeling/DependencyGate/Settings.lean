import DependencyGate.Environment
import DependencyGate.Fault
import DependencyGate.Number.Literal
import DependencyGate.Number.Quantity
import DependencyGate.Time.Zone

/-!
# Settings

How often a task is polled, how long it may wait, in which zone dates are resolved and
where the history is kept. Settings come from an environment or are given directly;
`Settings.check` reports the first one that is unfit; which zones there are is given.
-/

namespace DependencyGate

open Number (Quantity Binary64)
open Time (ZoneBase)

structure Settings where
  /-- Seconds between two polls. -/
  pollInterval : Quantity := .real (.ofInt 1)
  /-- Seconds after which waiting ends. -/
  timeout : Option Quantity := none
  timezone : Option String := none
  databaseUrl : String := "sqlite:///depflow.db"
deriving DecidableEq

namespace Settings

/-- The polling interval of an environment; what is not a number counts as one second. -/
def readInterval (env : Environment) : Quantity :=
  match (env.get? "DEPFLOW_POLL_INTERVAL").bind Number.parseReal? with
  | some x => .real x
  | none => .real (.ofInt 1)

/-- The timeout of an environment; what is not a number counts as none. -/
def readTimeout (env : Environment) : Option Quantity :=
  ((env.get? "DEPFLOW_DEPENDENT_TIMEOUT").bind Number.parseReal?).map .real

def readTimezone (env : Environment) : Option String :=
  (env.get? "DEPFLOW_TIMEZONE").filter (· != "")

def ofEnvironment (env : Environment) : Settings where
  pollInterval := readInterval env
  timeout := readTimeout env
  timezone := readTimezone env
  databaseUrl := (env.get? "DEPFLOW_DATABASE_URL").getD "sqlite:///depflow.db"

/-- The first problem of settings. A duration that is not a number passes. -/
def check (zones : ZoneBase) (s : Settings) : Except SettingProblem Unit :=
  if s.pollInterval.le (.whole 0) then .error (.pollInterval s.pollInterval.text)
  else if s.timeout.any (·.le (.whole 0)) then
    .error (.timeout ((s.timeout.map Quantity.text).getD ""))
  else if s.timezone.any fun name => !zones.isName name then
    .error (.timezone (s.timezone.getD ""))
  else if s.databaseUrl = "" then .error .databaseUrl
  else .ok ()

end Settings

-- ---------------------------------------------------------------------------
-- Active settings
-- ---------------------------------------------------------------------------

/-- The settings in force, if any were loaded. -/
structure SettingsHolder where
  active : Option Settings := none
deriving DecidableEq

namespace SettingsHolder

section
variable (zones : ZoneBase)

def put (s : Settings) (h : SettingsHolder) : Except SettingProblem Unit × SettingsHolder :=
  match s.check zones with
  | .ok _ => (.ok (), ⟨some s⟩)
  | .error p => (.error p, h)

def reload (env : Environment) (h : SettingsHolder) :
    Except SettingProblem Settings × SettingsHolder :=
  let s := Settings.ofEnvironment env
  match h.put zones s with
  | (.ok _, h) => (.ok s, h)
  | (.error p, h) => (.error p, h)

def get (env : Environment) (h : SettingsHolder) :
    Except SettingProblem Settings × SettingsHolder :=
  match h.active with
  | some s => (.ok s, h)
  | none => h.reload zones env

end

def clear (_ : SettingsHolder) : SettingsHolder := ⟨none⟩

structure Overrides where
  pollInterval : Option Quantity := none
  timeout : Option Quantity := none
  timezone : Option String := none
  databaseUrl : Option String := none
deriving DecidableEq

def Overrides.apply (o : Overrides) (s : Settings) : Settings where
  pollInterval := o.pollInterval.getD s.pollInterval
  timeout := match o.timeout with
    | some t => some t
    | none => s.timeout
  timezone := match o.timezone with
    | some z => some z
    | none => s.timezone
  databaseUrl := o.databaseUrl.getD s.databaseUrl

/-- The active settings with overrides, if they are fit; the overrides do not become active. -/
def resolve (zones : ZoneBase) (env : Environment) (o : Overrides) (h : SettingsHolder) :
    Except SettingProblem Settings × SettingsHolder :=
  match h.get zones env with
  | (.error p, h) => (.error p, h)
  | (.ok s, h) =>
    let s := o.apply s
    match s.check zones with
    | .ok _ => (.ok s, h)
    | .error p => (.error p, h)

end SettingsHolder
end DependencyGate
