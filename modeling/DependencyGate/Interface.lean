import DependencyGate.Fault

/-!
# The public interface

The names that the package offers, and its version.
-/

namespace DependencyGate.Interface

def version : String := "0.1.0"

def publicNames : List String :=
  ["DependentExecute", "DependentTask", "DependencyItemEvaluator", "DateIntervalResolver",
   "DependentDeclaration", "DependentItem", "DependentParameters", "DependentRelation",
   "DependResult", "ExecutionHistoryRepository", "create_session_factory", "__version__"]

/-- Parts of the package and what describes it. -/
def innerNames : List String :=
  ["cli", "core", "logger", "__all__", "__builtins__", "__cached__", "__class__", "__dict__",
   "__doc__", "__file__", "__getattr__", "__loader__", "__name__", "__package__", "__path__",
   "__spec__"]

def find (name : String) : Except Foreign Unit :=
  if publicNames.contains name || innerNames.contains name then .ok ()
  else .error (.noExport name)

end DependencyGate.Interface
