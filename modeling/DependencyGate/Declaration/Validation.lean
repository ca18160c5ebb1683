import DependencyGate.Collaborator
import DependencyGate.Declaration
import DependencyGate.Text.Blank

/-!
# Validation of declarations

A declaration is checked before anything is polled: its relation, that it has items,
and for each item in turn that its key is new, its definition id a positive whole
number, its target a text that is not blank, and its date an expression that the
collaborator supports. The first problem is reported.
-/

namespace DependencyGate

open Json (Value)

def isDefinitionId : Value → Bool
  | .int n _ => 0 < n
  | _ => false

def isTarget : Value → Bool
  | .str s => !Text.blank s
  | _ => false

namespace Incident

def unknownRelation (shown : String) : Incident where
  kind := .declaration
  message := s!"Unknown dependent relation: {shown}"
  what := some "Dependent declaration has an unknown relation"
  why := some s!"Relation {shown} is neither AND nor OR"
  howToFix := some "Use relation 'AND' or 'OR'"

def noItems : Incident where
  kind := .declaration
  message := "Dependent declaration has no items"
  what := some "Dependent declaration has no items"
  why := some "A declaration without items can never be satisfied or refuted"
  howToFix := some "Add at least one dependency item"

def duplicateKey (key : Value) : Incident where
  kind := .declaration
  message := s!"Duplicate dependency item key '{key.plain}'"
  what := some "Dependency item keys must be unique"
  why := some s!"Key '{key.plain}' appears more than once"
  howToFix := some "Give each item a distinct key"
  context := [("key", key)]

def badDefinitionId (item : Item) : Incident where
  kind := .declaration
  message := s!"Invalid definition id {item.definitionId.shown} for item '{item.key.plain}'"
  context := [("key", item.key), ("definition_id", item.definitionId)]

def noTarget (item : Item) : Incident where
  kind := .declaration
  message := s!"Dependency item '{item.key.plain}' has no target task"
  howToFix := some "Set depTasks to 'ALL' or to a task name"
  context := [("key", item.key)]

def unsupportedDate (item : Item) : Incident where
  kind := .declaration
  message := s!"Unsupported date expression {item.date.shown} for item '{item.key.plain}'"
  what := some "Dependency item has an unsupported date expression"
  why := some s!"{item.date.shown} is not known to the interval resolver"
  howToFix := some "Use a supported expression such as 'today' or 'last1Days'"
  context := [("key", item.key), ("date_value", item.date)]

def noDeclarations : Incident where
  kind := .declaration
  message := "Dependent parameters have no declarations"
  howToFix := some "Add at least one entry to dependTaskList"

def unknownOuterRelation (shown : String) : Incident where
  kind := .declaration
  message := s!"Unknown dependent relation: {shown}"

end Incident

variable {σ : Type}

def dateSupported (c : Collaborators σ) (date : Value) : Engine σ Bool :=
  match date with
  | .str s => Engine.askSupport c s
  | _ => pure false

/-- Checks one item; `seen` holds the keys before it. A key that no table takes is a fault. -/
def Item.validate (c : Collaborators σ) (seen : List Value) (item : Item) : Engine σ Unit := do
  Engine.ofForeign (checkKey item.key)
  if seen.any item.key.sameKey then Engine.fail (.duplicateKey item.key)
  else if !isDefinitionId item.definitionId then Engine.fail (.badDefinitionId item)
  else if !isTarget item.target then Engine.fail (.noTarget item)
  else
    if ← dateSupported c item.date then pure ()
    else Engine.fail (.unsupportedDate item)

def validateItems (c : Collaborators σ) : List Value → List Item → Engine σ Unit
  | _, [] => pure ()
  | seen, item :: rest => do
    item.validate c seen
    validateItems c (item.key :: seen) rest

def Declaration.validate (c : Collaborators σ) (d : Declaration) : Engine σ Relation := do
  match d.relation with
  | .other v => Engine.fail (.unknownRelation v.shown)
  | .known r =>
    if d.items.isEmpty then Engine.fail .noItems
    else
      validateItems c [] d.items
      Engine.note .debug .validation
        s!"Validated dependent declaration with {d.items.length} items"
      return r

def Parameters.validate (p : Parameters) : Except Incident Relation :=
  if p.declarations.isEmpty then .error .noDeclarations
  else
    match p.relation with
    | .known r => .ok r
    | .other v => .error (.unknownOuterRelation v.shown)

end DependencyGate
