import DependencyGate.Json.Value
import DependencyGate.Relation

/-!
# Declarations

A declaration lists the conditions that a task waits for under one relation; a task may
carry several declarations under an outer relation. An item keeps the values it was
given, of whatever kind; `Declaration.Validation` says which of them can be evaluated.
-/

namespace DependencyGate

open Json (Value)

/-- The target that stands for a whole process execution. -/
def wholeProcess : String := "ALL"

/-- One condition: that a process, or a task of one, succeeded in a period. -/
structure Item where
  /-- What the item is told apart by; a text, unless the item was built by hand. -/
  key : Value
  definitionId : Value
  /-- A task's name, or `wholeProcess`. -/
  target : Value
  /-- A date expression. -/
  date : Value
deriving DecidableEq

namespace Item

def dependsOnAll (item : Item) : Bool := item.target = .str wholeProcess

def defaultKey (definitionId target date : Value) : String :=
  s!"{definitionId.plain}-{target.plain}-{date.plain}"

def toDocument (item : Item) : Value :=
  .object [("key", item.key), ("definitionId", item.definitionId),
    ("depTasks", item.target), ("dateValue", item.date)]

end Item

/-- A relation as it was given: one of the two, or some other value. -/
inductive GivenRelation
  | known (r : Relation)
  | other (v : Value)
deriving DecidableEq

namespace GivenRelation

def shown : GivenRelation → String
  | .known r => r.name
  | .other v => v.shown

end GivenRelation

structure Declaration where
  items : List Item
  relation : GivenRelation := .known .all
deriving DecidableEq

def Relation.upperName : Relation → String
  | .all => "AND"
  | .any => "OR"

def Declaration.toDocument (r : Relation) (items : List Item) : Value :=
  .object [("relation", .str r.upperName), ("dependItemList", .list (items.map Item.toDocument))]

structure Parameters where
  declarations : List Declaration
  relation : GivenRelation := .known .all
deriving DecidableEq

end DependencyGate
