import DependencyGate.Declaration
import DependencyGate.Fault
import DependencyGate.Text.Blank
import DependencyGate.Text.Lower

/-!
# Reading declarations

Documents name their fields in one of two spellings, the first of which wins. Fields
are looked up and lists are walked in whatever value stands in their place, so that a
complaint names the kind of value that was found. `Parameters.parse` reports what is
wrong with a document as an incident.
-/

namespace DependencyGate

open Json (Value)

-- ---------------------------------------------------------------------------
-- Access to values of any kind
-- ---------------------------------------------------------------------------

def isPartOf (part : List Char) : List Char → Bool
  | [] => part.isEmpty
  | c :: rest => part.isPrefixOf (c :: rest) || isPartOf part rest

/-- A name is found in a value: as a field, as an item, or inside a text. -/
def holdsName (name : String) : Value → Except Foreign Bool
  | .object fields => .ok (Value.lookup name fields).isSome
  | .list items => .ok (items.contains (.str name))
  | .str s => .ok (isPartOf name.toList s.toList)
  | v => .error (.notContainer v.kind)

def atName (name : String) : Value → Except Foreign Value
  | .object fields =>
    match Value.lookup name fields with
    | some v => .ok v
    | none => .error (.missingField name)
  | .list _ => .error .listIndex
  | .str _ => .error .textIndex
  | v => .error (.notContainer v.kind)

/-- The value under the first of two names that is found; the first is reported missing. -/
def pick (data : Value) (name alternative : String) : Except Foreign Value := do
  if ← holdsName name data then atName name data
  else if ← holdsName alternative data then atName alternative data
  else .error (.missingField name)

/-- What a loop over a value meets: items, characters or field names. -/
def elements : Value → Except Foreign (List Value)
  | .list items => .ok items
  | .str s => .ok (s.toList.map fun c => .str (String.ofList [c]))
  | .object fields => .ok (fields.map fun field => .str field.1)
  | v => .error (.notIterable v.kind)

-- ---------------------------------------------------------------------------
-- Relations, items, declarations
-- ---------------------------------------------------------------------------

def Relation.read (v : Value) : Except Foreign Relation :=
  let name := Text.lower (Text.trim v.plain)
  match Relation.ofName? name with
  | some r => .ok r
  | none => .error (.notMember (.str name) .relation)

/-- The relation of an object; both hold unless it names one. -/
def Relation.readField (data : Value) : Except Foreign Relation :=
  match data.field? "relation" with
  | some v => Relation.read v
  | none => .ok .all

def Item.read (data : Value) : Except Foreign Item := do
  let definitionId ← pick data "definitionId" "definition_id"
  let target ← pick data "depTasks" "dep_tasks"
  let date ← pick data "dateValue" "date_value"
  let key :=
    match data.field? "key" with
    | some v => if v.given then v.plain else Item.defaultKey definitionId target date
    | none => Item.defaultKey definitionId target date
  return ⟨.str key, definitionId, target, date⟩

def Declaration.readParts (data : Value) : Except Foreign (List Item × Relation) := do
  let items ← (← elements (← pick data "dependItemList" "items")).mapM Item.read
  let relation ← Relation.readField data
  return (items, relation)

def Declaration.read (data : Value) : Except Foreign Declaration := do
  let (items, relation) ← Declaration.readParts data
  return ⟨items, .known relation⟩

def Parameters.read (data : Value) : Except Foreign Parameters := do
  let declarations ←
    (← elements (← pick data "dependTaskList" "declarations")).mapM Declaration.read
  let relation ← Relation.readField data
  return ⟨declarations, .known relation⟩

def Incident.ofUnreadable (f : Foreign) : Incident :=
  match f with
  | .missingField name =>
    { kind := .declaration
      message := s!"Missing field {Text.quoted name} in dependent parameters"
      what := some "Dependent parameters are incomplete"
      why := some s!"Required field {Text.quoted name} is missing"
      howToFix := some
        "Provide dependTaskList, and dependItemList/definitionId/depTasks/dateValue per item"
      cause := some f }
  | _ =>
    { kind := .declaration
      message := s!"Malformed dependent parameters: {f.message}"
      cause := some f }

def Parameters.parse (data : Value) : Except Incident Parameters :=
  match Parameters.read data with
  | .ok p => .ok p
  | .error f => .error (.ofUnreadable f)

end DependencyGate
