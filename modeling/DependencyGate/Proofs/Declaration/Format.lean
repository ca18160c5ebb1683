import DependencyGate.Declaration.Reader
import DependencyGate.Expression
import DependencyGate.GatedTask
import Mathlib.Data.List.Forall2

/-!
# The format of declarations

Which documents declare which gates, as a relation between the two. An object holds a list
of objects under one of two names at each of two levels, and may name a relation at both.
Nothing is said of readers here; `Accepted` proves that these documents are the ones that
they take.
-/

namespace DependencyGate

open Json (Value)

/-- The value of a field that has two spellings, the first of which wins. -/
def Json.Value.spelled (v : Value) (name alternative : String) : Option Value :=
  (v.field? name).or (v.field? alternative)

/-- The object names this relation, in any case and with blanks around it; without a name it
is that all must hold. -/
def WritesRelation (v : Value) (r : Relation) : Prop :=
  match v.field? "relation" with
  | none => r = .all
  | some x => ∃ s, x = .str s ∧ Text.lower (Text.trim s) = r.name

def keyIn (v : Value) (otherwise : String) : String :=
  match v.field? "key" with
  | some k => if k.given then k.plain else otherwise
  | none => otherwise

/-- The object declares this item: a positive number, a target that is not blank, and the
name of a supported expression. -/
def WritesItem (v : Value) (item : Item) : Prop :=
  ∃ (n : Int) (short : Number.Short n) (target date : String),
    v.spelled "definitionId" "definition_id" = some (.int n short) ∧ 0 < n ∧
    v.spelled "depTasks" "dep_tasks" = some (.str target) ∧ Text.trim target ≠ "" ∧
    v.spelled "dateValue" "date_value" = some (.str date) ∧ date ∈ Expression.names ∧
    item = ⟨.str (keyIn v s!"{n}-{target}-{date}"), .int n short, .str target, .str date⟩

/-- The object declares what this new gate waits for: items with different keys, at least one. -/
def WritesGate (v : Value) (g : Gate) : Prop :=
  ∃ documents items r,
    v.spelled "dependItemList" "items" = some (.list documents) ∧ documents ≠ [] ∧
    List.Forall₂ WritesItem documents items ∧ (items.map Item.key).Nodup ∧
    WritesRelation v r ∧ g = { items := items, relation := r }

def WritesTask (v : Value) (task : GatedTask) : Prop :=
  ∃ documents gates r,
    v.spelled "dependTaskList" "declarations" = some (.list documents) ∧ documents ≠ [] ∧
    List.Forall₂ WritesGate documents gates ∧ WritesRelation v r ∧
    task = { gates := gates, relation := r }

end DependencyGate
