import DependencyGate.Number.Shortest
import DependencyGate.Number.Whole

/-!
# Document values

What a JSON document holds. Objects keep the order of their fields and have each
name once. Whole numbers stay apart from doubles, and none is too long to be written:
a document that spells a longer one is refused by its reader.
-/

namespace DependencyGate.Json

inductive Value
  | null
  | bool (b : Bool)
  | int (n : Int) (short : Number.Short n := by exact Eq.refl true)
  | real (x : Number.Binary64)
  | str (s : String)
  | list (items : List Value)
  | object (fields : List (String × Value))
deriving Repr, Inhabited

namespace Value

-- ---------------------------------------------------------------------------
-- Equality
-- ---------------------------------------------------------------------------

mutual
def same : Value → Value → Bool
  | .null, .null => true
  | .bool a, .bool b => a == b
  | .int a _, .int b _ => a == b
  | .real a, .real b => decide (a = b)
  | .str a, .str b => a == b
  | .list a, .list b => sameItems a b
  | .object a, .object b => sameFields a b
  | _, _ => false
def sameItems : List Value → List Value → Bool
  | [], [] => true
  | a :: as, b :: bs => same a b && sameItems as bs
  | _, _ => false
def sameFields : List (String × Value) → List (String × Value) → Bool
  | [], [] => true
  | (k, a) :: as, (l, b) :: bs => k == l && same a b && sameFields as bs
  | _, _ => false
end

mutual
theorem same_iff : ∀ a b : Value, same a b = true ↔ a = b
  | .null, b => by cases b <;> simp [same]
  | .bool x, b => by cases b <;> simp [same]
  | .int x _, b => by cases b <;> simp [same]
  | .real x, b => by cases b <;> simp [same]
  | .str x, b => by cases b <;> simp [same]
  | .list x, b => by cases b <;> simp [same, sameItems_iff x]
  | .object x, b => by cases b <;> simp [same, sameFields_iff x]
theorem sameItems_iff : ∀ a b : List Value, sameItems a b = true ↔ a = b
  | [], b => by cases b <;> simp [sameItems]
  | x :: xs, b => by cases b <;> simp [sameItems, same_iff x, sameItems_iff xs]
theorem sameFields_iff : ∀ a b : List (String × Value), sameFields a b = true ↔ a = b
  | [], b => by cases b <;> simp [sameFields]
  | (k, x) :: xs, b => by
    cases b with
    | nil => simp [sameFields]
    | cons y ys =>
      obtain ⟨l, y⟩ := y
      simp [sameFields, same_iff x, sameFields_iff xs, and_assoc]
end

instance : DecidableEq Value := fun a b =>
  decidable_of_iff (same a b = true) (same_iff a b)

-- ---------------------------------------------------------------------------
-- Kinds
-- ---------------------------------------------------------------------------

inductive Kind
  | none
  | bool
  | int
  | real
  | str
  | list
  | object
deriving DecidableEq, Repr

def kind : Value → Kind
  | .null => .none
  | .bool _ => .bool
  | .int .. => .int
  | .real _ => .real
  | .str _ => .str
  | .list _ => .list
  | .object _ => .object

def Kind.name : Kind → String
  | .none => "NoneType"
  | .bool => "bool"
  | .int => "int"
  | .real => "float"
  | .str => "str"
  | .list => "list"
  | .object => "dict"

/-- A value counts as given unless it is empty, zero, false or null. -/
def given : Value → Bool
  | .null => false
  | .bool b => b
  | .int n _ => n != 0
  | .real (.finite _ m _) => m != 0
  | .real _ => true
  | .str s => s != ""
  | .list items => !items.isEmpty
  | .object fields => !fields.isEmpty

-- ---------------------------------------------------------------------------
-- Keys
-- ---------------------------------------------------------------------------

def isKey : Value → Bool
  | .list _ => false
  | .object _ => false
  | _ => true

/-- The form in which keys are compared. -/
inductive Key
  /-- A number by what it counts, whatever its kind. -/
  | whole (n : Int)
  | other (v : Value)
deriving DecidableEq

def asKey : Value → Key
  | .bool b => .whole (if b then 1 else 0)
  | .int n _ => .whole n
  | .real x =>
    match x.whole? with
    | some n => .whole n
    | none => .other (.real x)
  | v => .other v

def sameKey (v w : Value) : Bool := v.asKey = w.asKey

-- ---------------------------------------------------------------------------
-- Fields
-- ---------------------------------------------------------------------------

def lookup (name : String) : List (String × Value) → Option Value
  | [] => none
  | (k, v) :: rest => if k = name then some v else lookup name rest

/-- Sets a field: in its place when it exists, at the end otherwise. -/
def assign (name : String) (v : Value) : List (String × Value) → List (String × Value)
  | [] => [(name, v)]
  | (k, w) :: rest => if k = name then (k, v) :: rest else (k, w) :: assign name v rest

def field? (name : String) : Value → Option Value
  | .object fields => lookup name fields
  | _ => none

-- ---------------------------------------------------------------------------
-- Shown form
-- ---------------------------------------------------------------------------

mutual
def shown : Value → String
  | .null => "None"
  | .bool true => "True"
  | .bool false => "False"
  | .int n _ => toString n
  | .real x => x.text
  | .str s => Text.quoted s
  | .list items => "[" ++ ", ".intercalate (shownItems items) ++ "]"
  | .object fields => "\x7b" ++ ", ".intercalate (shownFields fields) ++ "\x7d"
def shownItems : List Value → List String
  | [] => []
  | v :: rest => shown v :: shownItems rest
def shownFields : List (String × Value) → List String
  | [] => []
  | (k, v) :: rest => (Text.quoted k ++ ": " ++ shown v) :: shownFields rest
end

/-- The form of a value as running text: a text is itself, anything else is `shown`. -/
def plain : Value → String
  | .str s => s
  | v => v.shown

end Value
end DependencyGate.Json
