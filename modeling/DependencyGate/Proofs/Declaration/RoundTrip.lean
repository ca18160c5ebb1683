import DependencyGate.Proofs.Declaration.Reading
import DependencyGate.Proofs.Matching

/-!
# Written declarations

What is written of a declaration is read back as it was, but for its keys: a key is read as a
text, and one that counts as not given is replaced. So a declaration comes back if and only if
all its keys are texts and none is empty. The keys of what was read are such keys, so that all
spellings of a declaration have one document in common (`Declaration.reads_own_document`).
-/

namespace DependencyGate

open Json (Value)

-- ---------------------------------------------------------------------------
-- Keys
-- ---------------------------------------------------------------------------

def Item.Keyed (item : Item) : Prop := ∃ s, item.key = .str s ∧ s ≠ ""

/-- The item with the key that is read in place of its own. -/
def Item.rekeyed (item : Item) : Item :=
  { item with
    key := .str (if item.key.given then item.key.plain
      else Item.defaultKey item.definitionId item.target item.date) }

theorem Item.defaultKey_ne_empty (definitionId target date : Value) :
    Item.defaultKey definitionId target date ≠ "" := by
  have hdash : toString "-" ≠ "" := by decide
  simp [Item.defaultKey, String.append_eq_empty_iff, hdash]

theorem Json.Value.plain_ne_empty {v : Value} (hv : v.given = true) : v.plain ≠ "" := by
  by_cases htext : ∃ s, v = .str s
  · obtain ⟨s, rfl⟩ := htext
    simpa [Value.given, Value.plain] using hv
  · intro hempty
    obtain ⟨c, rest, hopen, -⟩ := Value.plain_opensNoName fun s hs => htext ⟨s, hs⟩
    simp [hempty] at hopen

theorem keyIn_ne_empty {v : Value} {otherwise : String} (h : otherwise ≠ "") :
    keyIn v otherwise ≠ "" := by
  unfold keyIn
  split
  next k _ =>
    split
    next hgiven => exact Value.plain_ne_empty hgiven
    next => exact h
  next => exact h

-- ---------------------------------------------------------------------------
-- Items
-- ---------------------------------------------------------------------------

theorem Item.keyed_of_read {v : Value} {item : Item} (h : Item.read v = .ok item) : item.Keyed := by
  obtain ⟨_, _, _, -, -, -, rfl⟩ := Item.read_ok.mp h
  exact ⟨_, rfl, keyIn_ne_empty (Item.defaultKey_ne_empty _ _ _)⟩

theorem Item.read_toDocument (item : Item) : Item.read item.toDocument = .ok item.rekeyed :=
  Item.read_ok.mpr ⟨_, _, _, rfl, rfl, rfl, rfl⟩

theorem Item.rekeyed_eq_self_iff {item : Item} : item.rekeyed = item ↔ item.Keyed := by
  constructor
  · intro h
    exact h ▸ Item.keyed_of_read item.read_toDocument
  · rintro ⟨s, hkey, hs⟩
    obtain ⟨key, definitionId, target, date⟩ := item
    cases hkey
    simp [Item.rekeyed, Value.given, Value.plain, hs]

-- ---------------------------------------------------------------------------
-- Declarations
-- ---------------------------------------------------------------------------

namespace Declaration

theorem read_toDocument (r : Relation) (items : List Item) :
    Declaration.read (toDocument r items) = .ok ⟨items.map Item.rekeyed, .known r⟩ := by
  have hitems : (items.map Item.toDocument).mapM Item.read = .ok (items.map Item.rekeyed) := by
    rw [mapM_ok, List.forall₂_map_left_iff, List.forall₂_map_right_iff, List.forall₂_same]
    exact fun item _ => item.read_toDocument
  have hrelation : Relation.readField (toDocument r items) = .ok r := by
    cases r <;> rfl
  have hparts : readParts (toDocument r items) = .ok (items.map Item.rekeyed, r) := by
    simp only [readParts, bind_ok, pure_ok]
    exact ⟨_, pick_ok.mpr rfl, _, rfl, _, hitems, r, hrelation, rfl⟩
  rw [Declaration.read, hparts]
  rfl

theorem known_of_read {v : Value} {d : Declaration} (h : Declaration.read v = .ok d) :
    ∃ r, d.relation = .known r := by
  obtain ⟨⟨items, r⟩, -, hd⟩ := bind_ok.mp h
  cases hd
  exact ⟨r, rfl⟩

theorem keyed_of_read {v : Value} {d : Declaration} (h : Declaration.read v = .ok d) :
    ∀ item ∈ d.items, item.Keyed := by
  intro item hitem
  obtain ⟨documents, _, -, hread, -⟩ := (Declaration.read_ok (List.ne_nil_of_mem hitem)).mp h
  obtain ⟨document, -, hdocument⟩ := exists_of_forall₂ hread hitem
  exact Item.keyed_of_read hdocument

theorem read_toDocument_iff {r : Relation} {items : List Item} :
    Declaration.read (toDocument r items) = .ok ⟨items, .known r⟩ ↔ ∀ item ∈ items, item.Keyed := by
  have hself : items.map Item.rekeyed = items ↔ ∀ item ∈ items, item.rekeyed = item := by
    simpa using List.map_inj_left (l := items) (f := Item.rekeyed) (g := id)
  simp [read_toDocument, hself, Item.rekeyed_eq_self_iff]

/-- A declaration is read back from the document written of it if and only if its keys are
texts that are not empty. What was read from any document has such keys. -/
theorem reads_own_document :
    (∀ r items, Declaration.read (toDocument r items) = .ok ⟨items, .known r⟩ ↔
      ∀ item ∈ items, item.Keyed) ∧
    ∀ v d, Declaration.read v = .ok d → (∀ item ∈ d.items, item.Keyed) ∧
      ∃ r, d.relation = .known r ∧ Declaration.read (toDocument r d.items) = .ok d := by
  refine ⟨fun r items => read_toDocument_iff, ?_⟩
  rintro v ⟨items, relation⟩ h
  obtain ⟨r, hr⟩ := known_of_read h
  cases hr
  have hkeyed := keyed_of_read h
  exact ⟨hkeyed, r, rfl, read_toDocument_iff.mpr hkeyed⟩

/-- A key that is no text and counts as not given, with the other spellings. -/
theorem reads_own_document_of_zero_key :
    let v : Value := .object [("relation", .str " oR\n"), ("items", .list [.object
      [("key", .int 0), ("definition_id", .int 2), ("dep_tasks", .str "load"),
        ("date_value", .str "today")]])]
    let items : List Item := [⟨.str "2-load-today", .int 2, .str "load", .str "today"⟩]
    Declaration.read v = .ok ⟨items, .known .any⟩ ∧
      Declaration.read (toDocument .any items) = .ok ⟨items, .known .any⟩ := by
  intro v items
  have hread : Declaration.read v = .ok ⟨items, .known .any⟩ := by decide +kernel
  obtain ⟨-, r, hr, hback⟩ := reads_own_document.2 v _ hread
  cases hr
  exact ⟨hread, hback⟩

end Declaration
end DependencyGate
