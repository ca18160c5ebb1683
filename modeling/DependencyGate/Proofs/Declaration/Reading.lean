import DependencyGate.Proofs.Declaration.Format
import DependencyGate.Proofs.Declaration.Naming

/-!
# What is read from a document

Readers walk through values of any kind, but only objects have fields, and only lists of
objects have anything in them that can be read. Each lemma says which documents a reader
takes and what it makes of them. What may be read may still be invalid.
-/

namespace DependencyGate

open Json (Value)

-- ---------------------------------------------------------------------------
-- Fields
-- ---------------------------------------------------------------------------

theorem atName_ok {v : Value} : atName name v = .ok x ↔ v.field? name = some x := by
  cases v with
  | object fields =>
    simp only [atName, Value.field?]
    cases Value.lookup name fields <;> simp
  | _ => simp [atName, Value.field?]

theorem field_of_pick_ok {v : Value} (h : pick v name alternative = .ok x) :
    ∃ name, v.field? name = some x := by
  obtain ⟨_, _, h⟩ := bind_ok.mp h
  split at h
  · exact ⟨name, atName_ok.mp h⟩
  · obtain ⟨_, _, h⟩ := bind_ok.mp h
    split at h
    · exact ⟨alternative, atName_ok.mp h⟩
    · cases h

theorem pick_ok {v : Value} :
    pick v name alternative = .ok x ↔ v.spelled name alternative = some x := by
  by_cases hobject : ∃ fields, v = .object fields
  · obtain ⟨fields, rfl⟩ := hobject
    have hpicked : ∀ name, (Value.object fields).field? name = Value.lookup name fields :=
      fun _ => rfl
    simp only [pick, bind_ok, holdsName, Except.ok.injEq, exists_eq_left', Value.spelled, hpicked]
    cases hname : Value.lookup name fields with
    | some y => simp [atName_ok, hpicked, hname]
    | none =>
      cases halternative : Value.lookup alternative fields with
      | some y => simp [bind_ok, atName_ok, hpicked, halternative]
      | none => simp [bind_ok]
  · have hnone : ∀ name, v.field? name = none := by
      intro name
      cases v with
      | object fields => exact absurd ⟨fields, rfl⟩ hobject
      | _ => rfl
    constructor
    · intro h
      obtain ⟨name, hname⟩ := field_of_pick_ok h
      rw [hnone] at hname
      cases hname
    · intro h
      rw [Value.spelled, hnone, hnone] at h
      cases h

-- ---------------------------------------------------------------------------
-- Lists of objects
-- ---------------------------------------------------------------------------

/-- Where a reader takes no text, something is read from a value only if it is a list: the
elements of texts and of objects are texts. -/
theorem elements_mapM_ok {β : Type} {f : Value → Except Foreign β} (hf : ∀ s b, f (.str s) ≠ .ok b)
    {v : Value} {bs : List β} (hbs : bs ≠ []) :
    (∃ vs, elements v = .ok vs ∧ vs.mapM f = .ok bs) ↔
      ∃ documents, v = .list documents ∧ List.Forall₂ (fun a b => f a = .ok b) documents bs := by
  have htexts : ∀ texts : List String,
      ¬ List.Forall₂ (fun a b => f a = .ok b) (texts.map .str) bs := by
    intro texts h
    cases texts with
    | nil => exact hbs (List.forall₂_nil_left_iff.mp h)
    | cons s rest =>
      cases h with
      | cons hb _ => exact hf s _ hb
  simp only [mapM_ok]
  constructor
  · rintro ⟨vs, hvs, h⟩
    cases v with
    | list items =>
      cases hvs
      exact ⟨vs, rfl, h⟩
    | str s =>
      cases hvs
      have hmap : (s.toList.map fun c => Value.str (String.ofList [c])) =
          (s.toList.map fun c => String.ofList [c]).map Value.str := by rw [List.map_map]; rfl
      rw [hmap] at h
      exact absurd h (htexts _)
    | object fields =>
      cases hvs
      have hmap : (fields.map fun field => Value.str field.1) =
          (fields.map Prod.fst).map Value.str := by rw [List.map_map]; rfl
      rw [hmap] at h
      exact absurd h (htexts _)
    | _ => cases hvs
  · rintro ⟨docs, rfl, h⟩
    exact ⟨docs, rfl, h⟩

-- ---------------------------------------------------------------------------
-- Readers
-- ---------------------------------------------------------------------------

theorem Relation.readField_ok {v : Value} {r : Relation} :
    Relation.readField v = .ok r ↔ WritesRelation v r := by
  unfold Relation.readField WritesRelation
  cases v.field? "relation" with
  | none => simp [eq_comm]
  | some x => exact Relation.read_ok

theorem Item.read_ok {v : Value} {item : Item} : Item.read v = .ok item ↔
    ∃ definitionId target date, v.spelled "definitionId" "definition_id" = some definitionId ∧
      v.spelled "depTasks" "dep_tasks" = some target ∧
      v.spelled "dateValue" "date_value" = some date ∧
      item = ⟨.str (keyIn v (Item.defaultKey definitionId target date)), definitionId, target,
        date⟩ := by
  simp only [Item.read, bind_ok, pick_ok, pure_ok, keyIn]
  constructor
  · rintro ⟨definitionId, hd, target, ht, date, he, rfl⟩
    exact ⟨definitionId, target, date, hd, ht, he, rfl⟩
  · rintro ⟨definitionId, target, date, hd, ht, he, rfl⟩
    exact ⟨definitionId, hd, target, ht, date, he, rfl⟩

theorem Item.not_read_text (s : String) (item : Item) : Item.read (.str s) ≠ .ok item := by
  intro h
  obtain ⟨_, _, _, hd, -⟩ := Item.read_ok.mp h
  cases hd

section
variable {β : Type} {f : Value → Except Foreign β} (hf : ∀ s b, f (.str s) ≠ .ok b)
  {bs : List β} (hbs : bs ≠ [])
include hf hbs

theorem spelled_mapM_ok (v : Value) (name alternative : String) :
    (∃ x, v.spelled name alternative = some x ∧
      ∃ vs, elements x = .ok vs ∧ vs.mapM f = .ok bs) ↔
    ∃ documents, v.spelled name alternative = some (.list documents) ∧
      List.Forall₂ (fun a b => f a = .ok b) documents bs := by
  simp only [elements_mapM_ok hf hbs]
  constructor
  · rintro ⟨_, hx, documents, rfl, h⟩
    exact ⟨documents, hx, h⟩
  · rintro ⟨documents, hx, h⟩
    exact ⟨_, hx, documents, rfl, h⟩

end

theorem Declaration.read_ok {v : Value} {d : Declaration} (hd : d.items ≠ []) :
    Declaration.read v = .ok d ↔
      ∃ documents r, v.spelled "dependItemList" "items" = some (.list documents) ∧
        List.Forall₂ (fun a b => Item.read a = .ok b) documents d.items ∧
        WritesRelation v r ∧ d.relation = .known r := by
  obtain ⟨items, relation⟩ := d
  have hlist := spelled_mapM_ok Item.not_read_text hd v "dependItemList" "items"
  simp only [Declaration.read, Declaration.readParts, bind_ok, pick_ok, pure_ok,
    Relation.readField_ok]
  constructor
  · rintro ⟨_, ⟨x, hx, vs, hvs, _, hmap, r, hr, rfl⟩, hd⟩
    cases hd
    obtain ⟨documents, hdocuments, hread⟩ := hlist.mp ⟨x, hx, vs, hvs, hmap⟩
    exact ⟨documents, r, hdocuments, hread, hr, rfl⟩
  · rintro ⟨documents, r, hdocuments, hread, hr, rfl⟩
    obtain ⟨x, hx, vs, hvs, hmap⟩ := hlist.mpr ⟨documents, hdocuments, hread⟩
    exact ⟨_, ⟨x, hx, vs, hvs, _, hmap, r, hr, rfl⟩, rfl⟩

theorem Declaration.not_read_text (s : String) (d : Declaration) :
    Declaration.read (.str s) ≠ .ok d := by
  intro h
  obtain ⟨_, hparts, -⟩ := bind_ok.mp h
  obtain ⟨_, hpick, -⟩ := bind_ok.mp hparts
  cases pick_ok.mp hpick

/-- Parameters with declarations are read from a list of what these are read from. -/
theorem Parameters.read_ok {v : Value} {p : Parameters} (hp : p.declarations ≠ []) :
    Parameters.read v = .ok p ↔
      ∃ documents r, v.spelled "dependTaskList" "declarations" = some (.list documents) ∧
        List.Forall₂ (fun a b => Declaration.read a = .ok b) documents p.declarations ∧
        WritesRelation v r ∧ p.relation = .known r := by
  obtain ⟨declarations, relation⟩ := p
  have hlist := spelled_mapM_ok Declaration.not_read_text hp v "dependTaskList" "declarations"
  simp only [Parameters.read, bind_ok, pick_ok, pure_ok, Relation.readField_ok]
  constructor
  · rintro ⟨x, hx, vs, hvs, _, hmap, r, hr, hp⟩
    cases hp
    obtain ⟨documents, hdocuments, hread⟩ := hlist.mp ⟨x, hx, vs, hvs, hmap⟩
    exact ⟨documents, r, hdocuments, hread, hr, rfl⟩
  · rintro ⟨documents, r, hdocuments, hread, hr, rfl⟩
    obtain ⟨x, hx, vs, hvs, hmap⟩ := hlist.mpr ⟨documents, hdocuments, hread⟩
    exact ⟨x, hx, vs, hvs, _, hmap, r, hr, rfl⟩

end DependencyGate
