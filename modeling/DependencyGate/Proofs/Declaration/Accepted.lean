import DependencyGate.Proofs.Declaration.Checking
import DependencyGate.Proofs.Declaration.Reading
import DependencyGate.Proofs.Matching

/-!
# Accepted documents

Reading a document and checking what was read take exactly the documents of the format, and
make of each the task that it declares (`GatedTask.ofDocument_accepts_format`). All others end
in an incident on the declaration.
-/

namespace DependencyGate

open Json (Value)
open Rehearsal (CalendarSource HistorySource Stage)
open Time (Zone)

def GatedTask.ofDocument {σ : Type} (c : Collaborators σ) (v : Value) : Engine σ GatedTask :=
  match Parameters.parse v with
  | .ok p => GatedTask.make c p
  | .error i => Engine.fail i

-- ---------------------------------------------------------------------------
-- What is read and checked is what the document declares
-- ---------------------------------------------------------------------------

theorem Parameters.parse_ok {v : Value} {p : Parameters} :
    Parameters.parse v = .ok p ↔ Parameters.read v = .ok p := by
  unfold Parameters.parse
  cases Parameters.read v <;> simp

theorem Parameters.parse_error {v : Value} (h : Parameters.parse v = .error i) :
    i.kind = .declaration := by
  unfold Parameters.parse at h
  split at h
  · cases h
  · cases h
    unfold Incident.ofUnreadable
    split <;> rfl

theorem Declaration.textKeys_of_read {v : Value} {d : Declaration}
    (h : Declaration.read v = .ok d) : TextKeys d.items := by
  intro item hitem
  obtain ⟨_, _, -, hread, -⟩ := (Declaration.read_ok (List.ne_nil_of_mem hitem)).mp h
  obtain ⟨document, -, hdocument⟩ := exists_of_forall₂ hread hitem
  obtain ⟨_, _, _, -, -, -, rfl⟩ := Item.read_ok.mp hdocument
  exact ⟨_, rfl⟩

theorem Parameters.textKeys_of_read {v : Value} {p : Parameters} (h : Parameters.read v = .ok p) :
    ∀ d ∈ p.declarations, TextKeys d.items := by
  intro d hd
  obtain ⟨_, _, -, hread, -⟩ := (Parameters.read_ok (List.ne_nil_of_mem hd)).mp h
  obtain ⟨document, -, hdocument⟩ := exists_of_forall₂ hread hd
  exact Declaration.textKeys_of_read hdocument

theorem writesItem_iff {v : Value} {item : Item} :
    WritesItem v item ↔ Item.read v = .ok item ∧ item.Valid := by
  rw [Item.read_ok]
  constructor
  · rintro ⟨n, short, target, date, hid, hn, htarget, hblank, hdate, hsupported, rfl⟩
    exact ⟨⟨_, _, _, hid, htarget, hdate, rfl⟩,
      ⟨n, short, rfl, hn⟩, ⟨target, rfl, hblank⟩, ⟨date, rfl, hsupported⟩⟩
  · rintro ⟨⟨_, _, _, hid, htarget, hdate, rfl⟩,
      ⟨n, short, rfl, hn⟩, ⟨target, rfl, hblank⟩, ⟨date, rfl, hsupported⟩⟩
    exact ⟨n, short, target, date, hid, hn, htarget, hblank, hdate, hsupported, rfl⟩

theorem writesGate_iff {v : Value} {g : Gate} :
    WritesGate v g ↔ ∃ d, Declaration.read v = .ok d ∧ Guards d g := by
  have hitems : ∀ {documents items}, List.Forall₂ WritesItem documents items ↔
      List.Forall₂ (fun a b => Item.read a = .ok b) documents items ∧
        ∀ item ∈ items, item.Valid := by
    intro documents items
    rw [← forall₂_and_right, show WritesItem = _ from funext₂ fun _ _ => propext writesItem_iff]
  constructor
  · rintro ⟨documents, items, r, hdocuments, hne, hwritten, hdistinct, hr, rfl⟩
    obtain ⟨hread, hvalid⟩ := hitems.mp hwritten
    have hsome := (ne_nil_of_forall₂ hwritten).mp hne
    exact ⟨⟨items, .known r⟩,
      (Declaration.read_ok hsome).mpr ⟨documents, r, hdocuments, hread, hr, rfl⟩,
      r, rfl, hsome, hvalid, hdistinct, rfl⟩
  · rintro ⟨d, hd, r, hr, hsome, hvalid, hdistinct, rfl⟩
    obtain ⟨documents, r', hdocuments, hread, hr', hknown⟩ := (Declaration.read_ok hsome).mp hd
    cases hr.symm.trans hknown
    exact ⟨documents, d.items, r, hdocuments, (ne_nil_of_forall₂ hread).mpr hsome,
      hitems.mpr ⟨hread, hvalid⟩, hdistinct, hr', rfl⟩

theorem writesTask_iff {v : Value} {task : GatedTask} :
    WritesTask v task ↔ ∃ p, Parameters.read v = .ok p ∧ Makes p task := by
  have hgates : ∀ {documents gates}, List.Forall₂ WritesGate documents gates ↔
      ∃ declarations, List.Forall₂ (fun a b => Declaration.read a = .ok b) documents declarations ∧
        List.Forall₂ Guards declarations gates := by
    intro documents gates
    rw [← forall₂_then, show WritesGate = _ from funext₂ fun _ _ => propext writesGate_iff]
  constructor
  · rintro ⟨documents, gates, r, hdocuments, hne, hwritten, hr, rfl⟩
    obtain ⟨declarations, hread, hguards⟩ := hgates.mp hwritten
    have hsome := (ne_nil_of_forall₂ hread).mp hne
    exact ⟨⟨declarations, .known r⟩,
      (Parameters.read_ok hsome).mpr ⟨documents, r, hdocuments, hread, hr, rfl⟩,
      r, gates, rfl, hsome, hguards, rfl⟩
  · rintro ⟨p, hp, r, gates, hr, hsome, hguards, rfl⟩
    obtain ⟨documents, r', hdocuments, hread, hr', hknown⟩ := (Parameters.read_ok hsome).mp hp
    cases hr.symm.trans hknown
    exact ⟨documents, gates, r, hdocuments, (ne_nil_of_forall₂ hread).mpr hsome,
      hgates.mpr ⟨p.declarations, hread, hguards⟩, hr', rfl⟩

-- ---------------------------------------------------------------------------
-- Documents
-- ---------------------------------------------------------------------------

theorem GatedTask.ofDocument_accepts (history : HistorySource) (v : Value) :
    Engine.Accepts (OnCalendar history) (GatedTask.ofDocument Stage.collaborators v)
      (WritesTask v) := by
  unfold GatedTask.ofDocument
  cases hparse : Parameters.parse v with
  | error i =>
    refine (Engine.Accepts.fail (Parameters.parse_error hparse)).congr fun task => ?_
    rw [writesTask_iff, false_iff]
    rintro ⟨p, hp, -⟩
    cases hparse.symm.trans (Parameters.parse_ok.mpr hp)
  | ok p =>
    have hread := Parameters.parse_ok.mp hparse
    refine (GatedTask.make_accepts (Parameters.textKeys_of_read hread)).congr fun task => ?_
    rw [writesTask_iff]
    constructor
    · intro htask
      exact ⟨p, hread, htask⟩
    · rintro ⟨p', hp', htask⟩
      cases hread.symm.trans hp'
      exact htask

/-- With the real calendar, in whatever zone, a document makes a task if and only if it
declares that task in the format. Whatever else it is, it ends in an incident on the
declaration. -/
theorem GatedTask.ofDocument_accepts_format (v : Value) (zone : Option Zone)
    (history : HistorySource) (calls : List Call) (journal : List Journal.Entry) :
    let result := (GatedTask.ofDocument Stage.collaborators v
      { state := ⟨.zoned zone, history⟩, calls := calls, journal := journal }).1
    (∀ task, result = .ok task ↔ WritesTask v task) ∧
      ∀ f, result = .error f → ∃ i, f = .own i ∧ i.kind = .declaration :=
  (GatedTask.ofDocument_accepts history v _ ⟨zone, rfl⟩).2

/-- An item on the second definition, under mixed spellings. -/
example : (GatedTask.ofDocument Stage.collaborators
    (.object [("relation", .str " Or\n"), ("dependTaskList", .list [.object [("items", .list
      [.object [("definition_id", .int 2), ("depTasks", .str "load"),
        ("dateValue", .str "today")]])]])])
    { state := { calendar := .zoned none } }).1 =
      .ok { gates := [{ items := [⟨.str "2-load-today", .int 2, .str "load", .str "today"⟩],
                        relation := .all }],
            relation := .any } := by decide +kernel

end DependencyGate
