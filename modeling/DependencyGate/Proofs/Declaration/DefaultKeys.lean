import DependencyGate.Proofs.Declaration.Problems
import DependencyGate.Proofs.Declaration.RoundTrip

/-!
# Default keys

The key of an item that is given none joins its definition id, its target and its date by
hyphens. A target may hold hyphens and whole keys, but the digits before the first hyphen and the
expression behind the last one hold none, so a default key says all three
(`Item.defaultKey_inj`). Where no keys are given, items share a key only if they ask for the same,
and a declaration is rejected only for that (`Declaration.validate_rejects_repeated_items`).
-/

namespace DependencyGate

open Json (Value)
open Rehearsal (HistorySource Stage)
open Time (Zone)

-- ---------------------------------------------------------------------------
-- Parts of a default key
-- ---------------------------------------------------------------------------

theorem before_first_inj {sep : Char} {front front' back back' : List Char}
    (h : sep ∉ front) (h' : sep ∉ front') :
    front ++ sep :: back = front' ++ sep :: back' ↔ front = front' ∧ back = back' := by
  constructor
  · intro heq
    induction front generalizing front' with
    | nil =>
      cases front' with
      | nil => exact ⟨rfl, (List.cons.inj heq).2⟩
      | cons c rest =>
        obtain rfl := (List.cons.inj heq).1
        exact absurd List.mem_cons_self h'
    | cons c rest ih =>
      cases front' with
      | nil =>
        obtain rfl := (List.cons.inj heq).1
        exact absurd List.mem_cons_self h
      | cons c' rest' =>
        obtain ⟨rfl, hrest⟩ := List.cons.inj heq
        obtain ⟨rfl, rfl⟩ :=
          ih (List.not_mem_of_not_mem_cons h) (List.not_mem_of_not_mem_cons h') hrest
        exact ⟨rfl, rfl⟩
  · rintro ⟨rfl, rfl⟩
    rfl

theorem behind_last_inj {sep : Char} {front front' back back' : List Char}
    (h : sep ∉ back) (h' : sep ∉ back') :
    front ++ sep :: back = front' ++ sep :: back' ↔ front = front' ∧ back = back' := by
  have hreverse : back.reverse ++ sep :: front.reverse = back'.reverse ++ sep :: front'.reverse ↔
      back.reverse = back'.reverse ∧ front.reverse = front'.reverse :=
    before_first_inj (mt List.mem_reverse.mp h) (mt List.mem_reverse.mp h')
  rw [List.reverse_inj, List.reverse_inj] at hreverse
  rw [← List.reverse_inj, List.reverse_append, List.reverse_append, List.reverse_cons,
    List.reverse_cons, List.append_assoc, List.append_assoc]
  exact hreverse.trans and_comm

theorem positive_toList {n : Int} (hn : 0 < n) :
    (toString n).toList = Nat.toDigits 10 n.toNat := by
  obtain ⟨m, rfl⟩ := Int.eq_ofNat_of_zero_le (Int.le_of_lt hn)
  rw [show toString (m : Int) = toString m from rfl, Nat.toString_eq_ofList_toDigits,
    String.toList_ofList, Int.toNat_natCast]

theorem positive_toList_inj {n n' : Int} (hn : 0 < n) (hn' : 0 < n') :
    (toString n).toList = (toString n').toList ↔ n = n' := by
  refine ⟨fun h => ?_, fun h => h ▸ rfl⟩
  rw [positive_toList hn, positive_toList hn'] at h
  have hvalue := congrArg (fun digits => Nat.ofDigitChars 10 digits 0) h
  simp only [Nat.ofDigitChars_ten_toDigits] at hvalue
  omega

theorem hyphen_notMem_positive {n : Int} (hn : 0 < n) : '-' ∉ (toString n).toList := by
  rw [positive_toList hn]
  intro hmem
  exact absurd (Nat.isDigit_of_mem_toDigits (by decide) (by decide) hmem) (by decide)

theorem hyphen_notMem_name {name : String} (h : name ∈ Expression.names) : '-' ∉ name.toList := by
  revert name
  decide

theorem Item.defaultKey_toList {n : Int} (short : Number.Short n) (target date : String) :
    (Item.defaultKey (.int n short) (.str target) (.str date)).toList =
      (toString n).toList ++ '-' :: (target.toList ++ '-' :: date.toList) := by
  have htext : Item.defaultKey (.int n short) (.str target) (.str date) =
      toString n ++ "-" ++ target ++ "-" ++ date := rfl
  simp [htext, String.toList_append]

theorem Item.defaultKey_inj {n n' : Int} {short : Number.Short n} {short' : Number.Short n'}
    {target target' date date' : String} (hn : 0 < n) (hn' : 0 < n')
    (hdate : date ∈ Expression.names) (hdate' : date' ∈ Expression.names) :
    Item.defaultKey (.int n short) (.str target) (.str date) =
        Item.defaultKey (.int n' short') (.str target') (.str date') ↔
      n = n' ∧ target = target' ∧ date = date' := by
  rw [← String.toList_inj, Item.defaultKey_toList, Item.defaultKey_toList,
    before_first_inj (hyphen_notMem_positive hn) (hyphen_notMem_positive hn'),
    behind_last_inj (hyphen_notMem_name hdate) (hyphen_notMem_name hdate'),
    positive_toList_inj hn hn', String.toList_inj, String.toList_inj]

-- ---------------------------------------------------------------------------
-- Items that are given no keys
-- ---------------------------------------------------------------------------

def GivesNoKey (v : Value) : Prop := ∀ k, v.field? "key" = some k → k.given = false

def Item.KeyedByDefault (item : Item) : Prop :=
  item.key = .str (Item.defaultKey item.definitionId item.target item.date)

/-- Both ask for the same target of the same definition in the same period. -/
structure Item.AsksAs (a b : Item) : Prop where
  definitionId : a.definitionId = b.definitionId
  target : a.target = b.target
  date : a.date = b.date

def Repeats (items : List Item) (j : Nat) : Prop :=
  ∃ item, items[j]? = some item ∧ ∃ earlier ∈ items.take j, earlier.AsksAs item

theorem keyIn_of_givesNoKey {v : Value} (h : GivesNoKey v) (otherwise : String) :
    keyIn v otherwise = otherwise := by
  unfold keyIn
  cases hkey : v.field? "key" with
  | none => rfl
  | some k => simp only [h k hkey, Bool.false_eq_true, if_false]

theorem Item.keyedByDefault_of_read {v : Value} {item : Item} (h : Item.read v = .ok item)
    (hv : GivesNoKey v) : item.KeyedByDefault := by
  obtain ⟨definitionId, target, date, -, -, -, rfl⟩ := Item.read_ok.mp h
  rw [Item.KeyedByDefault, keyIn_of_givesNoKey hv]

theorem Item.key_eq_iff {a b : Item} (ha : a.Valid) (hb : b.Valid) (hkey : a.KeyedByDefault)
    (hkey' : b.KeyedByDefault) : a.key = b.key ↔ a.AsksAs b := by
  obtain ⟨⟨n, short, hid, hn⟩, ⟨target, htarget, -⟩, ⟨date, hdate, hname⟩⟩ := ha
  obtain ⟨⟨n', short', hid', hn'⟩, ⟨target', htarget', -⟩, ⟨date', hdate', hname'⟩⟩ := hb
  rw [hkey, hkey', hid, hid', htarget, htarget', hdate, hdate', Value.str.injEq,
    Item.defaultKey_inj hn hn' hname hname']
  constructor
  · rintro ⟨rfl, rfl, rfl⟩
    exact ⟨hid.trans hid'.symm, htarget.trans htarget'.symm, hdate.trans hdate'.symm⟩
  · rintro ⟨hsame, hsame', hsame''⟩
    rw [hid, hid'] at hsame
    rw [htarget, htarget'] at hsame'
    rw [hdate, hdate'] at hsame''
    exact ⟨Value.int.inj hsame, Value.str.inj hsame', Value.str.inj hsame''⟩

-- ---------------------------------------------------------------------------
-- Declarations
-- ---------------------------------------------------------------------------

theorem after_on_calendar (zone : Option Zone) (history : HistorySource) (asked : List String) :
    Stage.collaborators.after ⟨.zoned zone, history⟩ asked = ⟨.zoned zone, history⟩ := by
  induction asked with
  | nil => rfl
  | cons _ _ ih => exact ih

theorem hasProblem_iff_repeats {items : List Item} (hvalid : ∀ item ∈ items, item.Valid)
    (hkeys : ∀ item ∈ items, item.KeyedByDefault) (zone : Option Zone) (history : HistorySource)
    (j : Nat) (p : ItemProblem) :
    HasProblem Stage.collaborators ⟨.zoned zone, history⟩ items j p ↔
      p = .duplicateKey ∧ Repeats items j := by
  constructor
  · rintro ⟨item, hj, hfail⟩
    have hmem := List.mem_of_getElem? hj
    cases p with
    | duplicateKey =>
      obtain ⟨earlier, hearlier, hkey⟩ := List.mem_map.mp hfail
      have hmem' := List.mem_of_mem_take hearlier
      exact ⟨rfl, item, hj, earlier, hearlier, (Item.key_eq_iff (hvalid _ hmem') (hvalid _ hmem)
        (hkeys _ hmem') (hkeys _ hmem)).mp hkey⟩
    | definitionId => exact absurd (hvalid _ hmem).definitionId hfail
    | target => exact absurd (hvalid _ hmem).target hfail
    | date =>
      obtain ⟨e, hdate, hname⟩ := (hvalid _ hmem).date
      refine absurd ⟨e, hdate, ?_⟩ hfail
      rw [after_on_calendar]
      exact isSupported_iff.mpr hname
  · rintro ⟨rfl, item, hj, earlier, hearlier, hsame⟩
    have hmem := List.mem_of_getElem? hj
    have hmem' := List.mem_of_mem_take hearlier
    exact ⟨item, hj, List.mem_map.mpr ⟨earlier, hearlier, (Item.key_eq_iff (hvalid _ hmem')
      (hvalid _ hmem) (hkeys _ hmem') (hkeys _ hmem)).mpr hsame⟩⟩

namespace Declaration

theorem keyedByDefault_of_read {v : Value} {d : Declaration} (h : Declaration.read v = .ok d)
    (hv : ∀ documents, v.spelled "dependItemList" "items" = some (.list documents) →
      ∀ document ∈ documents, GivesNoKey document) : ∀ item ∈ d.items, item.KeyedByDefault := by
  intro item hitem
  obtain ⟨documents, _, hdocuments, hread, -⟩ :=
    (Declaration.read_ok (List.ne_nil_of_mem hitem)).mp h
  obtain ⟨document, hmem, hdocument⟩ := exists_of_forall₂ hread hitem
  exact Item.keyedByDefault_of_read hdocument (hv documents hdocuments document hmem)

/-- Where no item is given a key, two valid items have the same key if and only if they ask for
the same target of the same definition in the same period. A declaration of such items is rejected
if and only if it has none or one of them asks for what an earlier one asks for, and then for the
key of the first that does. -/
theorem validate_rejects_repeated_items {v : Value} {d : Declaration}
    (hread : Declaration.read v = .ok d)
    (hgiven : ∀ documents, v.spelled "dependItemList" "items" = some (.list documents) →
      ∀ document ∈ documents, GivesNoKey document)
    (hvalid : ∀ item ∈ d.items, item.Valid) (zone : Option Zone) (history : HistorySource)
    (calls : List Call) (journal : List Journal.Entry) :
    let result := (d.validate Stage.collaborators
      { state := ⟨.zoned zone, history⟩, calls := calls, journal := journal }).1
    (∀ item ∈ d.items, item.KeyedByDefault) ∧
    (∀ a ∈ d.items, ∀ b ∈ d.items, a.key = b.key ↔ a.AsksAs b) ∧
    ((∃ f, result = .error f) ↔ d.items = [] ∨ ∃ j, Repeats d.items j) ∧
    ∀ j item, d.items[j]? = some item → Repeats d.items j → (∀ k < j, ¬ Repeats d.items k) →
      result = .error (.own (.duplicateKey item.key)) := by
  intro result
  have hkeys := keyedByDefault_of_read hread hgiven
  have hproblem := hasProblem_iff_repeats hvalid hkeys zone history
  obtain ⟨r, hr⟩ := known_of_read hread
  refine ⟨hkeys, fun a ha b hb => Item.key_eq_iff (hvalid a ha) (hvalid b hb) (hkeys a ha)
    (hkeys b hb), ?_⟩
  unfold result
  rcases validate_run (c := Stage.collaborators) (w := ⟨⟨.zoned zone, history⟩, calls, journal⟩)
      fun item hitem => ⟨_, hkeys item hitem⟩ with
    ⟨_, _, -, hsome, hnone, hrun⟩ | ⟨i, n, hrejected, hrun⟩
  · have hfresh : ∀ j, ¬ Repeats d.items j := fun j h => hnone j _ ((hproblem j _).mpr ⟨rfl, h⟩)
    rw [hrun]
    exact ⟨by simp [hsome, hfresh], fun j _ _ h => absurd h (hfresh j)⟩
  · rw [hrun]
    refine ⟨iff_of_true ⟨_, rfl⟩ ?_, ?_⟩
    · cases hrejected with
      | relation hother => cases hr.symm.trans hother
      | noItems _ hempty => exact .inl hempty
      | item _ _ hfirst => exact .inr ⟨_, ((hproblem _ _).mp hfirst.here).2⟩
    · intro j item hj hrepeats hbefore
      have hfirst : FirstProblem Stage.collaborators ⟨.zoned zone, history⟩ d.items j
          .duplicateKey := by
        refine ⟨(hproblem j _).mpr ⟨rfl, hrepeats⟩, fun k q h => ?_⟩
        obtain ⟨rfl, hk⟩ := (hproblem k q).mp h
        rcases Nat.lt_trichotomy j k with hlater | rfl | hearlier
        · exact .inl hlater
        · exact .inr ⟨rfl, le_rfl⟩
        · exact absurd hk (hbefore k hearlier)
      rw [(hrejected.unique (.item hr hj hfirst)).1]
      rfl

/-- Targets that hold hyphens and a whole key: the third item asks for what the first asks for. -/
theorem validate_rejects_third_item :
    let v : Value := .object [("items", .list [
      .object [("definitionId", .int 1), ("depTasks", .str "2-load"), ("dateValue", .str "today")],
      .object [("definitionId", .int 1), ("depTasks", .str "2-load-today"),
        ("dateValue", .str "today"), ("key", .str "")],
      .object [("definition_id", .int 1), ("dep_tasks", .str "2-load"),
        ("date_value", .str "today")]])]
    ∃ d, Declaration.read v = .ok d ∧
      (d.validate Stage.collaborators { state := { calendar := .zoned none } }).1 =
        .error (.own (.duplicateKey (.str "1-2-load-today"))) := by
  intro v
  let first : Item := ⟨.str "1-2-load-today", .int 1, .str "2-load", .str "today"⟩
  let second : Item := ⟨.str "1-2-load-today-today", .int 1, .str "2-load-today", .str "today"⟩
  have hread : Declaration.read v = .ok { items := [first, second, first] } := by decide +kernel
  have hgiven : ∀ documents, v.spelled "dependItemList" "items" = some (.list documents) →
      ∀ document ∈ documents, GivesNoKey document := by
    rintro documents ⟨⟩
    simp [GivesNoKey, Value.field?, Value.lookup, Value.given]
  have hvalid : ∀ item ∈ [first, second, first], item.Valid := by
    have hfirst : first.Valid :=
      ⟨⟨1, by decide +kernel, rfl, by decide⟩, ⟨_, rfl, by decide +kernel⟩, ⟨_, rfl, by decide⟩⟩
    have hsecond : second.Valid :=
      ⟨⟨1, by decide +kernel, rfl, by decide⟩, ⟨_, rfl, by decide +kernel⟩, ⟨_, rfl, by decide⟩⟩
    simp [hfirst, hsecond]
  obtain ⟨-, -, -, hrejected⟩ := validate_rejects_repeated_items hread hgiven hvalid none
    (.scripted {}) [] []
  refine ⟨_, hread, hrejected 2 first rfl ⟨first, rfl, first, .head _, rfl, rfl, rfl⟩ ?_⟩
  rintro k hk ⟨item, hitem, earlier, hearlier, hsame⟩
  have hne : ¬ first.AsksAs second := fun h => absurd h.target (by decide)
  obtain rfl | rfl : k = 0 ∨ k = 1 := by omega
  · cases hearlier
  · obtain rfl : second = item := Option.some.inj hitem
    obtain rfl : earlier = first := List.mem_singleton.mp hearlier
    exact hne hsame

end Declaration
end DependencyGate
