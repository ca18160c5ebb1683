import DependencyGate.Proofs.Declaration.Checking

/-!
# The first problem of a declaration

A declaration is rejected for its relation, else for having no items, else for what is wrong with
one of them: the first item with a problem, and of its problems the one that is checked first
(`Declaration.validate_reports_first_problem`). The collaborators may answer differently from call
to call. What counts of a date is the answer after all dates before it were asked for.
-/

namespace DependencyGate

open Json (Value)
open Rehearsal (Stage)

-- ---------------------------------------------------------------------------
-- Dates that are asked for
-- ---------------------------------------------------------------------------

def Item.expression? (item : Item) : Option String :=
  match item.date with
  | .str e => some e
  | _ => none

def expressions (items : List Item) : List String := items.filterMap Item.expression?

def Collaborators.after {σ : Type} (c : Collaborators σ) (s : σ) (asked : List String) : σ :=
  asked.foldl (fun s e => (c.supports e s).2) s

def World.asked {σ : Type} (c : Collaborators σ) (w : World σ) (items : List Item) : World σ :=
  { w with
    state := c.after w.state (expressions items)
    calls := w.calls ++ (expressions items).map .supports }

-- ---------------------------------------------------------------------------
-- Problems
-- ---------------------------------------------------------------------------

inductive ItemProblem
  | duplicateKey
  | definitionId
  | target
  | date
deriving DecidableEq

def ItemProblem.rank : ItemProblem → Nat
  | .duplicateKey => 0
  | .definitionId => 1
  | .target => 2
  | .date => 3

theorem ItemProblem.rank_injective : Function.Injective ItemProblem.rank := by
  rintro (_ | _ | _ | _) (_ | _ | _ | _) h <;> first | rfl | cases h

def Item.incident (item : Item) : ItemProblem → Incident
  | .duplicateKey => .duplicateKey item.key
  | .definitionId => .badDefinitionId item
  | .target => .noTarget item
  | .date => .unsupportedDate item

/-- How many items have their dates asked for when the problem of one is found. -/
def ItemProblem.reach : ItemProblem → Nat → Nat
  | .date, j => j + 1
  | _, j => j

section
variable {σ : Type}

structure Item.Evaluable (c : Collaborators σ) (s : σ) (item : Item) : Prop where
  definitionId : ∃ n short, item.definitionId = .int n short ∧ 0 < n
  target : ∃ name, item.target = .str name ∧ Text.trim name ≠ ""
  date : ∃ e, item.date = .str e ∧ (c.supports e s).1 = true

def Item.Fails (c : Collaborators σ) (s : σ) (earlier : List Item) (item : Item) :
    ItemProblem → Prop
  | .duplicateKey => item.key ∈ earlier.map Item.key
  | .definitionId => ¬ ∃ n short, item.definitionId = .int n short ∧ 0 < n
  | .target => ¬ ∃ name, item.target = .str name ∧ Text.trim name ≠ ""
  | .date => ¬ ∃ e, item.date = .str e ∧
      (c.supports e (c.after s (expressions earlier))).1 = true

def HasProblem (c : Collaborators σ) (s : σ) (items : List Item) (j : Nat) (p : ItemProblem) :
    Prop :=
  ∃ item, items[j]? = some item ∧ item.Fails c s (items.take j) p

/-- No other problem is at an earlier place, or at the same place and found earlier. -/
structure FirstProblem (c : Collaborators σ) (s : σ) (items : List Item) (j : Nat)
    (p : ItemProblem) : Prop where
  here : HasProblem c s items j p
  first : ∀ k q, HasProblem c s items k q → j < k ∨ j = k ∧ p.rank ≤ q.rank

/-- What a declaration is rejected for, with the number of items whose dates were asked for. -/
inductive Declaration.Rejected (c : Collaborators σ) (s : σ) (d : Declaration) :
    Incident → Nat → Prop
  | relation : d.relation = .other v → Rejected c s d (.unknownRelation v.shown) 0
  | noItems : d.relation = .known r → d.items = [] → Rejected c s d .noItems 0
  | item : d.relation = .known r → d.items[j]? = some item → FirstProblem c s d.items j p →
      Rejected c s d (item.incident p) (p.reach j)

end

-- ---------------------------------------------------------------------------
-- Asking
-- ---------------------------------------------------------------------------

section
variable {σ : Type} {c : Collaborators σ} {s : σ} {w : World σ} {items : List Item}

theorem expressions_append (xs ys : List Item) :
    expressions (xs ++ ys) = expressions xs ++ expressions ys := List.filterMap_append

@[simp] theorem asked_nil : w.asked c [] = w := by
  simp [World.asked, expressions, Collaborators.after]

theorem asked_append (xs ys : List Item) : w.asked c (xs ++ ys) = (w.asked c xs).asked c ys := by
  simp [World.asked, expressions_append, Collaborators.after, List.foldl_append]

theorem dateSupported_run (item : Item) (w : World σ) :
    ∃ b, dateSupported c item.date w = (.ok b, w.asked c [item]) ∧
      (b = true ↔ ∃ e, item.date = .str e ∧ (c.supports e w.state).1 = true) := by
  cases hdate : item.date with
  | str e =>
    refine ⟨(c.supports e w.state).1, ?_, by simp⟩
    simp [dateSupported, Engine.askSupport, World.asked, expressions, Item.expression?, hdate,
      Collaborators.after]
  | _ =>
    refine ⟨false, ?_, by simp⟩
    simp [dateSupported, World.asked, expressions, Item.expression?, hdate, Collaborators.after,
      run_pure]

-- ---------------------------------------------------------------------------
-- One item
-- ---------------------------------------------------------------------------

section
variable {earlier : List Item} {seen : List Value} {item : Item}

theorem Item.fails_duplicateKey_iff (hkey : ∃ t, item.key = .str t)
    (hseen : ∀ key, key ∈ seen ↔ key ∈ earlier.map Item.key) :
    item.Fails c s earlier .duplicateKey ↔ seen.any item.key.sameKey = true := by
  obtain ⟨t, ht⟩ := hkey
  rw [Item.Fails, ← hseen, ht, ← not_iff_not, Bool.not_eq_true, any_sameKey_str]

theorem Item.fails_definitionId_iff :
    item.Fails c s earlier .definitionId ↔ isDefinitionId item.definitionId = false := by
  rw [Item.Fails, ← isDefinitionId_iff, Bool.not_eq_true]

theorem Item.fails_target_iff :
    item.Fails c s earlier .target ↔ isTarget item.target = false := by
  rw [Item.Fails, ← isTarget_iff, Bool.not_eq_true]

/-- An item passes if it fails no check. Otherwise it is reported for the first that it fails,
and its date was asked for only if that is the date. -/
theorem Item.validate_run (hkey : ∃ t, item.key = .str t)
    (hseen : ∀ key, key ∈ seen ↔ key ∈ earlier.map Item.key) :
    (∀ p, ¬ item.Fails c w.state earlier p) ∧
        item.validate c seen (w.asked c earlier) = (.ok (), w.asked c (earlier ++ [item])) ∨
      ∃ p, item.Fails c w.state earlier p ∧
        (∀ q, item.Fails c w.state earlier q → p.rank ≤ q.rank) ∧
        item.validate c seen (w.asked c earlier) =
          (.error (.own (item.incident p)),
            w.asked c ((earlier ++ [item]).take (p.reach earlier.length))) := by
  have hfree : Engine.ofForeign (checkKey item.key) = (pure () : Engine σ Unit) := by
    obtain ⟨t, ht⟩ := hkey
    rw [ht]
    rfl
  unfold Item.validate
  rw [hfree, pure_bind]
  by_cases hkey' : item.Fails c w.state earlier .duplicateKey
  · have hold := (Item.fails_duplicateKey_iff hkey hseen).mp hkey'
    refine .inr ⟨.duplicateKey, hkey', fun _ _ => Nat.zero_le _, ?_⟩
    simp [hold, ItemProblem.reach, run_fail, Item.incident]
  have hnew := Bool.eq_false_iff.mpr (mt (Item.fails_duplicateKey_iff hkey hseen).mpr hkey')
  by_cases hid : item.Fails c w.state earlier .definitionId
  · refine .inr ⟨.definitionId, hid, ?_, ?_⟩
    · rintro (_ | _) hq
      · exact absurd hq hkey'
      all_goals decide
    · simp [hnew, Item.fails_definitionId_iff.mp hid, ItemProblem.reach, run_fail, Item.incident]
  have hwhole := eq_true_of_ne_false (mt Item.fails_definitionId_iff.mpr hid)
  by_cases htarget : item.Fails c w.state earlier .target
  · refine .inr ⟨.target, htarget, ?_, ?_⟩
    · rintro (_ | _ | _) hq
      · exact absurd hq hkey'
      · exact absurd hq hid
      all_goals decide
    · simp [hnew, hwhole, Item.fails_target_iff.mp htarget, ItemProblem.reach, run_fail,
        Item.incident]
  have hnamed := eq_true_of_ne_false (mt Item.fails_target_iff.mpr htarget)
  obtain ⟨b, hasked, hb⟩ := dateSupported_run (c := c) item (w.asked c earlier)
  simp only [hnew, hwhole, hnamed, Bool.not_true, Bool.false_eq_true, if_false,
    run_bind_of_ok hasked, ← asked_append]
  cases b with
  | true =>
    refine .inl ⟨?_, rfl⟩
    rintro (_ | _ | _ | _)
    · exact hkey'
    · exact hid
    · exact htarget
    · exact not_not_intro (hb.mp rfl)
  | false =>
    refine .inr ⟨.date, mt hb.mpr Bool.false_ne_true, ?_, ?_⟩
    · rintro (_ | _ | _ | _) hq
      · exact absurd hq hkey'
      · exact absurd hq hid
      · exact absurd hq htarget
      · exact le_rfl
    · rw [ItemProblem.reach, List.take_of_length_le (by simp)]
      rfl

end

-- ---------------------------------------------------------------------------
-- All items
-- ---------------------------------------------------------------------------

theorem validateItems_run {earlier rest : List Item} {seen : List Value} (hkeys : TextKeys rest)
    (hitems : items = earlier ++ rest) (hseen : ∀ key, key ∈ seen ↔ key ∈ earlier.map Item.key)
    (hpast : ∀ k p, HasProblem c w.state items k p → earlier.length ≤ k) :
    (∀ k p, ¬ HasProblem c w.state items k p) ∧
        validateItems c seen rest (w.asked c earlier) = (.ok (), w.asked c items) ∨
      ∃ item j p, items[j]? = some item ∧ FirstProblem c w.state items j p ∧
        validateItems c seen rest (w.asked c earlier) =
          (.error (.own (item.incident p)), w.asked c (items.take (p.reach j))) := by
  induction rest generalizing earlier seen with
  | nil =>
    rw [List.append_nil] at hitems
    subst hitems
    refine .inl ⟨?_, rfl⟩
    rintro k p hproblem
    obtain ⟨item, hk, -⟩ := id hproblem
    exact absurd (hpast k p hproblem) (Nat.not_le.mpr (List.getElem?_eq_some_iff.mp hk).1)
  | cons item rest ih =>
    obtain ⟨hkey, hrest⟩ := List.forall_mem_cons.mp hkeys
    have hhere : items[earlier.length]? = some item := by simp [hitems]
    have hbefore : items.take earlier.length = earlier := by simp [hitems]
    -- The next item stands where those that passed end.
    have hproblem : ∀ p, HasProblem c w.state items earlier.length p ↔
        item.Fails c w.state earlier p := by
      intro p
      simp only [HasProblem, hhere, hbefore, Option.some.injEq, exists_eq_left']
    rcases Item.validate_run (c := c) (w := w) hkey hseen with
      ⟨hpass, hrun⟩ | ⟨p, hfail, hleast, hrun⟩
    · rw [validateItems, run_bind_of_ok hrun]
      refine ih hrest (by simp [hitems]) (by simp [hseen, or_comm]) ?_
      intro k p hk
      rw [List.length_append, List.length_singleton]
      refine lt_of_le_of_ne (hpast k p hk) ?_
      rintro rfl
      exact hpass p ((hproblem p).mp hk)
    · refine .inr ⟨item, earlier.length, p, hhere, ⟨(hproblem p).mpr hfail, ?_⟩, ?_⟩
      · intro k q hk
        rcases Nat.eq_or_lt_of_le (hpast k q hk) with rfl | hlater
        · exact .inr ⟨rfl, hleast q ((hproblem q).mp hk)⟩
        · exact .inl hlater
      · have hreach : items.take (p.reach earlier.length) =
            (earlier ++ [item]).take (p.reach earlier.length) := by
          cases p <;> simp [ItemProblem.reach, hitems, List.take_append]
        rw [validateItems, run_bind, hrun, hreach]

theorem nodup_iff_not_mem_take {l : List α} :
    l.Nodup ↔ ∀ j a, l[j]? = some a → a ∉ l.take j := by
  rw [List.Nodup, List.pairwise_iff_getElem]
  constructor
  · intro hne j a hj hmem
    obtain ⟨hlt, rfl⟩ := List.getElem?_eq_some_iff.mp hj
    obtain ⟨i, hi, heq⟩ := List.mem_take_iff_getElem.mp hmem
    exact hne i j _ hlt (by omega) heq
  · intro hnew i j hi hj hij heq
    exact hnew j _ (List.getElem?_eq_getElem hj)
      (List.mem_take_iff_getElem.mpr ⟨i, by omega, heq⟩)

theorem no_problem_iff : (∀ k p, ¬ HasProblem c s items k p) ↔
    (items.map Item.key).Nodup ∧ ∀ (j : Nat) (item : Item), items[j]? = some item →
      item.Evaluable c (c.after s (expressions (items.take j))) := by
  rw [nodup_iff_not_mem_take]
  simp only [List.getElem?_map, Option.map_eq_some_iff, ← List.map_take]
  constructor
  · intro hnone
    constructor
    · rintro j _ ⟨item, hj, rfl⟩ hmem
      exact hnone j .duplicateKey ⟨item, hj, hmem⟩
    · intro j item hj
      exact {
        definitionId := by_contra fun h => hnone j .definitionId ⟨item, hj, h⟩
        target := by_contra fun h => hnone j .target ⟨item, hj, h⟩
        date := by_contra fun h => hnone j .date ⟨item, hj, h⟩ }
  · rintro ⟨hnew, hvalid⟩ j (_ | _ | _ | _) ⟨item, hj, hfail⟩
    · exact hnew j _ ⟨item, hj, rfl⟩ hfail
    · exact hfail (hvalid j item hj).definitionId
    · exact hfail (hvalid j item hj).target
    · exact hfail (hvalid j item hj).date

theorem FirstProblem.unique (h : FirstProblem c s items j p) (h' : FirstProblem c s items k q) :
    j = k ∧ p = q := by
  rcases h.first k q h'.here with hlt | ⟨rfl, hle⟩
  · rcases h'.first j p h.here with hlt' | ⟨rfl, -⟩ <;> omega
  · rcases h'.first j p h.here with hlt' | ⟨-, hle'⟩
    · exact absurd hlt' (lt_irrefl j)
    · exact ⟨rfl, ItemProblem.rank_injective (le_antisymm hle hle')⟩

end

-- ---------------------------------------------------------------------------
-- Declarations
-- ---------------------------------------------------------------------------

namespace Declaration

section
variable {σ : Type} {c : Collaborators σ} {s : σ} {w : World σ} {d : Declaration}

theorem Rejected.unique (h : d.Rejected c s i n) (h' : d.Rejected c s i' n') :
    i = i' ∧ n = n' := by
  cases h with
  | relation hother =>
    cases h' with
    | relation hother' =>
      cases hother.symm.trans hother'
      exact ⟨rfl, rfl⟩
    | noItems hr | item hr => cases hother.symm.trans hr
  | noItems hr hempty =>
    cases h' with
    | relation hother => cases hother.symm.trans hr
    | noItems => exact ⟨rfl, rfl⟩
    | item _ hj => simp [hempty] at hj
  | item hr hj hfirst =>
    cases h' with
    | relation hother => cases hother.symm.trans hr
    | noItems _ hempty => simp [hempty] at hj
    | item _ hj' hfirst' =>
      obtain ⟨rfl, rfl⟩ := hfirst.unique hfirst'
      cases hj.symm.trans hj'
      exact ⟨rfl, rfl⟩

theorem Rejected.kind (h : d.Rejected c s i n) : i.kind = .declaration := by
  cases h with
  | relation | noItems => rfl
  | @item _ _ _ p => cases p <;> rfl

theorem Rejected.not_passed (h : d.Rejected c s i n) (hr : d.relation = .known r)
    (hitems : d.items ≠ []) (hnone : ∀ k p, ¬ HasProblem c s d.items k p) : False := by
  cases h with
  | relation hother => cases hr.symm.trans hother
  | noItems _ hempty => exact hitems hempty
  | item _ _ hfirst => exact hnone _ _ hfirst.here

theorem validate_run (hkeys : TextKeys d.items) :
    (∃ r journal, d.relation = .known r ∧ d.items ≠ [] ∧
        (∀ k p, ¬ HasProblem c w.state d.items k p) ∧
        d.validate c w = (.ok r, { w.asked c d.items with journal := journal })) ∨
      ∃ i n, d.Rejected c w.state i n ∧
        d.validate c w = (.error (.own i), w.asked c (d.items.take n)) := by
  unfold validate
  cases hrelation : d.relation with
  | other v => exact .inr ⟨_, 0, .relation hrelation, by simp [run_fail]⟩
  | known r =>
    by_cases hitems : d.items = []
    · exact .inr ⟨_, 0, .noItems hrelation hitems, by simp [hitems, run_fail]⟩
    simp only [List.isEmpty_eq_false_iff.mpr hitems, Bool.false_eq_true, if_false]
    have hseen : ∀ key, key ∈ ([] : List Value) ↔ key ∈ ([] : List Item).map Item.key := by simp
    rcases validateItems_run (c := c) (w := w) hkeys (List.nil_append d.items).symm hseen
        (fun _ _ _ => Nat.zero_le _) with ⟨hnone, hrun⟩ | ⟨item, j, p, hj, hfirst, hrun⟩
    · rw [asked_nil] at hrun
      rw [run_bind_of_ok hrun]
      exact .inl ⟨r, _, rfl, hitems, hnone, rfl⟩
    · rw [asked_nil] at hrun
      rw [run_bind, hrun]
      exact .inr ⟨_, _, .item hrelation hj hfirst, rfl⟩

/-- A declaration with text keys passes if and only if its relation is known and it has items,
with different keys, each of which can be evaluated. Otherwise its first problem is reported.
The dates of the items before it, and the date that is the problem, are asked for in order and
once each. -/
theorem validate_reports_first_problem (hkeys : TextKeys d.items) :
    let run := d.validate c w
    (∀ r, run.1 = .ok r ↔ d.relation = .known r ∧ d.items ≠ [] ∧ (d.items.map Item.key).Nodup ∧
      ∀ (j : Nat) (item : Item), d.items[j]? = some item →
        item.Evaluable c (c.after w.state (expressions (d.items.take j)))) ∧
    (∀ r, run.1 = .ok r → run.2.calls = w.calls ++ (expressions d.items).map .supports) ∧
    (∀ f, run.1 = .error f ↔ ∃ i n, f = .own i ∧ d.Rejected c w.state i n) ∧
    ∀ i n, d.Rejected c w.state i n → i.kind = .declaration ∧
      run.2.calls = w.calls ++ (expressions (d.items.take n)).map .supports := by
  rw [← no_problem_iff]
  intro run
  unfold run
  rcases validate_run (c := c) (w := w) hkeys with
    ⟨r, journal, hr, hitems, hnone, hrun⟩ | ⟨i, n, hrejected, hrun⟩
  · have hpassed : ∀ i n, ¬ d.Rejected c w.state i n := fun i n h => h.not_passed hr hitems hnone
    rw [hrun]
    refine ⟨fun r' => ?_, fun _ _ => rfl, fun f => ?_, fun i n h => absurd h (hpassed i n)⟩
    · simp [hr, hitems, hnone]
    · simp [hpassed]
  · rw [hrun]
    refine ⟨fun r => ⟨nofun, ?_⟩, nofun, fun f => ⟨?_, ?_⟩, ?_⟩
    · rintro ⟨hr, hitems, hnone⟩
      exact (hrejected.not_passed hr hitems hnone).elim
    · intro hf
      cases hf
      exact ⟨i, n, rfl, hrejected⟩
    · rintro ⟨i', n', rfl, hrejected'⟩
      rw [(hrejected.unique hrejected').1]
    · intro i' n' hrejected'
      obtain ⟨rfl, rfl⟩ := hrejected.unique hrejected'
      exact ⟨hrejected.kind, rfl⟩

/-- The second item has a key that was seen, no definition id, no target and no date. -/
theorem validate_reports_second_key :
    let d : Declaration := {
      items := [⟨.str "a", .int 1, .str "ALL", .str "today"⟩, ⟨.str "a", .int 0, .str " ", .null⟩] }
    let w : World Stage := { state := { calendar := .zoned none } }
    let run := d.validate Stage.collaborators w
    TextKeys d.items ∧ run.1 = .error (.own (.duplicateKey (.str "a"))) ∧
      ∃ n, d.Rejected Stage.collaborators w.state (.duplicateKey (.str "a")) n ∧
        run.2.calls = (expressions (d.items.take n)).map .supports := by
  intro d w run
  have hkeys : TextKeys d.items := by
    intro item hitem
    simp only [d, List.mem_cons, List.not_mem_nil, or_false] at hitem
    rcases hitem with rfl | rfl <;> exact ⟨"a", rfl⟩
  have hrun : run.1 = .error (.own (.duplicateKey (.str "a"))) := by decide +kernel
  obtain ⟨-, -, herror, hcalls⟩ :=
    validate_reports_first_problem (c := Stage.collaborators) (w := w) hkeys
  obtain ⟨i, n, hi, hrejected⟩ := (herror _).mp hrun
  cases hi
  exact ⟨hkeys, hrun, n, hrejected, (hcalls _ n hrejected).2⟩

end
end Declaration

end DependencyGate
