import DependencyGate.Proofs.Acceptance
import DependencyGate.Proofs.Declaration.Format
import DependencyGate.Proofs.Declaration.Naming
import DependencyGate.Rehearsal

/-!
# What is accepted

A check leaves the collaborators' state as it was, and it either returns one of the values
that are described or ends in an incident on the declaration (`Engine.Accepts`). There is a
rule for each way of building a check, and with them one lemma for each check.
-/

namespace DependencyGate

open Json (Value)
open Rehearsal (HistorySource Stage)

-- ---------------------------------------------------------------------------
-- Checks
-- ---------------------------------------------------------------------------

namespace Engine

variable {σ α β : Type} {S : σ → Prop} {p : α → Prop}

/-- From any state in `S` the computation stays in `S`. It returns the values with the
property and no others, and what it ends in otherwise is an incident on a declaration. -/
def Accepts (S : σ → Prop) (x : Engine σ α) (p : α → Prop) : Prop :=
  ∀ w, S w.state → S (x w).2.state ∧ (∀ a, (x w).1 = .ok a ↔ p a) ∧
    ∀ f, (x w).1 = .error f → ∃ i, f = .own i ∧ i.kind = .declaration

namespace Accepts

theorem congr {x : Engine σ α} (hx : Accepts S x p) (h : ∀ a, p a ↔ q a) : Accepts S x q := by
  intro w hw
  obtain ⟨hstate, hok, herror⟩ := hx w hw
  exact ⟨hstate, fun a => (hok a).trans (h a), herror⟩

theorem pure (b : α) : Accepts S (Pure.pure b : Engine σ α) (b = ·) := by
  intro w hw
  refine ⟨hw, fun a => ?_, ?_⟩
  · rw [run_pure, Except.ok.injEq]
  · rintro f ⟨⟩

theorem fail {i : Incident} (hi : i.kind = .declaration) :
    Accepts S (Engine.fail i : Engine σ α) fun _ => False := by
  intro w hw
  refine ⟨hw, fun a => ⟨fun h => (nomatch h), False.elim⟩, ?_⟩
  rintro f ⟨⟩
  exact ⟨i, rfl, hi⟩

theorem note (level : Journal.Level) (part : Journal.Part) (message : String) :
    Accepts S (Engine.note level part message : Engine σ Unit) fun _ => True := by
  intro w hw
  refine ⟨hw, fun a => ⟨fun _ => trivial, fun _ => rfl⟩, ?_⟩
  rintro f ⟨⟩

theorem bind {x : Engine σ α} {f : α → Engine σ β} {q : α → β → Prop} (hx : Accepts S x p)
    (hf : ∀ a, p a → Accepts S (f a) (q a)) :
    Accepts S (x >>= f) fun b => ∃ a, p a ∧ q a b := by
  intro w hw
  obtain ⟨hstate, hok, herror⟩ := hx w hw
  rw [run_bind]
  cases hrun : x w with
  | mk result w₁ =>
    rw [hrun] at hstate hok herror
    cases result with
    | error e =>
      refine ⟨hstate, fun b => ⟨fun h => (nomatch h), ?_⟩, fun f h => ?_⟩
      · rintro ⟨a, ha, -⟩
        cases (hok a).mpr ha
      · cases h
        exact herror e rfl
    | ok a =>
      have ha := (hok a).mp rfl
      obtain ⟨hstate', hok', herror'⟩ := hf a ha w₁ hstate
      refine ⟨hstate', fun b => (hok' b).trans ⟨fun hb => ⟨a, ha, hb⟩, ?_⟩, herror'⟩
      rintro ⟨a', ha', hb⟩
      cases (hok a').mpr ha'
      exact hb

theorem reject {b : Bool} {i : Incident} (hi : i.kind = .declaration) {x : Engine σ α}
    (hx : Accepts S x p) : Accepts S (if b then Engine.fail i else x) fun a => b = false ∧ p a := by
  cases b with
  | true => exact (fail hi).congr fun a => by simp
  | false => exact hx.congr fun a => by simp

theorem mapM {f : α → Engine σ β} {q : α → β → Prop} {l : List α}
    (hf : ∀ a ∈ l, Accepts S (f a) (q a)) : Accepts S (l.mapM f) (List.Forall₂ q l) := by
  induction l with
  | nil =>
    rw [List.mapM_nil]
    exact (pure []).congr fun bs => by rw [List.forall₂_nil_left_iff, eq_comm]
  | cons a rest ih =>
    obtain ⟨ha, hrest⟩ := List.forall_mem_cons.mp hf
    rw [List.mapM_cons]
    refine (ha.bind fun b _ => (ih hrest).bind fun bs _ => pure (b :: bs)).congr fun cs => ?_
    rw [List.forall₂_cons_left_iff]
    constructor
    · rintro ⟨b, hb, bs, hbs, rfl⟩
      exact ⟨b, bs, hb, hbs, rfl⟩
    · rintro ⟨b, bs, hb, hbs, rfl⟩
      exact ⟨b, hb, bs, hbs, rfl⟩

end Accepts
end Engine

-- ---------------------------------------------------------------------------
-- Items
-- ---------------------------------------------------------------------------

structure Item.Valid (item : Item) : Prop where
  definitionId : ∃ n short, item.definitionId = .int n short ∧ 0 < n
  target : ∃ s, item.target = .str s ∧ Text.trim s ≠ ""
  date : ∃ s, item.date = .str s ∧ s ∈ Expression.names

def TextKeys (items : List Item) : Prop := ∀ item ∈ items, ∃ s, item.key = .str s

theorem isDefinitionId_iff {v : Value} :
    isDefinitionId v = true ↔ ∃ n short, v = .int n short ∧ 0 < n := by
  cases v with
  | int n short =>
    constructor
    · exact fun hn => ⟨n, short, rfl, of_decide_eq_true hn⟩
    · rintro ⟨_, _, ⟨⟩, hn⟩
      exact decide_eq_true hn
  | _ => simp [isDefinitionId]

theorem isTarget_iff {v : Value} : isTarget v = true ↔ ∃ s, v = .str s ∧ Text.trim s ≠ "" := by
  cases v with
  | str s => simp [isTarget, Text.trim_eq_empty_iff]
  | _ => simp [isTarget]

theorem isSupported_iff {name : String} :
    Expression.isSupported name = true ↔ name ∈ Expression.names := by
  simp [Expression.isSupported, Expression.ofName?, Expression.names]

theorem sameKey_str_iff {v : Value} : (Value.str s).sameKey v = true ↔ v = .str s := by
  rw [sameKey_iff, eq_comm]
  cases v with
  | real x =>
    simp only [Value.asKey]
    cases x.whole? <;> simp
  | _ => simp [Value.asKey]

theorem any_sameKey_str {seen : List Value} :
    seen.any (Value.str s).sameKey = false ↔ Value.str s ∉ seen := by
  rw [Bool.eq_false_iff, Ne, List.any_eq_true, not_iff_not]
  constructor
  · rintro ⟨v, hv, hsame⟩
    exact sameKey_str_iff.mp hsame ▸ hv
  · intro hmem
    exact ⟨_, hmem, sameKey_refl _⟩

-- ---------------------------------------------------------------------------
-- Checks against the calendar
-- ---------------------------------------------------------------------------

def OnCalendar (history : HistorySource) (s : Stage) : Prop := ∃ zone, s = ⟨.zoned zone, history⟩

variable {history : HistorySource}

theorem askSupport_accepts (name : String) :
    Engine.Accepts (OnCalendar history) (Engine.askSupport Stage.collaborators name)
      (Expression.isSupported name = ·) := by
  rintro w ⟨zone, hstage⟩
  have hanswer : Stage.collaborators.supports name w.state =
      (Expression.isSupported name, w.state) := by
    rw [hstage]
    rfl
  have hrun : Engine.askSupport Stage.collaborators name w =
      (.ok (Expression.isSupported name), { w with calls := w.calls ++ [.supports name] }) := by
    simp only [Engine.askSupport, hanswer]
  rw [hrun]
  exact ⟨⟨zone, hstage⟩, fun a => by rw [Except.ok.injEq], fun f h => nomatch h⟩

theorem dateSupported_accepts (date : Value) :
    Engine.Accepts (OnCalendar history) (dateSupported Stage.collaborators date) fun b =>
      b = true ↔ ∃ s, date = .str s ∧ s ∈ Expression.names := by
  cases date with
  | str s =>
    refine (askSupport_accepts s).congr fun b => ?_
    rw [eq_comm, Bool.eq_iff_iff, isSupported_iff]
    simp only [Value.str.injEq, exists_eq_left']
  | _ =>
    refine (Engine.Accepts.pure false).congr fun b => ?_
    cases b <;> simp

theorem Item.validate_accepts {item : Item} (hkey : ∃ s, item.key = .str s) (seen : List Value) :
    Engine.Accepts (OnCalendar history) (item.validate Stage.collaborators seen) fun _ =>
      item.key ∉ seen ∧ item.Valid := by
  obtain ⟨s, hs⟩ := hkey
  -- The look-up of a text key is no fault of another kind.
  have hfree : Engine.ofForeign (checkKey item.key) = (pure () : Engine Stage Unit) := by
    rw [hs]
    rfl
  have hasked : ∀ b : Bool, Engine.Accepts (OnCalendar history)
      (if b then pure () else Engine.fail (.unsupportedDate item)) fun _ => b = true := by
    intro b
    cases b with
    | true => exact (Engine.Accepts.pure ()).congr fun _ => by simp
    | false => exact (Engine.Accepts.fail rfl).congr fun _ => by simp
  have hdate := (dateSupported_accepts item.date).bind fun b _ => hasked b
  unfold Item.validate
  rw [hfree]
  refine ((Engine.Accepts.pure ()).bind fun _ _ =>
    .reject rfl (.reject rfl (.reject rfl hdate))).congr fun _ => ?_
  rw [hs, any_sameKey_str]
  simp only [Bool.not_eq_false', isDefinitionId_iff, isTarget_iff]
  constructor
  · rintro ⟨_, _, hnew, hid, htarget, b, hb, hsupported⟩
    exact ⟨hnew, hid, htarget, hb.mp hsupported⟩
  · rintro ⟨hnew, hid, htarget, hsupported⟩
    exact ⟨(), trivial, hnew, hid, htarget, true, ⟨fun _ => hsupported, fun _ => rfl⟩, rfl⟩

theorem validateItems_accepts {items : List Item} (hkeys : TextKeys items) (seen : List Value) :
    Engine.Accepts (OnCalendar history) (validateItems Stage.collaborators seen items) fun _ =>
      (∀ item ∈ items, item.Valid) ∧ (items.map Item.key).Nodup ∧
        ∀ item ∈ items, item.key ∉ seen := by
  induction items generalizing seen with
  | nil => exact (Engine.Accepts.pure ()).congr fun _ => by simp
  | cons item rest ih =>
    obtain ⟨hkey, hrest⟩ := List.forall_mem_cons.mp hkeys
    refine ((Item.validate_accepts hkey seen).bind fun _ _ => ih hrest (item.key :: seen)).congr
      fun _ => ?_
    -- The rest is checked against the seen keys and this one: it is apart from both.
    rw [List.forall_mem_cons, List.forall_mem_cons, List.map_cons, List.nodup_cons]
    simp only [List.mem_map, List.mem_cons, not_or, not_exists, not_and]
    constructor
    · rintro ⟨_, ⟨hnew, hvalid⟩, hvalids, hdistinct, hapart⟩
      exact ⟨⟨hvalid, hvalids⟩, ⟨fun other ho => (hapart other ho).1, hdistinct⟩, hnew,
        fun other ho => (hapart other ho).2⟩
    · rintro ⟨⟨hvalid, hvalids⟩, ⟨hother, hdistinct⟩, hnew, hseen⟩
      exact ⟨(), ⟨hnew, hvalid⟩, hvalids, hdistinct,
        fun other ho => ⟨hother other ho, hseen other ho⟩⟩

-- ---------------------------------------------------------------------------
-- Declarations and tasks
-- ---------------------------------------------------------------------------

def Guards (d : Declaration) (g : Gate) : Prop :=
  ∃ r, d.relation = .known r ∧ d.items ≠ [] ∧ (∀ item ∈ d.items, item.Valid) ∧
    (d.items.map Item.key).Nodup ∧ g = { items := d.items, relation := r }

theorem Declaration.validate_accepts {d : Declaration} (hkeys : TextKeys d.items) :
    Engine.Accepts (OnCalendar history) (d.validate Stage.collaborators) fun r =>
      d.relation = .known r ∧ d.items ≠ [] ∧ (∀ item ∈ d.items, item.Valid) ∧
        (d.items.map Item.key).Nodup := by
  unfold Declaration.validate
  cases d.relation with
  | other v => exact (Engine.Accepts.fail rfl).congr fun _ => by simp
  | known r =>
    have hnote := Engine.Accepts.note (S := OnCalendar history) .debug .validation
      s!"Validated dependent declaration with {d.items.length} items"
    have hitems := (validateItems_accepts hkeys []).bind fun _ _ =>
      hnote.bind fun _ _ => .pure r
    refine (Engine.Accepts.reject rfl hitems).congr fun r' => ?_
    rw [List.isEmpty_eq_false_iff, GivenRelation.known.injEq]
    constructor
    · rintro ⟨hne, _, ⟨hvalid, hdistinct, -⟩, _, _, rfl⟩
      exact ⟨rfl, hne, hvalid, hdistinct⟩
    · rintro ⟨rfl, hne, hvalid, hdistinct⟩
      exact ⟨hne, (), ⟨hvalid, hdistinct, fun _ _ => List.not_mem_nil⟩, (), trivial, rfl⟩

theorem Gate.make_accepts {d : Declaration} (hkeys : TextKeys d.items) :
    Engine.Accepts (OnCalendar history) (Gate.make Stage.collaborators d) (Guards d) := by
  refine ((Declaration.validate_accepts hkeys).bind fun r _ => .pure _).congr fun g => ?_
  constructor
  · rintro ⟨r, ⟨hr, hne, hvalid, hdistinct⟩, rfl⟩
    exact ⟨r, hr, hne, hvalid, hdistinct, rfl⟩
  · rintro ⟨r, hr, hne, hvalid, hdistinct, rfl⟩
    exact ⟨r, ⟨hr, hne, hvalid, hdistinct⟩, rfl⟩

def Makes (p : Parameters) (task : GatedTask) : Prop :=
  ∃ r gates, p.relation = .known r ∧ p.declarations ≠ [] ∧
    List.Forall₂ Guards p.declarations gates ∧ task = { gates := gates, relation := r }

theorem GatedTask.make_accepts {p : Parameters} (hkeys : ∀ d ∈ p.declarations, TextKeys d.items) :
    Engine.Accepts (OnCalendar history) (GatedTask.make Stage.collaborators p) (Makes p) := by
  unfold GatedTask.make Parameters.validate Makes
  by_cases hnone : p.declarations = []
  · simp only [hnone, List.isEmpty_nil, if_true]
    exact (Engine.Accepts.fail rfl).congr fun task => by simp
  · have hsome : p.declarations.isEmpty = false := List.isEmpty_eq_false_iff.mpr hnone
    simp only [hsome, Bool.false_eq_true, if_false]
    cases p.relation with
    | other v => exact (Engine.Accepts.fail rfl).congr fun task => by simp
    | known r =>
      refine ((Engine.Accepts.mapM fun d hd => Gate.make_accepts (hkeys d hd)).bind
        fun gates _ => .pure _).congr fun task => ?_
      constructor
      · rintro ⟨gates, hgates, rfl⟩
        exact ⟨r, gates, rfl, hnone, hgates, rfl⟩
      · rintro ⟨_, gates, hr, -, hgates, rfl⟩
        cases hr
        exact ⟨gates, hgates, rfl⟩

end DependencyGate
