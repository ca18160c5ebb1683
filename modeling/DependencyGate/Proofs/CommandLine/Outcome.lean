import DependencyGate.CommandLine
import DependencyGate.Proofs.ActiveSettings
import DependencyGate.Proofs.Declaration.Accepted
import DependencyGate.Proofs.History.Staged

/-!
# What a check comes to

A check reads a time, settings and a file, polls the task once, and only then prints. What it has by
then is a task or the reason why there is none (`Situation.polled`). All reasons are incidents or
unfit values but two: the document is nested too deeply, or the address of the database is one that
cannot be used at all (`polled_fault`).
-/

namespace DependencyGate.CommandLine

open Json (Value)
open Rehearsal (HistorySource Stage)

def Situation.polled (s : Situation) (file : String) (contents : Contents)
    (database timezone moment : Option String) : Except Trouble GatedTask := do
  let reference ← s.checkTime moment
  let settings ← (s.settings { timezone := timezone, databaseUrl := database }).mapError .fault
  let p ← (s.prepare file contents settings).mapError .fault
  match GatedTask.poll Stage.collaborators reference (p.task, p.world) with
  | (.error f, _) => .error (.fault f)
  | (.ok _, task, _) => .ok task

variable {s : Situation} {file : String} {contents : Contents}
  {database timezone moment : Option String}

/-- How a check ends is decided by what it comes to. -/
theorem check_eq : check s file contents database timezone moment =
    match s.polled file contents database timezone moment with
    | .ok task => s.packages.showResults task (verdictCode task.verdict)
    | .error .interrupted => .exit interruptCode {}
    | .error (.fault f) => s.packages.endingOf f := by
  unfold check Situation.polled
  cases s.checkTime moment with
  | error trouble => cases trouble <;> rfl
  | ok reference =>
    simp only [bind, Except.bind]
    cases s.settings { timezone := timezone, databaseUrl := database } with
    | error f => rfl
    | ok settings =>
      simp only [Except.mapError]
      cases s.prepare file contents settings with
      | error f => rfl
      | ok p =>
        dsimp only
        rcases GatedTask.poll Stage.collaborators reference (p.task, p.world) with
          ⟨f | answer, rest⟩
        · rfl
        · rfl

-- ---------------------------------------------------------------------------
-- Times and settings
-- ---------------------------------------------------------------------------

theorem checkTime_error (h : s.checkTime moment = .error trouble) :
    (∃ p, trouble = .fault (.foreign (.momentText p))) ∨ trouble = .interrupted ∧ s.now = none := by
  unfold Situation.checkTime at h
  split at h
  next =>
    split at h
    next => cases h
    next p _ =>
      cases h
      exact .inl ⟨p, rfl⟩
  next =>
    split at h
    next => cases h
    next hnow =>
      cases h
      exact .inr ⟨rfl, hnow⟩

theorem settings_error {o : SettingsHolder.Overrides} (h : s.settings o = .error f) :
    ∃ p, f = .foreign (.setting p) := by
  unfold Situation.settings at h
  split at h
  next => cases h
  next p _ =>
    cases h
    exact ⟨p, rfl⟩

theorem settings_ok {o : SettingsHolder.Overrides} (h : s.settings o = .ok settings) :
    settings.check s.packages.zones = .ok () := by
  unfold Situation.settings at h
  split at h
  next settings' hresolved =>
    cases h
    obtain ⟨_, -, -, hcheck⟩ := SettingsHolder.resolve_ok_iff.mp hresolved
    exact hcheck
  next => cases h

theorem findZone_of_check {zones : Time.ZoneBase} {settings : Settings} (hzones : zones.Complete)
    (h : settings.check zones = .ok ()) : ∃ z, findZone zones settings.timezone = .ok z := by
  simp only [Settings.check, ite_error_ok] at h
  obtain ⟨-, -, hzone, -, -⟩ := h
  cases hname : settings.timezone with
  | none => exact ⟨none, rfl⟩
  | some name =>
    rw [hname, Option.any_some] at hzone
    obtain ⟨z, hz⟩ := hzones name (by simpa using hzone)
    unfold findZone
    split
    next => exact ⟨none, rfl⟩
    next => exact ⟨none, rfl⟩
    next heq =>
      cases heq
      exact ⟨some z, by rw [hz]⟩

-- ---------------------------------------------------------------------------
-- Documents and histories
-- ---------------------------------------------------------------------------

theorem document_error (hpaired : contents.document ≠ .error (.document .unpairedHalf))
    (h : contents.document = .error f) :
    f.cls.isValueClass = true ∨ f = .document .deepNesting := by
  cases contents with
  | undecodable complaint =>
    cases h
    exact .inl rfl
  | text t =>
    have hd := h
    obtain ⟨d, -, rfl⟩ := mapError_error.mp hd
    cases d with
    | deepNesting => exact .inr rfl
    | malformed _ _ _ _ => exact .inl rfl
    | longNumber _ => exact .inl rfl
    | unpairedHalf => exact absurd h hpaired

theorem readParameters_error (h : readParameters contents = .error f) :
    (∃ i, f = .own i) ∨ ∃ d, f = .foreign d ∧ contents.document = .error d := by
  unfold readParameters at h
  split at h
  next d hd =>
    cases h
    exact .inr ⟨d, rfl, hd⟩
  next document _ =>
    cases hparse : Parameters.parse document with
    | ok p =>
      rw [hparse] at h
      cases h
    | error i =>
      rw [hparse] at h
      cases h
      exact .inl ⟨i, rfl⟩

theorem readParameters_ok (h : readParameters contents = .ok p) :
    ∀ d ∈ p.declarations, TextKeys d.items := by
  unfold readParameters at h
  split at h
  next => cases h
  next document _ => exact Parameters.textKeys_of_read (Parameters.parse_ok.mp (mapError_ok.mp h))

theorem openHistory_error (h : s.openHistory address = .error f) :
    ∃ a, f = .foreign a ∧ s.packages.locate address = .error a := by
  unfold Situation.openHistory at h
  split at h
  next a ha =>
    cases h
    exact ⟨a, rfl, ha⟩
  next => cases h

theorem openHistory_kept (hkept : ∀ path, (s.database path).Kept)
    (h : s.openHistory address = .ok history) : history.Kept := by
  unfold Situation.openHistory at h
  split at h
  next => cases h
  next place _ =>
    cases h
    cases place with
    | empty => exact fun t ht => nomatch ht
    | file path => exact hkept path
    | refused f => trivial

-- ---------------------------------------------------------------------------
-- What is prepared
-- ---------------------------------------------------------------------------

def ValidItems (gates : List Gate) : Prop :=
  ∀ g ∈ gates, ∀ item ∈ g.items, item.Valid ∧ ∃ key, item.key = .str key

structure Prepared.Ready (p : Prepared) (history : HistorySource) : Prop where
  items : ValidItems p.task.gates
  sound : ∀ g ∈ p.task.gates, g.Sound
  staged : history.Staged p.world.state

theorem makes_validItems {p : Parameters} (hkeys : ∀ d ∈ p.declarations, TextKeys d.items)
    (h : Makes p task) : ValidItems task.gates := by
  obtain ⟨_, gates, -, -, hguards, rfl⟩ := h
  intro g hg item hitem
  obtain ⟨d, hd, r, -, -, hvalid, -, rfl⟩ := exists_of_forall₂ hguards hg
  exact ⟨hvalid item hitem, hkeys d hd item hitem⟩

theorem make_on_stage {p : Parameters} {w w' : World Stage}
    (hkeys : ∀ d ∈ p.declarations, TextKeys d.items)
    (h : GatedTask.make Stage.collaborators p w = (result, w'))
    (hw : w.state = ⟨.zoned zone, history⟩) :
    history.Staged w'.state ∧ (∀ task, result = .ok task → Makes p task) ∧
      ∀ f, result = .error f → ∃ i, f = .own i := by
  obtain ⟨hstage, hmade, hfault⟩ := GatedTask.make_accepts hkeys w ⟨zone, hw⟩
  rw [h] at hstage hmade hfault
  obtain ⟨_, hstage⟩ := hstage
  refine ⟨congrArg Stage.history hstage, fun task => (hmade task).mp, fun f hf => ?_⟩
  obtain ⟨i, hi, -⟩ := hfault f hf
  exact ⟨i, hi⟩

theorem prepare_ok {settings : Settings} (h : s.prepare file contents settings = .ok p) :
    ∃ history, s.openHistory settings.databaseUrl = .ok history ∧ p.Ready history := by
  unfold Situation.prepare at h
  obtain ⟨parameters, hparameters, h⟩ := bind_ok.mp h
  obtain ⟨history, hhistory, h⟩ := bind_ok.mp h
  obtain ⟨zone, -, h⟩ := bind_ok.mp h
  have hkeys := readParameters_ok hparameters
  dsimp only at h
  split at h
  next task w hmake =>
    cases h
    obtain ⟨hstaged, hmade, -⟩ := make_on_stage hkeys hmake rfl
    exact ⟨history, hhistory, makes_validItems hkeys (hmade task rfl), GatedTask.make_sound hmake,
      hstaged⟩
  next => cases h

theorem prepare_error {settings : Settings} (hzones : s.packages.zones.Complete)
    (hcheck : settings.check s.packages.zones = .ok ())
    (h : s.prepare file contents settings = .error f) :
    (∃ i, f = .own i) ∨ (∃ d, f = .foreign d ∧ contents.document = .error d) ∨
      ∃ a, f = .foreign a ∧ s.packages.locate settings.databaseUrl = .error a := by
  unfold Situation.prepare at h
  rcases bind_error.mp h with h | ⟨parameters, hparameters, h⟩
  · exact (readParameters_error h).imp_right .inl
  rcases bind_error.mp h with h | ⟨history, -, h⟩
  · exact .inr (.inr (openHistory_error h))
  obtain ⟨z, hz⟩ := findZone_of_check hzones hcheck
  rw [hz] at h
  rcases bind_error.mp h with h | ⟨zone, -, h⟩
  · cases h
  dsimp only at h
  split at h
  next => cases h
  next f' w hmake =>
    cases h
    obtain ⟨-, -, hfault⟩ := make_on_stage (readParameters_ok hparameters) hmake rfl
    exact .inl (hfault f rfl)

-- ---------------------------------------------------------------------------
-- The outcome
-- ---------------------------------------------------------------------------

/-- A check reaches its poll only with all that is needed, and then returns or meets an incident. -/
theorem polled_fault (hzones : s.packages.zones.Complete)
    (hkept : ∀ path, (s.database path).Kept)
    (hpaired : contents.document ≠ .error (.document .unpairedHalf))
    (h : s.polled file contents database timezone moment = .error (.fault (.foreign f))) :
    f.cls.isValueClass = true ∨
      f = .document .deepNesting ∧ contents.document = .error (.document .deepNesting) ∨
      ∃ settings, s.settings { timezone := timezone, databaseUrl := database } = .ok settings ∧
        s.packages.locate settings.databaseUrl = .error f := by
  unfold Situation.polled at h
  rcases bind_error.mp h with h | ⟨reference, -, h⟩
  · obtain ⟨p, ⟨⟩⟩ | ⟨⟨⟩, -⟩ := checkTime_error h
    exact .inl rfl
  rcases bind_error.mp h with h | ⟨settings, hsettings, h⟩
  · obtain ⟨f', hf', ⟨⟩⟩ := mapError_error.mp h
    obtain ⟨p, ⟨⟩⟩ := settings_error hf'
    exact .inl rfl
  replace hsettings := mapError_ok.mp hsettings
  rcases bind_error.mp h with h | ⟨p, hp, h⟩
  · obtain ⟨f', hf', ⟨⟩⟩ := mapError_error.mp h
    obtain ⟨i, ⟨⟩⟩ | ⟨d, ⟨⟩, hd⟩ | ⟨a, ⟨⟩, ha⟩ := prepare_error hzones (settings_ok hsettings) hf'
    · obtain hvalue | rfl := document_error hpaired hd
      · exact .inl hvalue
      · exact .inr (.inl ⟨rfl, hd⟩)
    · exact .inr (.inr ⟨settings, hsettings, ha⟩)
  · obtain ⟨history, hhistory, hready⟩ := prepare_ok (mapError_ok.mp hp)
    split at h
    next f' _ hpoll =>
      cases h
      obtain ⟨i, ⟨⟩⟩ := Stage.poll_fault_own (openHistory_kept hkept hhistory) hready.sound
        hready.staged (congrArg Prod.fst hpoll)
    next => cases h

theorem polled_not_interrupted (hnow : s.now.isSome) :
    s.polled file contents database timezone moment ≠ .error .interrupted := by
  intro h
  unfold Situation.polled at h
  rcases bind_error.mp h with h | ⟨reference, -, h⟩
  · obtain ⟨p, ⟨⟩⟩ | ⟨-, hnone⟩ := checkTime_error h
    rw [hnone] at hnow
    cases hnow
  rcases bind_error.mp h with h | ⟨settings, -, h⟩
  · obtain ⟨f, -, ⟨⟩⟩ := mapError_error.mp h
  rcases bind_error.mp h with h | ⟨p, -, h⟩
  · obtain ⟨f, -, ⟨⟩⟩ := mapError_error.mp h
  · split at h <;> cases h

theorem polled_ok (h : s.polled file contents database timezone moment = .ok task) :
    ValidItems task.gates := by
  unfold Situation.polled at h
  obtain ⟨reference, -, h⟩ := bind_ok.mp h
  obtain ⟨settings, -, h⟩ := bind_ok.mp h
  obtain ⟨p, hp, h⟩ := bind_ok.mp h
  obtain ⟨history, -, hready⟩ := prepare_ok (mapError_ok.mp hp)
  split at h
  next => cases h
  next answer task' w hpoll =>
    cases h
    obtain ⟨answers, polled, w₁, w₂, hgates, heq⟩ :=
      GatedTask.poll_eq Stage.collaborators reference p.task p.world
    have hpolled : task.gates = polled := by
      rw [hpoll] at heq
      exact congrArg (fun r => r.2.1.gates) heq
    rw [hpolled]
    intro g hg item hitem
    obtain ⟨-, g₀, hg₀, hext⟩ := pollGates_sound hready.sound hgates g hg
    rw [hext.items] at hitem
    exact hready.items g₀ hg₀ item hitem

end DependencyGate.CommandLine
