import DependencyGate.Settings
import DependencyGate.Time.ZoneName

/-!
# Active settings

The settings in force over a run of calls, each made under an environment of its own. They have
always passed their check, whatever the names of zones are. A call that fails leaves them as they
were; only overrides that are refused where no settings were in force leave those behind that were
loaded for them (`governed_over_calls`).
-/

namespace DependencyGate
namespace SettingsHolder

open Time (ZoneBase)

inductive Call
  | put (s : Settings)
  | reload
  | clear
  | get
  | resolve (o : Overrides)

section
variable (zones : ZoneBase)

/-- What a call answers and leaves in force. To put settings and to clear them answers nothing. -/
def Call.make (env : Environment) (h : SettingsHolder) :
    Call → Except SettingProblem (Option Settings) × SettingsHolder
  | .put s => ((h.put zones s).1.map fun _ => none, (h.put zones s).2)
  | .reload => ((h.reload zones env).1.map some, (h.reload zones env).2)
  | .clear => (.ok none, h.clear)
  | .get => ((h.get zones env).1.map some, (h.get zones env).2)
  | .resolve o => ((h.resolve zones env o).1.map some, (h.resolve zones env o).2)

def after (h : SettingsHolder) : List (Environment × Call) → SettingsHolder
  | [] => h
  | (env, c) :: rest => after (c.make zones env h).2 rest

/-- The calls that end what is in force: those that store settings, if they return, and clearing. -/
def Call.Replaces (env : Environment) (h : SettingsHolder) : Call → Prop
  | .put s => (h.put zones s).1 = .ok ()
  | .reload => ∃ s, (h.reload zones env).1 = .ok s
  | .clear => True
  | .get => False
  | .resolve _ => False

def Undisturbed (h : SettingsHolder) : List (Environment × Call) → Prop
  | [] => True
  | (env, c) :: rest => ¬ c.Replaces zones env h ∧ Undisturbed (c.make zones env h).2 rest

/-- All that a call can do: it leaves what is in force, stores settings that are fit, clears
them, or loads those of the environment where there are none. -/
inductive Call.Leaves (env : Environment) (h : SettingsHolder) :
    Call → Except SettingProblem (Option Settings) → SettingsHolder → Prop
  | kept {c a} (hc : ¬ c.Replaces zones env h) : Leaves env h c a h
  | put {s} (hc : (Call.put s).Replaces zones env h) (hfit : s.check zones = .ok ()) :
    Leaves env h (.put s) (.ok none) ⟨some s⟩
  | reload (hc : Call.reload.Replaces zones env h)
    (hfit : (Settings.ofEnvironment env).check zones = .ok ()) :
    Leaves env h .reload (.ok (some (Settings.ofEnvironment env)))
      ⟨some (Settings.ofEnvironment env)⟩
  | clear : Leaves env h .clear (.ok none) ⟨none⟩
  | get (hnone : h.active = none) (hfit : (Settings.ofEnvironment env).check zones = .ok ()) :
    Leaves env h .get (.ok (some (Settings.ofEnvironment env)))
      ⟨some (Settings.ofEnvironment env)⟩
  | resolve {o a} (hnone : h.active = none)
    (hfit : (Settings.ofEnvironment env).check zones = .ok ()) :
    Leaves env h (.resolve o) a ⟨some (Settings.ofEnvironment env)⟩

end

variable {zones : ZoneBase} {env : Environment} {h h' : SettingsHolder} {s : Settings}
  {o : Overrides}
  {p : SettingProblem} {c : Call} {a : Except SettingProblem (Option Settings)}

-- ---------------------------------------------------------------------------
-- One call
-- ---------------------------------------------------------------------------

theorem put_of_fit (hfit : s.check zones = .ok ()) : h.put zones s = (.ok (), ⟨some s⟩) := by
  simp only [put, hfit]

theorem put_cases (zones : ZoneBase) (s : Settings) (h : SettingsHolder) :
    s.check zones = .ok () ∨ ∃ p, h.put zones s = (.error p, h) := by
  cases hcheck : s.check zones with
  | ok _ => exact .inl rfl
  | error p => exact .inr ⟨p, by simp only [put, hcheck]⟩

theorem reload_of_fit (hfit : (Settings.ofEnvironment env).check zones = .ok ()) :
    h.reload zones env =
      (.ok (Settings.ofEnvironment env), ⟨some (Settings.ofEnvironment env)⟩) := by
  simp only [reload, put_of_fit hfit]

theorem reload_cases (zones : ZoneBase) (env : Environment) (h : SettingsHolder) :
    (Settings.ofEnvironment env).check zones = .ok () ∨
      ∃ p, h.reload zones env = (.error p, h) := by
  obtain hfit | ⟨p, hput⟩ := put_cases zones (Settings.ofEnvironment env) h
  · exact .inl hfit
  · exact .inr ⟨p, by simp only [reload, hput]⟩

theorem get_of_active (hactive : h.active = some s) : h.get zones env = (.ok s, h) := by
  simp only [get, hactive]

theorem get_of_none (hnone : h.active = none) : h.get zones env = h.reload zones env := by
  simp only [get, hnone]

theorem resolve_snd (zones : ZoneBase) (env : Environment) (o : Overrides) (h : SettingsHolder) :
    (h.resolve zones env o).2 = (h.get zones env).2 := by
  unfold resolve
  split
  next _ _ hget => rw [hget]
  next _ _ hget =>
    rw [hget]
    dsimp only
    split <;> rfl

theorem resolve_ok_iff {r : Settings} : (h.resolve zones env o).1 = .ok r ↔
    ∃ s, (h.get zones env).1 = .ok s ∧ r = o.apply s ∧ r.check zones = .ok () := by
  unfold resolve
  split
  next p _ hget =>
    rw [hget]
    constructor
    · nofun
    · rintro ⟨_, hs, -⟩
      cases hs
  next s _ hget =>
    rw [hget]
    dsimp only
    cases hcheck : (o.apply s).check zones with
    | ok _ =>
      constructor
      · rintro ⟨⟩
        exact ⟨s, rfl, rfl, hcheck⟩
      · rintro ⟨_, ⟨⟩, rfl, -⟩
        rfl
    | error p =>
      constructor
      · nofun
      · rintro ⟨_, ⟨⟩, rfl, hfit⟩
        cases hcheck.symm.trans hfit

theorem get_cases (zones : ZoneBase) (env : Environment) (h : SettingsHolder) :
    (h.get zones env).2 = h ∨
      h.active = none ∧ (Settings.ofEnvironment env).check zones = .ok () ∧
        h.get zones env =
          (.ok (Settings.ofEnvironment env), ⟨some (Settings.ofEnvironment env)⟩) := by
  cases hactive : h.active with
  | some s => exact .inl (by rw [get_of_active hactive])
  | none =>
    rw [get_of_none hactive]
    obtain hfit | ⟨p, hreload⟩ := reload_cases zones env h
    · exact .inr ⟨rfl, hfit, reload_of_fit hfit⟩
    · exact .inl (by rw [hreload])

theorem make_leaves (zones : ZoneBase) (env : Environment) (h : SettingsHolder) (c : Call) :
    c.Leaves zones env h (c.make zones env h).1 (c.make zones env h).2 := by
  cases c with
  | put s =>
    obtain hfit | ⟨p, hput⟩ := put_cases zones s h
    · have hput := put_of_fit (h := h) hfit
      simp only [Call.make, hput]
      exact .put (congrArg Prod.fst hput) hfit
    · simp only [Call.make, hput]
      exact .kept (by simp only [Call.Replaces, hput]; nofun)
  | reload =>
    obtain hfit | ⟨p, hreload⟩ := reload_cases zones env h
    · have hreload := reload_of_fit (h := h) hfit
      simp only [Call.make, hreload]
      exact .reload ⟨_, congrArg Prod.fst hreload⟩ hfit
    · simp only [Call.make, hreload]
      exact .kept (by simp only [Call.Replaces, hreload]; nofun)
  | clear => exact .clear
  | get =>
    obtain hkept | ⟨hnone, hfit, hget⟩ := get_cases zones env h
    · simp only [Call.make, hkept]
      exact .kept id
    · simp only [Call.make, hget]
      exact .get hnone hfit
  | resolve o =>
    simp only [Call.make, resolve_snd]
    obtain hkept | ⟨hnone, hfit, hget⟩ := get_cases zones env h
    · rw [hkept]
      exact .kept id
    · rw [hget]
      exact .resolve hnone hfit

-- ---------------------------------------------------------------------------
-- Runs of calls
-- ---------------------------------------------------------------------------

def Fit (zones : ZoneBase) (h : SettingsHolder) : Prop :=
  ∀ s, h.active = some s → s.check zones = .ok ()

theorem fit_empty : Fit zones {} := by
  rintro _ ⟨⟩

theorem Call.Leaves.fit (hleaves : c.Leaves zones env h a h') (hfit : h.Fit zones) :
    h'.Fit zones := by
  cases hleaves with
  | kept _ => exact hfit
  | clear => nofun
  | put _ hs | reload _ hs | get _ hs | resolve _ hs =>
    rintro _ ⟨⟩
    exact hs

theorem after_fit (hfit : h.Fit zones) (past : List (Environment × Call)) :
    (after zones h past).Fit zones := by
  induction past generalizing h with
  | nil => exact hfit
  | cons step rest ih => exact ih ((make_leaves zones step.1 h step.2).fit hfit)

theorem Call.Leaves.eq_of_failed (hleaves : c.Leaves zones env h (.error p) h')
    (hactive : ∀ o, c = .resolve o → h.active ≠ none) : h' = h := by
  cases hleaves with
  | kept _ => rfl
  | resolve hnone _ => exact absurd hnone (hactive _ rfl)

theorem Call.Leaves.eq_of_active (hleaves : c.Leaves zones env h a h') (hactive : h.active = some s)
    (hkept : ¬ c.Replaces zones env h) : h' = h := by
  have hsome : h.active ≠ none := by rw [hactive]; nofun
  cases hleaves with
  | kept _ => rfl
  | put hc _ | reload hc _ => exact absurd hc hkept
  | clear => exact absurd trivial hkept
  | get hnone _ => exact absurd hnone hsome
  | resolve hnone _ => exact absurd hnone hsome

theorem after_undisturbed (hactive : h.active = some s) {later : List (Environment × Call)}
    (hlater : Undisturbed zones h later) : after zones h later = h := by
  induction later with
  | nil => rfl
  | cons step rest ih =>
    obtain ⟨hkept, hrest⟩ := hlater
    have hsame := (make_leaves zones step.1 h step.2).eq_of_active hactive hkept
    rw [after, hsame]
    rw [hsame] at hrest
    exact ih hrest

structure Governed (zones : ZoneBase) (h : SettingsHolder) : Prop where
  fit : ∀ s, h.active = some s → s.check zones = .ok ()
  stored : ∀ s, s.check zones = .ok () → h.put zones s = (.ok (), ⟨some s⟩)
  loaded : ∀ env, (Settings.ofEnvironment env).check zones = .ok () →
    h.reload zones env = (.ok (Settings.ofEnvironment env), ⟨some (Settings.ofEnvironment env)⟩)
  first : ∀ env, h.active = none → h.get zones env = h.reload zones env
  failed : ∀ env (c : Call) p, (c.make zones env h).1 = .error p →
    (∀ o, c = .resolve o → h.active ≠ none) → (c.make zones env h).2 = h
  stable : ∀ s, h.active = some s → ∀ later, Undisturbed zones h later → ∀ env,
    (after zones h later).get zones env = (.ok s, after zones h later)
  overridden : ∀ env o s, h.active = some s → (h.resolve zones env o).2 = h ∧
    ∀ r, (h.resolve zones env o).1 = .ok r ↔ r = o.apply s ∧ r.check zones = .ok ()
  /-- Where nothing is in force, overrides leave what the load before them leaves, also if they
  are refused. -/
  absent : ∀ env o, h.active = none → (h.resolve zones env o).2 = (h.get zones env).2

/-- Whatever the calls were, whatever the environment was at each of them, and whatever the names
of zones are. -/
theorem governed_over_calls (zones : ZoneBase) (past : List (Environment × Call)) :
    (after zones {} past).Governed zones := by
  refine ⟨after_fit fit_empty past, ?stored, ?loaded, ?first, ?failed, ?stable, ?overridden,
    ?absent⟩
  case stored =>
    intro s hfit
    exact put_of_fit hfit
  case loaded =>
    intro env hfit
    exact reload_of_fit hfit
  case first =>
    intro env hnone
    exact get_of_none hnone
  case failed =>
    intro env c p hfailed hactive
    have hleaves := make_leaves zones env (after zones {} past) c
    rw [hfailed] at hleaves
    exact hleaves.eq_of_failed hactive
  case stable =>
    intro s hactive later hlater env
    rw [after_undisturbed hactive hlater]
    exact get_of_active hactive
  case overridden =>
    intro env o s hactive
    refine ⟨by rw [resolve_snd, get_of_active hactive], fun r => ?_⟩
    rw [resolve_ok_iff, get_of_active hactive]
    constructor
    · rintro ⟨_, ⟨⟩, hr⟩
      exact hr
    · exact fun hr => ⟨s, rfl, hr⟩
  case absent =>
    intro env o _
    exact resolve_snd zones env o _

/-- The environment changes, settings and overrides are refused: what was loaded stays. -/
theorem loaded_stays_in_force :
    let early : Environment := [("DEPFLOW_POLL_INTERVAL", "2")]
    let late : Environment := [("DEPFLOW_POLL_INTERVAL", "5")]
    let h := after .known {} [(early, .get)]
    h.active = some (Settings.ofEnvironment early) ∧
      ((after .known h [(late, .put { pollInterval := .whole 0 }),
        (late, .resolve { timezone := some "Mars/Olympus_Mons" })]).get .known late).1 =
      .ok (Settings.ofEnvironment early) := by
  intro early late h
  have hactive : h.active = some (Settings.ofEnvironment early) := by decide +kernel
  have hrefused : (h.put .known { pollInterval := .whole 0 }).1.isOk = false := by decide +kernel
  have hlater : Undisturbed .known h [(late, .put { pollInterval := .whole 0 }),
      (late, .resolve { timezone := some "Mars/Olympus_Mons" })] := by
    refine ⟨?_, id, trivial⟩
    intro hput
    rw [Call.Replaces] at hput
    rw [hput] at hrefused
    cases hrefused
  have hstable := (governed_over_calls .known [(early, .get)]).stable _ hactive _ hlater late
  exact ⟨hactive, congrArg Prod.fst hstable⟩

/-- Refused overrides leave settings in force where there were none. -/
theorem refused_overrides_load :
    let env : Environment := [("DEPFLOW_POLL_INTERVAL", "2")]
    let h : SettingsHolder := after .known {} []
    let c : Call := .resolve { timezone := some "Mars/Olympus_Mons" }
    h.active = none ∧ (∃ p, (c.make .known env h).1 = .error p) ∧
      (c.make .known env h).2.active = some (Settings.ofEnvironment env) := by
  intro env h c
  refine ⟨rfl, ?_, by decide +kernel⟩
  have hrefused : (c.make .known env h).1.isOk = false := by decide +kernel
  cases hanswer : (c.make .known env h).1 with
  | ok _ =>
    rw [hanswer] at hrefused
    cases hrefused
  | error p => exact ⟨p, rfl⟩

end SettingsHolder
end DependencyGate
