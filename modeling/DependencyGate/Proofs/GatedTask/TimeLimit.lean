import DependencyGate.Proofs.GatedTask.Loop
import DependencyGate.Settings
import DependencyGate.Time.ZoneName

/-!
# The time limit of the polling loop

While some gate of a task stays open, only the limit ends its loop. On a clock that the waits alone
advance, each by exactly the interval, the loop ends in the first turn that finds the time up. The
check of settings passes numbers with which no turn ever does: an infinite limit over finite waits,
and an interval or a limit that is not a number (`run_ends_when_time_is_up`).
-/

namespace DependencyGate

open Number (Binary64 Quantity)
open Number.Binary64 (Place)

-- ---------------------------------------------------------------------------
-- Exact durations
-- ---------------------------------------------------------------------------

theorem Number.twoTo_pos (n : Nat) : 0 < Number.twoTo n := Nat.two_pow_pos n

/-- The exact sum. Infinities of opposite signs have none. -/
def Number.Binary64.Place.plus : Place → Place → Option Place
  | .at a, .at b => some (.at (a + b))
  | .above, .below => none
  | .below, .above => none
  | .above, _ => some .above
  | _, .above => some .above
  | .below, _ => some .below
  | _, .below => some .below

namespace Number.Quantity

/-- The time once this much more has passed; none when one of them is not a number. -/
def after (passed : Option Place) (more : Quantity) : Option Place :=
  passed.bind fun p => more.place?.bind p.plus

def waits (interval : Quantity) : Nat → Option Place
  | 0 => some (.at 0)
  | k + 1 => after (waits interval k) interval

def IsUp (interval limit : Quantity) (k : Nat) : Prop :=
  ∃ most passed, limit.place? = some most ∧ interval.waits k = some passed ∧ most.le passed = true

/-- What waits of this length come to: both are numbers, and finite waits need a finite limit. -/
structure ComesTo (interval limit : Quantity) : Prop where
  wait : interval.place? ≠ none
  most : limit.place? ≠ none
  finite : limit.place? = some .above → interval.place? = some .above

theorem place_of_positive {q : Quantity} (h : q.le (.whole 0) = false) :
    q.place? = none ∨ (∃ u : Int, 0 < u ∧ q.place? = some (.at u)) ∨ q.place? = some .above := by
  have hzero : (whole 0).place? = some (.at 0) := by
    rw [place?, Binary64.unitsOfInt, Int.zero_mul]
  unfold le at h
  rw [hzero] at h
  cases hq : q.place? with
  | none => exact .inl rfl
  | some p =>
    rw [hq] at h
    cases p with
    | below => cases h
    | above => exact .inr (.inr rfl)
    | «at» u =>
      refine .inr (.inl ⟨u, ?_, rfl⟩)
      simpa [Place.le] using h

theorem waits_of_finite {interval : Quantity} {u : Int} (h : interval.place? = some (.at u))
    (k : Nat) : interval.waits k = some (.at (k * u)) := by
  induction k with
  | zero => simp [waits]
  | succ k ih =>
    rw [waits, ih, after, h]
    simp [Place.plus, Int.add_mul]

theorem waits_of_infinite {interval : Quantity} (h : interval.place? = some .above) (k : Nat) :
    interval.waits (k + 1) = some .above := by
  induction k with
  | zero => simp [waits, after, h, Place.plus]
  | succ k ih =>
    rw [waits, ih, after, h]
    rfl

theorem isUp_iff_of_finite {interval limit : Quantity} {u most : Int}
    (hwait : interval.place? = some (.at u)) (hmost : limit.place? = some (.at most)) :
    interval.IsUp limit k ↔ most ≤ k * u := by
  simp [IsUp, hmost, waits_of_finite hwait, Place.le]

theorem not_isUp_zero {interval limit : Quantity} (hlimit : limit.le (.whole 0) = false) :
    ¬ interval.IsUp limit 0 := by
  rintro ⟨most, passed, hmost, hpassed, hle⟩
  cases hpassed
  rcases place_of_positive hlimit with hnone | ⟨u, hu, hfinite⟩ | habove
  · cases hnone.symm.trans hmost
  · cases hfinite.symm.trans hmost
    have hu' : u ≤ 0 := by simpa [Place.le] using hle
    omega
  · cases habove.symm.trans hmost
    cases hle

theorem exists_isUp_iff {interval limit : Quantity} (hinterval : interval.le (.whole 0) = false)
    (hlimit : limit.le (.whole 0) = false) :
    (∃ k, interval.IsUp limit k) ↔ interval.ComesTo limit := by
  constructor
  · rintro ⟨k, hup⟩
    cases k with
    | zero => exact absurd hup (not_isUp_zero hlimit)
    | succ k =>
      obtain ⟨most, passed, hmost, hpassed, hle⟩ := hup
      have hnumber : interval.place? ≠ none := by
        intro hnone
        rw [waits, after, hnone] at hpassed
        cases hk : interval.waits k <;> simp [hk] at hpassed
      refine ⟨hnumber, by simp [hmost], fun habove => ?_⟩
      cases habove.symm.trans hmost
      rcases place_of_positive hinterval with hnone | ⟨u, -, hfinite⟩ | hinfinite
      · exact absurd hnone hnumber
      · rw [waits_of_finite hfinite] at hpassed
        cases hpassed
        cases hle
      · exact hinfinite
  · rintro ⟨hnumber, hnumber', hfinite⟩
    rcases place_of_positive hinterval with hnone | ⟨u, hu, hplace⟩ | hplace
    · exact absurd hnone hnumber
    · rcases place_of_positive hlimit with hnone' | ⟨most, hmost, hplace'⟩ | hplace'
      · exact absurd hnone' hnumber'
      · -- A wait takes at least one unit.
        refine ⟨most.toNat, (isUp_iff_of_finite hplace hplace').mpr ?_⟩
        rw [Int.toNat_of_nonneg (Int.le_of_lt hmost)]
        have hunit : most * 1 ≤ most * u := Int.mul_le_mul_of_nonneg_left hu (Int.le_of_lt hmost)
        simpa using hunit
      · cases hplace.symm.trans (hfinite hplace')
    · obtain ⟨most, hmost⟩ := Option.ne_none_iff_exists'.mp hnumber'
      refine ⟨1, most, .above, hmost, waits_of_infinite hplace 0, ?_⟩
      cases most <;> rfl

end Number.Quantity

theorem Settings.durations_of_check {zones : Time.ZoneBase} {settings : Settings}
    (h : settings.check zones = .ok ()) :
    settings.pollInterval.le (.whole 0) = false ∧
      ∀ limit, settings.timeout = some limit → limit.le (.whole 0) = false := by
  simp only [Settings.check, ite_error_ok, Bool.not_eq_true] at h
  obtain ⟨hinterval, htimeout, -⟩ := h
  refine ⟨hinterval, fun limit hlimit => ?_⟩
  simpa [hlimit] using htimeout

-- ---------------------------------------------------------------------------
-- Turns on an exact clock
-- ---------------------------------------------------------------------------

variable {τ σ : Type} {c : Collaborators σ} {e : Surroundings τ σ}

/-- On the clock of the loop exactly the waits pass, each of this length. -/
structure Surroundings.Paced (e : Surroundings τ σ) (interval : Quantity) : Prop where
  read : ∀ poll t state, e.elapsed (e.read poll t state).2.1 = e.elapsed t
  wait : ∀ t, e.elapsed (e.wait t).2 = Quantity.after (e.elapsed t) interval

namespace GatedTask

variable {s : LoopState τ σ}

def LoopState.Reaches (c : Collaborators σ) (e : Surroundings τ σ) (limit : Option Quantity)
    (s : LoopState τ σ) (k : Nat) : Prop :=
  ∀ j < k, (turn c e limit (s.head c e j)).1 = none

/-- As long as the loop runs nobody cancels, and every poll returns with some gate open. -/
structure LoopState.StaysOpen (c : Collaborators σ) (e : Surroundings τ σ)
    (limit : Option Quantity) (s : LoopState τ σ) : Prop where
  cancelled : ∀ k, s.Reaches c e limit k → (s.head c e k).task.cancelled = false
  polled : ∀ k, s.Reaches c e limit k → ((s.head c e k).pollNow c e).1 = .ok false

namespace LoopState

theorem cancelIf_surroundings (s : LoopState τ σ) (asked : Bool) :
    (s.cancelIf asked).surroundings = s.surroundings := by
  unfold cancelIf
  split <;> rfl

theorem pollNow_elapsed (c : Collaborators σ) (h : e.Paced interval) (s : LoopState τ σ) :
    e.elapsed (s.pollNow c e).2.surroundings = e.elapsed s.surroundings := by
  change e.elapsed (s.readClock e).2.surroundings = _
  rw [readClock, cancelIf_surroundings]
  exact h.read _ _ _

theorem pollNow_polls (c : Collaborators σ) (e : Surroundings τ σ) (s : LoopState τ σ) :
    (s.pollNow c e).2.task.polls = s.task.polls + 1 := by
  obtain ⟨b, htask⟩ := readClock_task e s
  obtain ⟨_, _, _, _, -, hpoll⟩ :=
    poll_eq c (s.readClock e).1 (s.readClock e).2.task (s.readClock e).2.world
  rw [pollNow, poll, hpoll, htask]

theorem next_elapsed (h : e.Paced interval) (hgo : (s.next c e).task.cancelled = false) :
    e.elapsed (s.next c e).surroundings = Quantity.after (e.elapsed s.surroundings) interval := by
  unfold next wait at hgo ⊢
  split at hgo
  next hcancelled => cases hcancelled.symm.trans hgo
  next hopen => rw [if_neg hopen, cancelIf_surroundings, h.wait, pollNow_elapsed c h]

theorem next_polls (c : Collaborators σ) (e : Surroundings τ σ) (s : LoopState τ σ) :
    (s.next c e).task.polls = s.task.polls + 1 := by
  obtain ⟨b, hnext⟩ := next_task c e s
  rw [hnext]
  exact pollNow_polls c e s

theorem head_polls (c : Collaborators σ) (e : Surroundings τ σ) (s : LoopState τ σ) (k : Nat) :
    (s.head c e k).task.polls = s.task.polls + k := by
  induction k with
  | zero => rfl
  | succ k ih => rw [head_succ, next_polls, ih, Nat.add_assoc]

theorem Reaches.mono (h : s.Reaches c e limit k) (hjk : j ≤ k) : s.Reaches c e limit j :=
  fun i hi => h i (hi.trans_le hjk)

end LoopState

section
variable {interval limit : Quantity} (hpaced : e.Paced interval)
  (hstart : e.elapsed s.surroundings = some (.at 0)) (hopen : s.StaysOpen c e (some limit))
include hpaced hstart hopen

theorem head_elapsed (hreach : s.Reaches c e (some limit) k) :
    e.elapsed (s.head c e k).surroundings = interval.waits k := by
  induction k with
  | zero => exact hstart
  | succ k ih =>
    have hgo := hopen.cancelled (k + 1) hreach
    rw [LoopState.head_succ] at hgo ⊢
    rw [LoopState.next_elapsed hpaced hgo, ih (hreach.mono (Nat.le_succ k)), Quantity.waits]

theorem head_timedOut_iff (hreach : s.Reaches c e (some limit) k) :
    ((s.head c e k).pollNow c e).2.timedOut e limit = true ↔ interval.IsUp limit k := by
  unfold LoopState.timedOut Quantity.IsUp
  rw [LoopState.pollNow_elapsed c hpaced, head_elapsed hpaced hstart hopen hreach]
  cases limit.place? with
  | none => simp
  | some most => cases interval.waits k <;> simp

theorem turn_of_reached (hreach : s.Reaches c e (some limit) k) :
    (interval.IsUp limit k ∧ ∃ ended,
      turn c e (some limit) (s.head c e k) = (some (.ok .failed), ended) ∧
      ended.task.verdict = .failed ∧ ended.task.polls = s.task.polls + k + 1) ∨
    (¬ interval.IsUp limit k ∧
      turn c e (some limit) (s.head c e k) = (none, s.head c e (k + 1))) := by
  have hup := head_timedOut_iff hpaced hstart hopen hreach
  have hpoll : (s.head c e k).pollNow c e = (.ok false, ((s.head c e k).pollNow c e).2) :=
    Prod.ext (hopen.polled k hreach) rfl
  rcases turn_open (some limit) (hopen.cancelled k hreach) hpoll with
    ⟨most, ended, hmost, htime, hturn, htask⟩ | ⟨hin, hturn⟩
  · cases hmost
    refine .inl ⟨hup.mp htime, ended, hturn, by rw [htask], ?_⟩
    rw [htask]
    exact (LoopState.pollNow_polls c e _).trans (by rw [LoopState.head_polls])
  · refine .inr ⟨fun h => ?_, ?_⟩
    · cases (hup.mpr h).symm.trans (hin limit rfl)
    · rw [hturn, LoopState.head_succ]
      rfl

theorem reaches_iff : s.Reaches c e (some limit) k ↔ ∀ j < k, ¬ interval.IsUp limit j := by
  constructor
  · intro hreach j hj
    rcases turn_of_reached hpaced hstart hopen (hreach.mono hj.le) with
      ⟨-, ended, hturn, -⟩ | ⟨hin, -⟩
    · have hnone := hreach j hj
      rw [hturn] at hnone
      cases hnone
    · exact hin
  · intro hin
    induction k with
    | zero => exact fun j hj => absurd hj (Nat.not_lt_zero j)
    | succ k ih =>
      have hreach := ih fun j hj => hin j (hj.trans (Nat.lt_succ_self k))
      intro j hj
      rcases Nat.lt_succ_iff_lt_or_eq.mp hj with hlt | rfl
      · exact hreach j hlt
      · rcases turn_of_reached hpaced hstart hopen hreach with ⟨hup, -⟩ | ⟨-, hturn⟩
        · exact absurd hup (hin j hj)
        · rw [hturn]

theorem turn_open_of_not_up (hin : ∀ j < k, ¬ interval.IsUp limit j) :
    ∀ j < k, turn c e (some limit) (s.head c e j) = (none, s.head c e (j + 1)) := by
  intro j hj
  have hreach := (reaches_iff hpaced hstart hopen).mpr hin
  rcases turn_of_reached hpaced hstart hopen (hreach.mono hj.le) with ⟨hup, -⟩ | ⟨-, hturn⟩
  · exact absurd hup (hin j hj)
  · exact hturn

end

/-- Under settings that pass the check, whatever the names of zones are, and as long as nobody
cancels and every poll leaves some gate open, the loop ends if and only if the waits come to the
limit. It then fails, in the first turn that finds the time up, having polled once in every turn. -/
theorem run_ends_when_time_is_up {zones : Time.ZoneBase} {settings : Settings} {limit : Quantity}
    (hcheck : settings.check zones = .ok ()) (hlimit : settings.timeout = some limit)
    (hpaced : e.Paced settings.pollInterval) (hstart : e.elapsed s.surroundings = some (.at 0))
    (hopen : s.StaysOpen c e settings.timeout) :
    (settings.pollInterval.ComesTo limit → ∃ k ended,
      settings.pollInterval.IsUp limit k ∧ (∀ j < k, ¬ settings.pollInterval.IsUp limit j) ∧
      (∀ fuel, run c e settings.timeout fuel s =
        if k < fuel then (some (.ok .failed), ended) else (none, s.head c e fuel)) ∧
      ended.task.verdict = .failed ∧ ended.task.polls = s.task.polls + k + 1) ∧
    (¬ settings.pollInterval.ComesTo limit →
      ∀ fuel, run c e settings.timeout fuel s = (none, s.head c e fuel)) := by
  classical
  obtain ⟨hinterval, hpositive⟩ := Settings.durations_of_check hcheck
  have hcomes := Quantity.exists_isUp_iff hinterval (hpositive limit hlimit)
  rw [hlimit] at hopen ⊢
  constructor
  · intro h
    have hex := hcomes.mpr h
    have hbefore : ∀ j < Nat.find hex, ¬ settings.pollInterval.IsUp limit j :=
      fun j hj => Nat.find_min hex hj
    have hreach := (reaches_iff hpaced hstart hopen).mpr hbefore
    rcases turn_of_reached hpaced hstart hopen hreach with
      ⟨hup, ended, hturn, hverdict, hpolls⟩ | ⟨hin, -⟩
    · exact ⟨Nat.find hex, ended, hup, hbefore,
        run_of_last_turn (turn_open_of_not_up hpaced hstart hopen hbefore) hturn, hverdict, hpolls⟩
    · exact absurd (Nat.find_spec hex) hin
  · intro h fuel
    have hnever : ∀ j < fuel, ¬ settings.pollInterval.IsUp limit j :=
      fun j _ hup => h (hcomes.mp ⟨j, hup⟩)
    exact run_of_open_turns (turn_open_of_not_up hpaced hstart hopen hnever) 0

-- ---------------------------------------------------------------------------
-- A loop over an upstream run that never ends
-- ---------------------------------------------------------------------------

def exactClock (interval : Quantity) : Surroundings (Option Place) σ where
  read _ passed state := ((default, false), passed, state)
  wait passed := (false, interval.after passed)
  elapsed := id

theorem exactClock_paced (interval : Quantity) :
    (exactClock interval : Surroundings (Option Place) σ).Paced interval :=
  ⟨fun _ _ _ => rfl, fun _ => rfl⟩

def unending : Collaborators Unit where
  supports _ s := (true, s)
  resolve _ _ s := (⟨.ok [.hourOf default], []⟩, s)
  running _ _ s :=
    (⟨.ok (some { id := 1, definitionId := 7, status := .runningExecution, runMode := .scheduled }),
      []⟩, s)
  scheduled _ _ s := (⟨.ok none, []⟩, s)
  manual _ _ s := (⟨.ok none, []⟩, s)
  tasks _ _ s := (⟨.ok [], []⟩, s)

def openLoop (passed : Option Place) (polls : Nat) (world : World Unit) :
    LoopState (Option Place) Unit :=
  ⟨passed,
    { gates := [{
        items := [⟨.str "k", .int 7, .str wholeProcess, .str "today"⟩], relation := .all }]
      relation := .all
      polls := polls }, world⟩

def newLoop : LoopState (Option Place) Unit := openLoop (some (.at 0)) 0 { state := () }

theorem openLoop_head (interval : Quantity) (k : Nat) : ∃ passed polls world,
    newLoop.head unending (exactClock interval) k = openLoop passed polls world := by
  induction k with
  | zero => exact ⟨_, _, _, rfl⟩
  | succ k ih =>
    obtain ⟨passed, polls, world, hhead⟩ := ih
    rw [LoopState.head_succ, hhead]
    exact ⟨interval.after passed, polls + 1, _, rfl⟩

theorem newLoop_staysOpen (interval : Quantity) (limit : Option Quantity) :
    newLoop.StaysOpen unending (exactClock interval) limit := by
  refine ⟨fun k _ => ?_, fun k _ => ?_⟩
  all_goals
    obtain ⟨passed, polls, world, hhead⟩ := openLoop_head interval k
    rw [hhead]
    rfl

/-- Waits of two seconds come to a limit of three: the third poll is the last. -/
theorem run_fails_after_third_poll :
    let settings : Settings := { pollInterval := .whole 2, timeout := some (.whole 3) }
    settings.check .known = .ok () ∧ ∃ ended,
      run unending (exactClock settings.pollInterval) settings.timeout 3 newLoop =
        (some (.ok .failed), ended) ∧ ended.task.verdict = .failed ∧ ended.task.polls = 3 := by
  intro settings
  have hcheck : settings.check .known = .ok () := by decide +kernel
  have hup : ∀ k, settings.pollInterval.IsUp (.whole 3) k ↔ 3 ≤ k * 2 := by
    intro k
    have hunit : (0 : Int) < Number.twoTo (-Binary64.minExponent).toNat :=
      Int.natCast_pos.mpr (Number.twoTo_pos _)
    rw [Quantity.isUp_iff_of_finite (rfl : settings.pollInterval.place? = some (.at _)) rfl,
      Binary64.unitsOfInt, Binary64.unitsOfInt, ← Int.mul_assoc, Int.mul_le_mul_right hunit]
    omega
  obtain ⟨hends, -⟩ := run_ends_when_time_is_up (s := newLoop) hcheck rfl
    (exactClock_paced (σ := Unit) settings.pollInterval) rfl (newLoop_staysOpen _ _)
  have hcomes : settings.pollInterval.ComesTo (.whole 3) := ⟨nofun, nofun, nofun⟩
  obtain ⟨k, ended, hk, hbefore, hrun, hverdict, hpolls⟩ := hends hcomes
  obtain rfl : k = 2 := by
    have hlate : ¬ 2 < k := fun h => hbefore 2 h ((hup 2).mpr (by decide))
    have hearly := (hup k).mp hk
    omega
  exact ⟨hcheck, ended, hrun 3, hverdict, hpolls⟩

/-- A limit that is not a number passes the check, and no poll is the last. -/
theorem run_outlasts_limit_of_no_number :
    let settings := Settings.ofEnvironment [("DEPFLOW_DEPENDENT_TIMEOUT", "nan")]
    let e : Surroundings (Option Place) Unit := exactClock settings.pollInterval
    settings.check .known = .ok () ∧ settings.timeout = some (.real .nan) ∧
      e.Paced settings.pollInterval ∧ newLoop.StaysOpen unending e settings.timeout ∧
      ∀ fuel, (run unending e settings.timeout fuel newLoop).1 = none := by
  intro settings e
  have hlimit : settings.timeout = some (.real .nan) := by decide +kernel
  have hpaced : e.Paced settings.pollInterval := exactClock_paced _
  refine ⟨by decide +kernel, hlimit, hpaced, newLoop_staysOpen _ _, fun fuel => ?_⟩
  have hnever : ∀ j < fuel, ¬ settings.pollInterval.IsUp (.real .nan) j := by
    rintro j - ⟨most, -, hmost, -⟩
    cases hmost
  have hrun := run_of_open_turns
    (turn_open_of_not_up hpaced rfl (newLoop_staysOpen settings.pollInterval _) hnever) 0
  rw [hlimit]
  exact congrArg Prod.fst hrun

end GatedTask
end DependencyGate
