import DependencyGate.GatedTask.Loop
import DependencyGate.Proofs.GatedTask.Polls
import Mathlib.Data.Nat.Find

/-!
# The exits of the polling loop

A turn of the loop looks for a cancellation, polls, and then looks for a fault, for all gates being
finished and for the limit, in this order. Whatever its surroundings do, the loop ends in the first
turn that finds one of the four and with what that exit leaves (`run_ends_at_first_exit`); without
one it polls forever, once in each turn.
-/

namespace DependencyGate

open Number (Binary64 Quantity)
open Time (Moment)

variable {τ σ : Type} {c : Collaborators σ} {e : Surroundings τ σ} {limit : Option Quantity}

namespace GatedTask

namespace LoopState

-- ---------------------------------------------------------------------------
-- The poll of a turn
-- ---------------------------------------------------------------------------

theorem cancelIf_task (s : LoopState τ σ) (asked : Bool) :
    (s.cancelIf asked).task = { s.task with cancelled := s.task.cancelled || asked } := by
  cases asked with
  | false => simp [cancelIf]
  | true => simp [cancelIf, cancel]

theorem readClock_task (e : Surroundings τ σ) (s : LoopState τ σ) :
    ∃ b, (s.readClock e).2.task = { s.task with cancelled := b } :=
  ⟨_, cancelIf_task _ _⟩

theorem wait_task (e : Surroundings τ σ) (s : LoopState τ σ) :
    ∃ b, (s.wait e).task = { s.task with cancelled := b } := by
  unfold wait
  split
  · exact ⟨s.task.cancelled, rfl⟩
  · exact ⟨_, cancelIf_task _ _⟩

def pollNow (c : Collaborators σ) (e : Surroundings τ σ) (s : LoopState τ σ) :
    Except Fault Bool × LoopState τ σ :=
  (s.readClock e).2.poll c (s.readClock e).1

def next (c : Collaborators σ) (e : Surroundings τ σ) (s : LoopState τ σ) : LoopState τ σ :=
  (s.pollNow c e).2.wait e

def head (c : Collaborators σ) (e : Surroundings τ σ) (s : LoopState τ σ) (k : Nat) :
    LoopState τ σ :=
  (next c e)^[k] s

structure Polled (c : Collaborators σ) (e : Surroundings τ σ) (s : LoopState τ σ)
    (result : Except Fault Bool) (s' : LoopState τ σ) : Prop where
  sound : ∀ g ∈ s'.task.gates, g.Sound
  relation : s'.task.relation = s.task.relation
  polls : s'.task.polls = s.task.polls + 1
  finished : result = .ok true ↔ ∀ g ∈ s'.task.gates, g.isFinished = true
  verdict : s'.task.verdict = if result = .ok true then s'.task.combined else s.task.verdict
  stops : result = .error f → StopsAt c (s.readClock e).1 f s.task.gates (s.readClock e).2.world
    s'.task.gates s'.world

theorem Polled.open_of_ok {s : LoopState τ σ} (h : Polled c e s result s')
    (hok : result.isOk = true) (hopen : ¬ ∀ g ∈ s'.task.gates, g.isFinished = true) :
    result = .ok false := by
  cases result with
  | error f => cases hok
  | ok done => cases done with
    | false => rfl
    | true => exact absurd (h.finished.mp rfl) hopen

theorem pollNow_polled (c : Collaborators σ) (e : Surroundings τ σ) {s : LoopState τ σ}
    (hs : ∀ g ∈ s.task.gates, g.Sound) :
    Polled c e s (s.pollNow c e).1 (s.pollNow c e).2 := by
  obtain ⟨b, htask⟩ := readClock_task e s
  unfold pollNow
  cases hread : s.readClock e with
  | mk t s₁ =>
    rw [hread] at htask
    obtain ⟨answers, polled, w₁, w₂, hgates, hpoll⟩ := poll_eq c t s₁.task s₁.world
    have hsound : ∀ g ∈ s₁.task.gates, g.Sound := by
      rw [htask]
      exact hs
    have hall : answers.map (·.all id) = .ok true ↔ ∀ g ∈ polled, g.isFinished = true :=
      map_ok.trans (pollGates_all_iff hsound hgates)
    simp only [LoopState.poll, hpoll]
    refine ⟨fun g hg => (pollGates_sound hsound hgates g hg).1, ?_, ?_, hall, ?_, ?_⟩
    · rw [htask]
    · rw [htask]
    · rw [htask]
      rfl
    · intro f hf
      obtain rfl : answers = .error f := by
        cases answers with
        | error f' => cases hf; rfl
        | ok _ => cases hf
      rw [poll_of_stopped hgates] at hpoll
      cases hpoll
      rw [hread, ← show s₁.task.gates = s.task.gates by rw [htask]]
      exact pollGates_stopsAt hgates

theorem next_task (c : Collaborators σ) (e : Surroundings τ σ) (s : LoopState τ σ) :
    ∃ b, (s.next c e).task = { (s.pollNow c e).2.task with cancelled := b } :=
  wait_task e _

theorem head_succ (c : Collaborators σ) (e : Surroundings τ σ) (s : LoopState τ σ) (k : Nat) :
    s.head c e (k + 1) = (s.head c e k).next c e :=
  Function.iterate_succ_apply' _ _ _

theorem head_task (c : Collaborators σ) (e : Surroundings τ σ) {s : LoopState τ σ}
    (hs : ∀ g ∈ s.task.gates, g.Sound) (k : Nat) :
    (∀ g ∈ (s.head c e k).task.gates, g.Sound) ∧
      (s.head c e k).task.relation = s.task.relation ∧
      (s.head c e k).task.polls = s.task.polls + k := by
  induction k with
  | zero => exact ⟨hs, rfl, rfl⟩
  | succ k ih =>
    obtain ⟨hsound, hrelation, hpolls⟩ := ih
    have hpoll := pollNow_polled c e hsound
    obtain ⟨b, hnext⟩ := next_task c e (s.head c e k)
    rw [head_succ, hnext]
    exact ⟨hpoll.sound, hpoll.relation.trans hrelation, by rw [hpoll.polls, hpolls, Nat.add_assoc]⟩

end LoopState

-- ---------------------------------------------------------------------------
-- Turns
-- ---------------------------------------------------------------------------

variable {s s' : LoopState τ σ}

inductive Exit
  | cancelled
  | raised (f : Fault)
  | finished
  | timedOut

def Exit.polls : Exit → Nat
  | .cancelled => 0
  | _ => 1

/-- The turn that starts in `s` takes this exit. Of several that are open it takes the first. -/
inductive Takes (c : Collaborators σ) (e : Surroundings τ σ) (limit : Option Quantity)
    (s : LoopState τ σ) : Exit → Prop
  | cancelled : s.task.cancelled = true → Takes c e limit s .cancelled
  | raised : s.task.cancelled = false → (s.pollNow c e).1 = .error f → Takes c e limit s (.raised f)
  | finished : s.task.cancelled = false →
      (∀ g ∈ (s.pollNow c e).2.task.gates, g.isFinished = true) → Takes c e limit s .finished
  | timedOut : s.task.cancelled = false → (s.pollNow c e).1.isOk = true →
      ¬ (∀ g ∈ (s.pollNow c e).2.task.gates, g.isFinished = true) → limit = some most →
      (s.pollNow c e).2.timedOut e most = true → Takes c e limit s .timedOut

/-- What the loop gives, and how it leaves the task, when it takes this exit in the turn that starts
in `s`. -/
def Exit.Leaves (c : Collaborators σ) (e : Surroundings τ σ) (s : LoopState τ σ)
    (answer : Except Fault Verdict) (ended : LoopState τ σ) : Exit → Prop
  | .cancelled => answer = .ok .failed ∧ ended.task = { s.task with verdict := .failed } ∧
      ended.world.state = s.world.state ∧ ended.world.calls = s.world.calls
  | .raised f => answer = .error f ∧ ended.task.verdict = s.task.verdict ∧
      StopsAt c (s.readClock e).1 f s.task.gates (s.readClock e).2.world
        ended.task.gates ended.world
  | .finished => answer = .ok (s.task.relation.combine (ended.task.gates.map (·.verdict))) ∧
      ended.task = (s.pollNow c e).2.task ∧ answer = .ok ended.task.verdict
  | .timedOut => answer = .ok .failed ∧
      ended.task = { (s.pollNow c e).2.task with verdict := .failed }

theorem turn_cancelled (c : Collaborators σ) (e : Surroundings τ σ) (limit : Option Quantity)
    (h : s.task.cancelled = true) : ∃ ended,
    turn c e limit s = (some (.ok .failed), ended) ∧
      ended.task = { s.task with verdict := .failed } ∧ ended.world.state = s.world.state ∧
      ended.world.calls = s.world.calls := by
  rw [turn, if_pos h]
  exact ⟨_, rfl, rfl, rfl, rfl⟩

theorem turn_raised (h : s.task.cancelled = false) (hp : s.pollNow c e = (.error f, s')) :
    turn c e limit s = (some (.error f), s') := by
  rw [LoopState.pollNow] at hp
  rw [turn, if_neg (by simp [h])]
  simp only [hp]

theorem turn_finished (limit : Option Quantity) (h : s.task.cancelled = false)
    (hp : s.pollNow c e = (.ok true, s')) :
    ∃ ended, turn c e limit s = (some (.ok s'.task.verdict), ended) ∧ ended.task = s'.task := by
  rw [LoopState.pollNow] at hp
  rw [turn, if_neg (by simp [h])]
  simp only [hp]
  exact ⟨_, rfl, rfl⟩

theorem turn_open (limit : Option Quantity) (h : s.task.cancelled = false)
    (hp : s.pollNow c e = (.ok false, s')) :
    (∃ most ended, limit = some most ∧ s'.timedOut e most = true ∧
      turn c e limit s = (some (.ok .failed), ended) ∧
      ended.task = { s'.task with verdict := .failed }) ∨
    ((∀ most, limit = some most → s'.timedOut e most = false) ∧
      turn c e limit s = (none, s'.wait e)) := by
  rw [LoopState.pollNow] at hp
  rw [turn, if_neg (by simp [h])]
  simp only [hp]
  cases limit with
  | none => exact .inr ⟨nofun, rfl⟩
  | some most =>
    dsimp only
    split
    next ht => exact .inl ⟨most, _, rfl, ht, rfl, rfl⟩
    next ht =>
      refine .inr ⟨fun _ hm => ?_, rfl⟩
      rw [← Option.some.inj hm]
      exact Bool.eq_false_iff.mpr ht

theorem Takes.turn_eq (hs : ∀ g ∈ s.task.gates, g.Sound) (h : Takes c e limit s x) :
    ∃ answer ended, turn c e limit s = (some answer, ended) ∧ x.Leaves c e s answer ended ∧
      ended.task.polls = s.task.polls + x.polls := by
  have hpolled := LoopState.pollNow_polled c e hs
  cases h with
  | cancelled hcancelled =>
    obtain ⟨ended, hturn, hended⟩ := turn_cancelled c e limit hcancelled
    exact ⟨_, ended, hturn, ⟨rfl, hended⟩, by rw [hended.1]; rfl⟩
  | raised hgo hfault =>
    refine ⟨_, _, turn_raised hgo (Prod.ext hfault rfl), ⟨rfl, ?_, hpolled.stops hfault⟩,
      hpolled.polls⟩
    rw [hpolled.verdict, hfault, if_neg nofun]
  | finished hgo hall =>
    have hdone := hpolled.finished.mpr hall
    obtain ⟨ended, hturn, htask⟩ := turn_finished limit hgo (Prod.ext hdone rfl)
    refine ⟨_, ended, hturn, ⟨?_, htask, by rw [htask]⟩, by rw [htask]; exact hpolled.polls⟩
    rw [hpolled.verdict, if_pos hdone, combined, hpolled.relation, htask]
  | timedOut hgo hpoll hopen hlimit ht =>
    obtain ⟨most, ended, -, -, hturn, htask⟩ | ⟨hin, -⟩ :=
      turn_open limit hgo (Prod.ext (hpolled.open_of_ok hpoll hopen) rfl)
    · exact ⟨_, ended, hturn, ⟨rfl, htask⟩, by rw [htask]; exact hpolled.polls⟩
    · rw [hin _ hlimit] at ht
      cases ht

theorem turn_without_exit (hs : ∀ g ∈ s.task.gates, g.Sound)
    (hno : ∀ x, ¬ Takes c e limit s x) :
    turn c e limit s = (none, s.next c e) ∧ (s.next c e).task.verdict = s.task.verdict := by
  have hpolled := LoopState.pollNow_polled c e hs
  have hgo : s.task.cancelled = false := Bool.eq_false_iff.mpr fun h => hno _ (.cancelled h)
  have hopen := fun h => hno _ (.finished hgo h)
  cases hpoll : (s.pollNow c e).1 with
  | error f => exact absurd (.raised hgo hpoll) (hno _)
  | ok done =>
    have hstill := hpolled.open_of_ok (by rw [hpoll]; rfl) hopen
    obtain ⟨most, ended, hlimit, ht, -⟩ | ⟨-, hturn⟩ :=
      turn_open limit hgo (Prod.ext hstill rfl)
    · exact absurd (.timedOut hgo (by rw [hpoll]; rfl) hopen hlimit ht) (hno _)
    · obtain ⟨b, hnext⟩ := LoopState.next_task c e s
      refine ⟨hturn, ?_⟩
      rw [hnext, hpolled.verdict, if_neg (by simp [hstill])]

-- ---------------------------------------------------------------------------
-- Runs
-- ---------------------------------------------------------------------------

def TakesFirst (c : Collaborators σ) (e : Surroundings τ σ) (limit : Option Quantity)
    (s : LoopState τ σ) (k : Nat) (x : Exit) : Prop :=
  (∀ j < k, ∀ y, ¬ Takes c e limit (s.head c e j) y) ∧ Takes c e limit (s.head c e k) x

theorem run_of_open_turns
    (h : ∀ j < k, turn c e limit (s.head c e j) = (none, s.head c e (j + 1))) (fuel : Nat) :
    run c e limit (k + fuel) s = run c e limit fuel (s.head c e k) := by
  induction k generalizing fuel with
  | zero => rw [Nat.zero_add]; rfl
  | succ k ih =>
    rw [Nat.add_right_comm, Nat.add_assoc, ih fun j hj => h j (hj.trans (Nat.lt_succ_self k)), run,
      h k (Nat.lt_succ_self k)]

/-- A loop of which the turn with this number is the last. -/
theorem run_of_last_turn
    (h : ∀ j < k, turn c e limit (s.head c e j) = (none, s.head c e (j + 1)))
    (hlast : turn c e limit (s.head c e k) = (some answer, ended)) (fuel : Nat) :
    run c e limit fuel s = if k < fuel then (some answer, ended) else (none, s.head c e fuel) := by
  split
  next hk =>
    obtain ⟨more, rfl⟩ := Nat.exists_eq_add_of_lt hk
    rw [Nat.add_assoc, run_of_open_turns h, run, hlast]
  next hk => exact run_of_open_turns (fun j hj => h j (hj.trans_le (Nat.le_of_not_lt hk))) 0

theorem turn_open_of_no_exit (hs : ∀ g ∈ s.task.gates, g.Sound)
    (hno : ∀ j < k, ∀ x, ¬ Takes c e limit (s.head c e j) x) :
    ∀ j < k, turn c e limit (s.head c e j) = (none, s.head c e (j + 1)) := by
  intro j hj
  rw [LoopState.head_succ]
  exact (turn_without_exit (LoopState.head_task c e hs j).1 (hno j hj)).1

theorem run_after_turns (hs : ∀ g ∈ s.task.gates, g.Sound)
    (hno : ∀ j < k, ∀ x, ¬ Takes c e limit (s.head c e j) x) (fuel : Nat) :
    run c e limit (k + fuel) s = run c e limit fuel (s.head c e k) ∧
      (s.head c e k).task.verdict = s.task.verdict := by
  refine ⟨run_of_open_turns (turn_open_of_no_exit hs hno) fuel, ?_⟩
  induction k with
  | zero => rfl
  | succ k ih =>
    have hnext :=
      (turn_without_exit (LoopState.head_task c e hs k).1 (hno k (Nat.lt_succ_self k))).2
    rw [LoopState.head_succ, hnext]
    exact ih fun j hj => hno j (hj.trans (Nat.lt_succ_self k))

theorem run_without_exit (hs : ∀ g ∈ s.task.gates, g.Sound)
    (hno : ∀ j < fuel, ∀ x, ¬ Takes c e limit (s.head c e j) x) :
    run c e limit fuel s = (none, s.head c e fuel) :=
  (run_after_turns hs hno 0).1

theorem TakesFirst.run_eq (hs : ∀ g ∈ s.task.gates, g.Sound) (h : TakesFirst c e limit s k x) :
    ∃ answer ended, (∀ fuel, run c e limit fuel s =
        if k < fuel then (some answer, ended) else (none, s.head c e fuel)) ∧
      x.Leaves c e (s.head c e k) answer ended ∧
      ended.task.polls = s.task.polls + k + x.polls := by
  obtain ⟨hno, hx⟩ := h
  obtain ⟨-, -, hpolls⟩ := LoopState.head_task c e hs k
  obtain ⟨answer, ended, hturn, hleaves, hended⟩ := hx.turn_eq (LoopState.head_task c e hs k).1
  exact ⟨answer, ended, run_of_last_turn (turn_open_of_no_exit hs hno) hturn, hleaves,
    by rw [hended, hpolls]⟩

theorem exists_takesFirst (hs : ∀ g ∈ s.task.gates, g.Sound)
    (h : run c e limit fuel s = (some answer, ended)) : ∃ k x, TakesFirst c e limit s k x := by
  classical
  by_cases hex : ∃ k x, Takes c e limit (s.head c e k) x
  · obtain ⟨x, hx⟩ := Nat.find_spec hex
    exact ⟨Nat.find hex, x, fun j hj y hy => Nat.find_min hex hj ⟨y, hy⟩, hx⟩
  · rw [run_without_exit hs fun j _ x hx => hex ⟨j, x, hx⟩] at h
    cases h

/-- The loop of a task ends in the first turn that takes an exit, with what that exit leaves. It
polls at once and then after every wait, as long as no turn takes one. The gates may have been used
before in any way that keeps them sound (`Gate.make_sound`, `Gate.run_sound`). -/
theorem run_ends_at_first_exit (c : Collaborators σ) (e : Surroundings τ σ)
    (limit : Option Quantity) {s : LoopState τ σ} (hs : ∀ g ∈ s.task.gates, g.Sound) :
    (∀ k x, TakesFirst c e limit s k x →
      (s.head c e k).task.relation = s.task.relation ∧
      (s.head c e k).task.verdict = s.task.verdict ∧
      ∃ answer ended, (∀ fuel, run c e limit fuel s =
          if k < fuel then (some answer, ended) else (none, s.head c e fuel)) ∧
        x.Leaves c e (s.head c e k) answer ended ∧
        ended.task.polls = s.task.polls + k + x.polls) ∧
    ((∀ k x, ¬ Takes c e limit (s.head c e k) x) →
      ∀ fuel, run c e limit fuel s = (none, s.head c e fuel)) ∧
    (∀ fuel ended, run c e limit fuel s = (some (.ok .success), ended) →
      (∀ g ∈ ended.task.gates, g.isFinished = true) ∧
        s.task.relation.combine (ended.task.gates.map (·.verdict)) = .success) := by
  refine ⟨fun k x h => ?_, fun hno fuel => run_without_exit hs fun j _ => hno j,
    fun fuel ended hrun => ?_⟩
  · exact ⟨(LoopState.head_task c e hs k).2.1, (run_after_turns hs h.1 0).2, h.run_eq hs⟩
  · obtain ⟨k, x, h⟩ := exists_takesFirst hs hrun
    obtain ⟨answer, ended', heq, hleaves, -⟩ := h.run_eq hs
    rw [heq] at hrun
    split at hrun
    next =>
      cases hrun
      cases h.2 with
      | cancelled => cases hleaves.1
      | raised => cases hleaves.1
      | timedOut => cases hleaves.1
      | finished _ hall =>
        obtain ⟨hcombined, htask, -⟩ := hleaves
        refine ⟨by rw [htask]; exact hall, ?_⟩
        rw [← (LoopState.head_task c e hs k).2.1]
        exact (Except.ok.inj hcombined).symm
    next => cases hrun

-- ---------------------------------------------------------------------------
-- A run that finishes at its limit
-- ---------------------------------------------------------------------------

def everySecond : Surroundings Nat σ where
  read _ seconds state := ((default, false), seconds, state)
  wait seconds := (false, seconds + 1)
  elapsed seconds := some (.at (Binary64.unitsOfInt seconds))

def pairLoop : LoopState Nat (List (Except Fault Status)) :=
  ⟨0, { gates := [Gate.pairGate .all], relation := .all },
    Gate.pairWorld .all [.ok .runningExecution, .ok .runningExecution, .ok .success, .ok .success]⟩

/-- The second poll comes when the time is up. It finishes the gate, so the loop succeeds. -/
theorem run_finishes_at_the_limit : ∃ ended,
    run Gate.scripted everySecond (some (.whole 1)) 2 pairLoop = (some (.ok .success), ended) ∧
    ended.task.polls = 2 ∧
    ((pairLoop.head Gate.scripted everySecond 1).pollNow Gate.scripted everySecond).2.timedOut
      everySecond (.whole 1) = true := by
  have hsound : ∀ g ∈ pairLoop.task.gates, g.Sound := by
    rintro g (_ | ⟨_, ⟨⟩⟩)
    exact Gate.make_sound (Gate.make_pair .all [])
  obtain ⟨hexit, -, -⟩ :=
    run_ends_at_first_exit Gate.scripted everySecond (some (.whole 1)) hsound
  have hfirst : TakesFirst Gate.scripted everySecond (some (.whole 1)) pairLoop 1 .finished := by
    refine ⟨?_, .finished rfl (by decide +kernel)⟩
    rintro j hj x hx
    obtain rfl : j = 0 := Nat.lt_one_iff.mp hj
    have hpoll : (pairLoop.pollNow Gate.scripted everySecond).1 = .ok false := by decide +kernel
    have hin : (pairLoop.pollNow Gate.scripted everySecond).2.timedOut everySecond (.whole 1) =
        false := by decide +kernel
    rcases hx with h | ⟨-, h⟩ | ⟨-, h⟩ | ⟨-, -, -, ⟨⟩, h⟩
    · cases h
    · cases hpoll.symm.trans h
    · exact absurd h (by decide +kernel)
    · cases hin.symm.trans h
  obtain ⟨-, -, answer, ended, hrun, ⟨-, htask, hanswer⟩, hpolls⟩ := hexit 1 .finished hfirst
  have hsuccess : ended.task.verdict = .success := by
    rw [htask]
    decide +kernel
  exact ⟨ended, by rw [hrun, if_pos (by decide), hanswer, hsuccess], hpolls, by decide +kernel⟩

end GatedTask
end DependencyGate
