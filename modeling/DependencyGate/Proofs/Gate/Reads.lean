import DependencyGate.Proofs.Gate.Account

/-!
# What a run of polls reads

An item is evaluated in every poll until it has a final verdict, and in none after it;
once the gate is finished nothing is. The journal tells of each remembered verdict once.
-/

namespace DependencyGate

open Json (Value)
open Time (Moment)

-- ---------------------------------------------------------------------------
-- Entries about remembered verdicts
-- ---------------------------------------------------------------------------

namespace Gate

/-- The ends of two messages about verdicts differ in their last letter. -/
theorem verdict_of_text {xs ys : List Char} {v w : Verdict}
    (h : xs ++ v.name.toList = ys ++ w.name.toList) : v = w := by
  have hlast := congrArg List.getLast? h
  cases v <;> cases w <;> simp [Verdict.name] at hlast ⊢

theorem resolvedText_injective {k l : String} {v w : Verdict}
    (h : resolvedText (.str k) v = resolvedText (.str l) w) : k = l ∧ v = w := by
  have hchars := congrArg String.toList h
  simp only [resolvedText_eq, Value.plain, String.toList_append] at hchars
  obtain rfl := verdict_of_text hchars
  have hkeys := (List.append_left_inj _).mp ((List.append_left_inj _).mp hchars)
  exact ⟨String.toList_inj.mp ((List.append_right_inj _).mp hkeys), rfl⟩

theorem count_resolvedEntry {settled : List (Value × Verdict)} {written : List Journal.Entry}
    (hw : written.filter (·.tellsResolved) = settled.map resolvedEntry)
    (ho : settled.Pairwise fun a b => a.1.sameKey b.1 = false)
    (ht : ∀ entry ∈ settled, ∃ k, entry.1 = .str k) (k : String) (v : Verdict) :
    written.count (resolvedEntry (.str k, v)) = if (.str k, v) ∈ settled then 1 else 0 := by
  have hnodup : settled.Nodup := ho.imp fun {a b} hab heq => by
    rw [heq, sameKey_refl] at hab
    cases hab
  have hsame : ∀ entry ∈ settled, (resolvedEntry entry == resolvedEntry (.str k, v)) = true ↔
      (entry == (.str k, v)) = true := by
    intro ⟨key, w⟩ he
    obtain ⟨l, rfl⟩ := ht _ he
    simp only [beq_iff_eq]
    refine ⟨fun heq => ?_, fun heq => by rw [heq]⟩
    obtain ⟨rfl, rfl⟩ := resolvedText_injective (congrArg Journal.Entry.message heq)
    rfl
  calc written.count (resolvedEntry (.str k, v))
    _ = (settled.map resolvedEntry).count (resolvedEntry (.str k, v)) := by
      rw [← hw, List.count_filter (tellsResolved_resolvedEntry _)]
    _ = settled.count (.str k, v) := by
      rw [List.count_eq_countP, List.countP_map, List.count_eq_countP]
      exact List.countP_congr hsame
    _ = if (.str k, v) ∈ settled then 1 else 0 := hnodup.count

-- ---------------------------------------------------------------------------
-- Visits over a run
-- ---------------------------------------------------------------------------

section
variable {σ : Type} {ev : Evaluator σ} {s : Gate × World σ}

theorem not_isOpen_of_mem {g : Gate} {item : Item} (he : entry ∈ g.settled)
    (hk : entry.1.sameKey item.key = true) : g.isOpen item = false := by
  rw [isOpen, settled?_eq, known?]
  cases hfind : g.settled.find? fun entry => entry.1.sameKey item.key with
  | some found => rfl
  | none => exact absurd hk (by simpa using List.find?_eq_none.mp hfind entry he)

theorem Extends.isOpen {g g' : Gate} (h : Extends g g') {item : Item} (ho : g'.isOpen item = true) :
    g.isOpen item = true := by
  rw [Gate.isOpen, Option.isNone_iff_eq_none] at ho ⊢
  cases hc : g.settled? item.key with
  | none => rfl
  | some v =>
    rw [h.settled? hc] at ho
    cases ho

theorem visits_poll_reach (ev : Evaluator σ) (t : Moment) (hk : Keyed s.1.items) :
    (∀ v ∈ visits ev [.poll t] s, s.1.isOpen v.item = true ∧ v.reference = t) ∧
      (visits ev [.poll t] s).Pairwise fun a b => a.item.key.sameKey b.item.key = false := by
  cases hf : s.1.isFinished with
  | true => simp [visits_poll_finished ev t hf]
  | false =>
    obtain ⟨result, s', hp, _⟩ := pollWith_pass ev t hk hf
    exact ⟨fun v hv => ⟨((hp.reach hk).isOpen hv).2, (hp.outcome_eq hv).1⟩,
      (hp.reach hk).distinct hk⟩

theorem polls_isOpen (ev : Evaluator σ) (times : List Moment) (hs : Sound s.1) :
    ∀ v ∈ visits ev (polls times) s, s.1.isOpen v.item = true := by
  induction times generalizing s with
  | nil => exact fun v hv => (List.not_mem_nil hv).elim
  | cons t rest ih =>
    obtain ⟨hs', hext⟩ := pollWith_sound ev t hs
    rw [visits_cons ev t rest hs]
    intro v hv
    rcases List.mem_append.mp hv with hv | hv
    · exact ((visits_poll_reach ev t hs.keyed).1 v hv).1
    · exact hext.isOpen (ih hs' v hv)

/-- After a visit with a final verdict its key is not visited any more. -/
theorem polls_no_visit_after_final (ev : Evaluator σ) (times : List Moment) (hs : Sound s.1) :
    (visits ev (polls times) s).Pairwise fun a b =>
      a.final?.isSome = true → a.item.key.sameKey b.item.key = false := by
  induction times generalizing s with
  | nil => exact .nil
  | cons t rest ih =>
    obtain ⟨hs', _⟩ := pollWith_sound ev t hs
    rw [visits_cons ev t rest hs]
    -- Either both visits belong to this poll, or both to later ones, or one to each; in the
    -- last case the first has been remembered when the second is made.
    refine List.pairwise_append.mpr ⟨?_, ih hs', fun a ha b hb hfinal => ?_⟩
    · refine (visits_poll_reach ev t hs.keyed).2.imp ?_
      exact fun hab _ => hab
    · obtain ⟨v, hv⟩ := Option.isSome_iff_exists.mp hfinal
      have hmem : (a.item.key, v) ∈ (pollWith ev t s).2.1.settled := by
        rw [(pollWith_settled ev t hs.keyed).1]
        exact List.mem_append_right _ (List.mem_filterMap.mpr ⟨a, ha, by rw [hv]; rfl⟩)
      have hopen := polls_isOpen ev rest hs' b hb
      cases hk : a.item.key.sameKey b.item.key with
      | false => rfl
      | true =>
        rw [not_isOpen_of_mem hmem hk] at hopen
        cases hopen

-- ---------------------------------------------------------------------------
-- The calls and the journal of a run
-- ---------------------------------------------------------------------------

theorem pollWith_visits_all {t : Moment} (hk : Keyed s.1.items) (hf : s.1.isFinished = false)
    (h : (pollWith ev t s).1 = .ok b) :
    (visits ev [.poll t] s).map (·.item) = s.1.items.filter s.1.isOpen := by
  obtain ⟨result, s', hp, hpoll⟩ := pollWith_pass ev t hk hf
  rw [hpoll] at h
  have hreach := hp.reach hk
  cases result with
  | ok verdicts => exact hreach.1
  | error f => cases h

/-- After any polls of a new gate: if it is finished, another poll does nothing at all; if
not, one that returns makes the calls of the evaluations of all open items, in order, none
twice. All calls of the run were made by its visits, and there was none to an item after
its first final verdict. Each remembered verdict has one entry in the journal, which under
textual keys cannot be mistaken for another's. -/
theorem polls_read_open_items {c : Collaborators σ} {d : Declaration}
    (hmake : make c d w₀ = (.ok g₀, w₁)) (times : List Moment) :
    let s := run (evaluate c) (polls times) (g₀, w₁)
    let history := visits (evaluate c) (polls times) (g₀, w₁)
    (∀ t, s.1.isFinished = true → poll c t s = (.ok true, s)) ∧
      (∀ t b, s.1.isFinished = false → (poll c t s).1 = .ok b →
        let vs := visits (evaluate c) [.poll t] s
        vs.map (·.item) = d.items.filter s.1.isOpen ∧ (∀ v ∈ vs, v.reference = t) ∧
          (vs.Pairwise fun u v => u.item.key.sameKey v.item.key = false) ∧
          (poll c t s).2.2.calls = s.2.calls ++ vs.flatMap fun v => v.calls c) ∧
      (s.2.calls = w₁.calls ++ history.flatMap fun v => v.calls c) ∧
      (history.Pairwise fun u v =>
        u.final?.isSome = true → u.item.key.sameKey v.item.key = false) ∧
      ∃ written, s.2.journal = w₁.journal ++ written ∧
        written.filter (·.tellsResolved) = s.1.settled.map resolvedEntry ∧
        ((∀ item ∈ d.items, ∃ k, item.key = .str k) → ∀ item ∈ d.items, ∀ v,
          written.count (resolvedEntry (item.key, v)) =
            if (item.key, v) ∈ s.1.settled then 1 else 0) := by
  intro s history
  have hs₀ : Sound g₀ := make_sound hmake
  obtain ⟨hs, hext⟩ := run_sound (evaluate c) (polls times) (s := (g₀, w₁)) hs₀
  have hitems : g₀.items = d.items := run_items hmake (evaluate c) [] w₁
  have hnew : g₀.settled = [] := make_settled hmake
  obtain ⟨hcalls, written, hjournal, hresolved⟩ :=
    polls_accounts c times (s := (g₀, w₁)) hs₀
  have hsettled : s.1.settled = Visit.finals history := by
    rw [(polls_settled (evaluate c) times (s := (g₀, w₁)) hs₀).1, hnew]
    rfl
  refine ⟨fun t hf => pollWith_finished hf t, fun t b hf hb => ⟨?_, ?_, ?_, ?_⟩, hcalls,
    polls_no_visit_after_final _ times hs₀, written, hjournal, hsettled ▸ hresolved,
    fun htext item hi v => ?_⟩
  · rw [← hitems, ← hext.items]
    exact pollWith_visits_all hs.keyed hf hb
  · exact fun v hv => ((visits_poll_reach (evaluate c) t hs.keyed).1 v hv).2
  · exact (visits_poll_reach (evaluate c) t hs.keyed).2
  · exact (poll_accounts c t hs.keyed).calls
  · obtain ⟨k, hk⟩ := htext item hi
    rw [hk]
    refine count_resolvedEntry (hsettled ▸ hresolved) hs.once (fun entry he => ?_) k v
    obtain ⟨source, hsource, hkey⟩ := polls_mem_settled (s := (g₀, w₁)) hs₀ hnew he
    rw [← hkey]
    exact htext source (hitems ▸ hsource)

def unhurried : List (Except Fault Status) := [.ok .success, .ok .runningExecution, .ok .success]

/-- After the first poll only the second item is read, and the journal has told once that the
first one succeeded. -/
theorem polls_read_open_items_pair :
    (visits (evaluate scripted) [.poll default] (run (evaluate scripted) (polls [default])
      (pairGate .all, pairWorld .all unhurried))).map (·.item) =
        [⟨.str "b", .int 7, .str wholeProcess, .str "today"⟩] ∧
    ∃ written, (run (evaluate scripted) (polls [default])
        (pairGate .all, pairWorld .all unhurried)).2.journal =
          (pairWorld .all unhurried).journal ++ written ∧
      written.count (resolvedEntry (.str "a", .success)) = 1 := by
  obtain ⟨_, hpoll, _, _, written, hjournal, _, hcount⟩ :=
    polls_read_open_items (make_pair .all unhurried) [default]
  have hitems := (hpoll default true (by decide +kernel) (by decide +kernel)).1
  have hsettled := hcount (by simp [pair]) ⟨.str "a", .int 7, .str wholeProcess, .str "today"⟩
    (by simp [pair]) .success
  exact ⟨hitems.trans (by decide +kernel), written, hjournal,
    hsettled.trans (if_pos (by decide +kernel))⟩

end
end Gate
end DependencyGate
