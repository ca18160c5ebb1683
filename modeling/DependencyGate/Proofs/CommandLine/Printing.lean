import DependencyGate.Proofs.CommandLine.Outcome

/-!
# What a check prints

A check prints a table with the results of its task, or one line on the trouble that it met.
Numbers, dates and verdicts can always be printed, so that only the key or the target of an item
keeps a table from being printed (`resultScreen_error`), and only a message with an opening bracket
a line (`report_cases`).
-/

namespace DependencyGate.CommandLine

open Json (Value)

variable {p : Packages} (hp : p.Documented)

include hp in
theorem bracket_of_error {text : String} (h : p.print text = .error f) : '[' ∈ text.toList := by
  by_contra hbare
  obtain ⟨shown, hshown⟩ := hp.plain text hbare
  cases h.symm.trans hshown

-- ---------------------------------------------------------------------------
-- Trouble
-- ---------------------------------------------------------------------------

def troubleLine (message : String) : String := s!"[red]Error: {message}[/red]"

include hp in
theorem troubleLine_printed {message : String} (h : '[' ∉ message.toList) :
    ∃ shown, p.print (troubleLine message) = .ok shown := by
  have hbare : '[' ∉ ("Error: " ++ message).toList := by simpa using h
  have htext : troubleLine message =
      "" ++ ("[" ++ "red" ++ "]" ++ ("Error: " ++ message) ++ "[/" ++ "red" ++ "]") := by
    apply String.toList_inj.mp
    rw [troubleLine]
    simp only [toString, String.toList_append]
    simp
  rw [htext]
  exact hp.colored "red" (by decide) "" ("Error: " ++ message) (by simp) hbare

include hp in
theorem report_cases (message : String) : (∃ screen, p.report message = .exit troubleCode screen) ∨
    ∃ f, p.report message = .escaped f ∧ p.print (troubleLine message) = .error f ∧
      '[' ∈ message.toList := by
  cases hline : p.print (troubleLine message) with
  | ok line => exact .inl ⟨_, by rw [Packages.report, ← troubleLine, hline]⟩
  | error f =>
    refine .inr ⟨f, by rw [Packages.report, ← troubleLine, hline], rfl, ?_⟩
    by_contra hbare
    obtain ⟨shown, hshown⟩ := troubleLine_printed hp hbare
    cases hline.symm.trans hshown

-- ---------------------------------------------------------------------------
-- Verdicts
-- ---------------------------------------------------------------------------

theorem styleOf_mem (v : Verdict) : styleOf v ∈ colors := by
  cases v <;> decide

theorem name_bare (v : Verdict) : '[' ∉ v.name.toList := by
  cases v <;> decide

include hp in
theorem styled_printed (v : Verdict) : ∃ shown, p.print (styled v) = .ok shown := by
  have h := hp.colored (styleOf v) (styleOf_mem v) "" v.name (by simp) (name_bare v)
  rwa [String.empty_append] at h

include hp in
theorem overall_printed (v : Verdict) : ∃ shown, p.print s!"Overall: {styled v}" = .ok shown :=
  hp.colored (styleOf v) (styleOf_mem v) "Overall: " v.name (by simp) (name_bare v)

-- ---------------------------------------------------------------------------
-- Tables
-- ---------------------------------------------------------------------------

theorem digits_bare (n : Nat) : '[' ∉ (toString n).toList := by
  rw [Nat.toString_eq_ofList_toDigits, String.toList_ofList]
  intro hmem
  cases Nat.isDigit_of_mem_toDigits (by decide) (by decide) hmem

theorem date_bare (h : name ∈ Expression.names) : '[' ∉ name.toList := by
  have hnames : ∀ name ∈ Expression.names, '[' ∉ name.toList := by decide
  exact hnames name h

theorem mem_gateRows {number : Nat} {gates : List Gate} (h : row ∈ gateRows number gates) :
    ∃ k, ∃ g ∈ gates, ∃ item ∈ g.items, row = itemCells k g item := by
  induction gates generalizing number with
  | nil => cases h
  | cons g rest ih =>
    rw [gateRows, List.mem_append, List.mem_map] at h
    obtain ⟨item, hitem, rfl⟩ | h := h
    · exact ⟨number, g, List.mem_cons_self, item, hitem, rfl⟩
    · obtain ⟨k, g', hg', hrow⟩ := ih h
      exact ⟨k, g', List.mem_cons_of_mem _ hg', hrow⟩

include hp in
theorem itemCells_error {g : Gate} {item : Item} (hvalid : item.Valid)
    (hcell : cell ∈ itemCells k g item) (h : p.print cell = .error f) :
    cell = item.key.plain ∨ cell = item.target.plain := by
  have hbracket := bracket_of_error hp h
  obtain ⟨⟨n, short, hn, hpositive⟩, -, ⟨date, hdate, hname⟩⟩ := hvalid
  simp only [itemCells, List.mem_cons, List.not_mem_nil, or_false] at hcell
  rcases hcell with rfl | rfl | rfl | rfl | rfl | rfl
  · exact absurd hbracket (digits_bare k)
  · exact .inl rfl
  · obtain ⟨m, rfl⟩ := Int.eq_ofNat_of_zero_le hpositive.le
    rw [hn] at hbracket
    exact absurd hbracket (digits_bare m)
  · exact .inr rfl
  · rw [hdate] at hbracket
    exact absurd hbracket (date_bare hname)
  · obtain ⟨shown, hshown⟩ := styled_printed hp ((g.settled? item.key).getD .waiting)
    cases h.symm.trans hshown

include hp in
theorem resultScreen_error {task : GatedTask} (hitems : ValidItems task.gates)
    (h : p.resultScreen task = .error f) : ∃ g ∈ task.gates, ∃ item ∈ g.items, ∃ cell,
      (cell = item.key.plain ∨ cell = item.target.plain) ∧ '[' ∈ cell.toList ∧
        p.print cell = .error f := by
  rcases bind_error.mp h with h | ⟨rows, -, h⟩
  · obtain ⟨row, hrow, hcells⟩ := mapM_error h
    obtain ⟨cell, hcell, hplain⟩ := mapM_error hcells
    obtain ⟨k, g, hg, item, hitem, rfl⟩ := mem_gateRows hrow
    exact ⟨g, hg, item, hitem, cell, itemCells_error hp (hitems g hg item hitem).1 hcell hplain,
      bracket_of_error hp hplain, hplain⟩
  · obtain ⟨shown, hshown⟩ := overall_printed hp task.verdict
    rw [hshown] at h
    rcases bind_error.mp h with h | ⟨line, -, h⟩ <;> cases h

end DependencyGate.CommandLine
