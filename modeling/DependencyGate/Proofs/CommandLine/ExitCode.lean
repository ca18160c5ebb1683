import DependencyGate.Proofs.CommandLine.Printing
import DependencyGate.Proofs.Console.Markup
import DependencyGate.Proofs.Time.ZoneNames

/-!
# The exit code of a check

A check that ends by itself has the exit code of the verdict that it came to, or the one for trouble
when it came to none (`run_check_tells`). A fault that escapes it has the code of a failure all the
same. Such a fault is a document nested too deeply, an address of a database that cannot be used, or
what an opening bracket leads to in a text that is printed.
-/

namespace DependencyGate.CommandLine

open Rehearsal (HistorySource Stage)

structure Tells (code : Nat) (verdict? : Option Verdict) : Prop where
  success : code = 0 ↔ verdict? = some .success
  failed : code = 1 ↔ verdict? = some .failed
  waiting : code = 2 ↔ verdict? = some .waiting
  trouble : code = 3 ↔ verdict? = none

theorem verdictCode_tells (v : Verdict) : Tells (verdictCode v) (some v) := by
  cases v <;> constructor <;> decide

theorem troubleCode_tells : Tells troubleCode none := by
  constructor <;> decide

section
variable (s : Situation) (file : String) (contents : Contents)
  (database timezone moment : Option String)

/-- The verdict of the task after its one poll; a check that meets trouble comes to none. -/
def Situation.verdict? : Option Verdict :=
  (s.polled file contents database timezone moment).toOption.map GatedTask.verdict

/-- The faults that a check does not report. -/
inductive Situation.LetsThrough : Foreign → Prop
  | nesting (h : contents.document = .error (.document .deepNesting)) :
    LetsThrough (.document .deepNesting)
  | address {settings : Settings} {f : Foreign}
      (hs : s.settings { timezone := timezone, databaseUrl := database } = .ok settings)
      (h : s.packages.locate settings.databaseUrl = .error f)
      (hcls : f.cls.isValueClass = false) : LetsThrough f
  /-- The message of the trouble holds an opening bracket. -/
  | message {reported : Fault} {f : Foreign}
      (h : s.polled file contents database timezone moment = .error (.fault reported))
      (hbracket : '[' ∈ reported.text.toList)
      (hprint : s.packages.print (troubleLine reported.text) = .error f) : LetsThrough f
  /-- The key or the target of an item holds an opening bracket. -/
  | cell {task : GatedTask} {g : Gate} {item : Item} {cell : String} {f : Foreign}
      (h : s.polled file contents database timezone moment = .ok task) (hg : g ∈ task.gates)
      (hitem : item ∈ g.items) (hcell : cell = item.key.plain ∨ cell = item.target.plain)
      (hbracket : '[' ∈ cell.toList) (hprint : s.packages.print cell = .error f) : LetsThrough f

def Situation.EndsBy (ending : Ending) : Prop :=
  (∃ code screen, ending = .exit code screen ∧
    Tells code (s.verdict? file contents database timezone moment)) ∨
  ∃ f, ending = .escaped f ∧ s.LetsThrough file contents database timezone moment f

end

section
variable {s : Situation} {file : String} {contents : Contents}
  {database timezone moment : Option String} (hp : s.packages.Documented)
include hp

theorem report_endsBy {reported : Fault}
    (h : s.polled file contents database timezone moment = .error (.fault reported)) :
    s.EndsBy file contents database timezone moment (s.packages.report reported.text) := by
  obtain ⟨screen, hreport⟩ | ⟨f, hreport, hplain, hbracket⟩ := report_cases hp reported.text
  · refine .inl ⟨troubleCode, screen, hreport, ?_⟩
    rw [Situation.verdict?, h]
    exact troubleCode_tells
  · exact .inr ⟨f, hreport, .message h hbracket hplain⟩

theorem ofFault_endsBy (hkept : ∀ path, (s.database path).Kept)
    (hpaired : contents.document ≠ .error (.document .unpairedHalf)) {reported : Fault}
    (h : s.polled file contents database timezone moment = .error (.fault reported)) :
    s.EndsBy file contents database timezone moment (s.packages.endingOf reported) := by
  have hreport := report_endsBy hp h
  cases reported with
  | own i =>
    rw [Packages.endingOf]
    exact hreport
  | foreign f =>
    rw [Packages.endingOf]
    split
    next => exact hreport
    next hcls =>
      refine .inr ⟨f, rfl, ?_⟩
      obtain hvalue | ⟨rfl, hread⟩ | ⟨settings, hsettings, haddress⟩ :=
        polled_fault hp.zones hkept hpaired h
      · exact absurd hvalue hcls
      · exact .nesting hread
      · exact .address hsettings haddress (Bool.eq_false_iff.mpr hcls)

theorem showResults_endsBy {task : GatedTask}
    (h : s.polled file contents database timezone moment = .ok task) :
    s.EndsBy file contents database timezone moment
      (s.packages.showResults task (verdictCode task.verdict)) := by
  rw [Packages.showResults]
  cases hscreen : s.packages.resultScreen task with
  | ok screen =>
    refine .inl ⟨verdictCode task.verdict, screen, rfl, ?_⟩
    rw [Situation.verdict?, h]
    exact verdictCode_tells task.verdict
  | error f =>
    obtain ⟨g, hg, item, hitem, cell, hcell, hbracket, hplain⟩ :=
      resultScreen_error hp (polled_ok h) hscreen
    exact .inr ⟨f, rfl, .cell h hg hitem hcell hbracket hplain⟩

theorem check_endsBy (hnow : s.now.isSome) (hkept : ∀ path, (s.database path).Kept)
    (hpaired : contents.document ≠ .error (.document .unpairedHalf)) :
    s.EndsBy file contents database timezone moment
      (check s file contents database timezone moment) := by
  rw [check_eq]
  cases hpolled : s.polled file contents database timezone moment with
  | ok task => exact showResults_endsBy hp hpolled
  | error trouble =>
    cases trouble with
    | interrupted => exact absurd hpolled (polled_not_interrupted hnow)
    | fault reported => exact ofFault_endsBy hp hkept hpaired hpolled

end

theorem Packages.known_documented : Packages.known.Documented where
  zones := Time.ZoneBase.known_complete
  plain _ := Console.Markup.plain_bare
  colored color hcolor before text hbefore htext := by
    have hcolor : Console.Markup.IsColor color.toList := by
      simp only [colors, List.mem_cons, List.not_mem_nil, or_false] at hcolor
      rcases hcolor with rfl | rfl | rfl
      · exact .inl rfl
      · exact .inr (.inl rfl)
      · exact .inr (.inr rfl)
    refine Console.Markup.plain_colored hcolor hbefore htext ?_
    show (before ++ ("[" ++ color ++ "]" ++ text ++ "[/" ++ color ++ "]")).toList = _
    simp

def oneItem (key : String) : Contents :=
  .text ("\x7b\"dependTaskList\": [\x7b\"dependItemList\": [\x7b\"key\": \"" ++ key ++
    "\", \"definitionId\": 7, \"depTasks\": \"ALL\", \"dateValue\": \"today\"\x7d]\x7d]\x7d")

def succeededTables : History.Tables where
  processes := [{ id := 1, definitionId := 7, state := "success", runMode := "scheduled",
                  schedule := some firstDay.start, stop := some firstDay.stop }]

def withItem (key : String) : Situation where
  packages := .known
  environment := []
  bindings? := none
  file? path := if path = "deps.json" then some (oneItem key) else none
  database _ := some succeededTables
  now := some default

def checkWords (address : String) : List String :=
  ["dependent", "check", "deps.json", "-d", address]

end DependencyGate.CommandLine
