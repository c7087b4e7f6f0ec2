import Mathlib.Data.List.Induction
import Thermometer.Verification.Coverage

-- What runner.py derives from the results of a run, when it ends and after every later edit.
namespace Thermometer.Verification
open Texts (strip)

inductive Qualification where
  | pass | fail | blocked
  deriving DecidableEq, Repr

def qualificationOutcome (results : List TestResult) (coverage : Report) : Qualification :=
  if results.any (·.outcome = .fail) ∨ coverage.unmapped ≠ 0 then .fail
  else if results.any fun result => result.outcome = .blocked ∨ result.outcome = .skipped then .blocked
  else .pass

-- One entry of requirement-adjudications.json.
structure Decision where
  uid : Option String
  outcome : Option String
  reason : Option String
  deriving DecidableEq

-- `rows_by_id` knows the last row of a UID.
def updateLast (uid : String) (change : Row → Row) : List Row → List Row
  | [] => []
  | row :: rest =>
    if row.uid = uid ∧ rest.all (·.uid ≠ uid) then change row :: rest else row :: updateLast uid change rest

def disposed (decision : Decision) (outcome : Outcome) (row : Row) : Row :=
  { row with
    result := outcome
    reason := decision.reason.getD "Run-specific requirement disposition"
    requirementStatus := if outcome = .notApplicable then "not_applicable" else row.requirementStatus }

def applyDecision (rows : List Row) (decision : Decision) : List Row :=
  match normalizeOutcome (decision.outcome.getD "") with
  | none => rows
  | some outcome => updateLast (decision.uid.getD "") (disposed decision outcome) rows

-- The files of a run: `decisions` are those that the outputs were made with.
structure RunDirectory where
  name : String
  catalogue : Catalogue
  results : List TestResult
  decisions : List Decision
  coverage : Report
  outcome : Qualification

def rebuiltCoverage (catalogue : Catalogue) (results : List TestResult) (decisions : List Decision) : Report :=
  .ofRows (decisions.foldl applyDecision (calculate catalogue.requirements catalogue.tests results).rows)

def rebuildRunOutputs (run : RunDirectory) (results : List TestResult) (decisions : List Decision) : RunDirectory :=
  let coverage := rebuiltCoverage run.catalogue results decisions
  { run with
    results := results
    decisions := decisions
    coverage := coverage
    outcome := qualificationOutcome results coverage }

-- The end of `run`.
def finishRun (name : String) (catalogue : Catalogue) (results : List TestResult) : RunDirectory :=
  let coverage := calculate catalogue.requirements catalogue.tests results
  ⟨name,catalogue,results,[],coverage,qualificationOutcome results coverage⟩

-- The first result of a test is the one that is edited.
def updateFirst (testId : String) (change : TestResult → TestResult) : List TestResult → List TestResult
  | [] => []
  | result :: rest => if result.testId = testId then change result :: rest else result :: updateFirst testId change rest

def adjudicated (outcome : Outcome) (reason operator recordedAtUtc : String) (result : TestResult) : TestResult :=
  let decision : Adjudication := ⟨strip operator,strip reason,outcome,outcome = .passOverride,recordedAtUtc⟩
  { result with
    outcome := outcome
    originalOutcome := some (result.originalOutcome.getD result.outcome)
    originalFailureReason :=
      match result.failureReason with
      | none | some "" => result.originalFailureReason
      | some failure => some (result.originalFailureReason.getD failure)
    adjudication := some decision
    adjudicationHistory := result.adjudicationHistory ++ [decision]
    failureReason := if outcome.passing then none else some (strip reason) }

-- A refused decision leaves the run as it is.
def adjudicate (run : RunDirectory) (testId outcome reason operator recordedAtUtc : String) (decisions : List Decision) :
    RunDirectory × Bool × String :=
  match normalizeOutcome outcome with
  | none => (run,false,"outcome must be one of: " ++ ", ".intercalate (Outcome.all.map Outcome.name))
  | some outcome =>
    if strip reason = "" ∨ strip operator = "" then (run,false,"operator and rationale are required")
    else if run.catalogue.tests.all (·.id ≠ testId) then (run,false,s!"test not found: {testId}")
    else if run.results.all (·.testId ≠ testId) then (run,false,s!"test result not found: {testId}")
    else
      let results := updateFirst testId (adjudicated outcome reason operator recordedAtUtc) run.results
      (rebuildRunOutputs run results decisions,true,s!"{testId} recorded as {outcome.name} for {run.name}")

def photoDeferred (failureReason : String) : Bool :=
  failureReason.toList.tails.any fun text => "photo evidence deferred".toList.isPrefixOf text

def photographed (copied : List String) (complete : Bool) (result : TestResult) : TestResult :=
  let completes := complete ∧ result.outcome = .blocked ∧ photoDeferred (result.failureReason.getD "")
  { result with
    evidence := result.evidence ++ copied
    pendingEvidence := []
    outcome := if completes then .pass else result.outcome
    failureReason := if completes then none else result.failureReason }

def addEvidence (run : RunDirectory) (testId : String) (copied : List String) (complete : Bool) (decisions : List Decision) :
    RunDirectory :=
  if run.results.all (·.testId ≠ testId) then run
  else rebuildRunOutputs run (updateFirst testId (photographed copied complete) run.results) decisions

-- Every edit reads requirement-adjudications.json as it is then.
inductive Edit where
  | adjudicate (testId outcome reason operator recordedAtUtc : String) (decisions : List Decision)
  | addEvidence (testId : String) (copied : List String) (complete : Bool) (decisions : List Decision)

def edit (run : RunDirectory) : Edit → RunDirectory
  | .adjudicate testId outcome reason operator recordedAtUtc decisions =>
    (adjudicate run testId outcome reason operator recordedAtUtc decisions).1
  | .addEvidence testId copied complete decisions => addEvidence run testId copied complete decisions

def Agrees (run : RunDirectory) : Prop := run.outcome = .pass → ∀ row ∈ run.coverage.rows, row.result.passing = true

def lastDisposition (decisions : List Decision) (uid : String) : Option Outcome :=
  decisions.reverse.findSome? fun decision =>
    if decision.uid.getD "" = uid then normalizeOutcome (decision.outcome.getD "") else none

-- A requirement that no test can settle: disposed of as failed, or with an open status.
def Requirement.Open (requirement : Requirement) (decisions : List Decision) : Prop :=
  match lastDisposition decisions requirement.uid with
  | some outcome => outcome.passing = false
  | none => requirement.unresolved = true

def Shown (run : RunDirectory) : Prop :=
  (∃ result ∈ run.results, result.outcome.passing = false) ∨
    (∃ requirement ∈ run.catalogue.requirements, ∀ test ∈ run.catalogue.tests, requirement.uid ∉ test.requirements) ∨
    ∀ requirement ∈ run.catalogue.requirements, ¬ requirement.Open run.decisions

theorem updateLast_map (uid : String) (change : Row → Row) (rows : List Row) (unique : (rows.map (·.uid)).Nodup) :
    updateLast uid change rows = rows.map fun row => if row.uid = uid then change row else row := by
  induction rows with
  | nil => rfl
  | cons row rest ih =>
    rw [List.map_cons,List.nodup_cons] at unique
    have tail := ih unique.2
    rw [updateLast,List.map_cons]
    by_cases same : row.uid = uid
    · have others : ∀ other ∈ rest, other.uid ≠ uid := by
        intro other member equal
        exact unique.1 (List.mem_map.mpr ⟨other,member,equal.trans same.symm⟩)
      have all : rest.all (·.uid ≠ uid) = true := List.all_eq_true.mpr fun other member => decide_eq_true (others other member)
      rw [if_pos ⟨same,all⟩,if_pos same]
      have kept : (rest.map fun row => if row.uid = uid then change row else row) = rest.map id :=
        List.map_congr_left fun other member => if_neg (others other member)
      rw [kept,List.map_id]
    · rw [if_neg fun both => same both.1,if_neg same,tail]

structure Disposes (decisions : List Decision) (change : Row → Row) : Prop where
  uid : ∀ row, (change row).uid = row.uid
  tests : ∀ row, (change row).tests = row.tests
  result : ∀ row, (change row).result = (lastDisposition decisions row.uid).getD row.result

theorem lastDisposition_snoc (decisions : List Decision) (decision : Decision) (uid : String) :
    lastDisposition (decisions ++ [decision]) uid =
      ((if decision.uid.getD "" = uid then normalizeOutcome (decision.outcome.getD "") else none).or
        (lastDisposition decisions uid)) := by
  unfold lastDisposition
  rw [List.reverse_append,List.reverse_singleton,List.singleton_append,List.findSome?_cons]
  split
  · rename_i outcome known
    rw [known]
    rfl
  · rename_i missing
    rw [missing]
    rfl

theorem applyDecision_map (rows : List Row) (unique : (rows.map (·.uid)).Nodup) (decision : Decision) :
    ∃ change, applyDecision rows decision = rows.map change ∧ ∀ row, (change row).uid = row.uid ∧
      (change row).tests = row.tests ∧ (change row).result =
        (if decision.uid.getD "" = row.uid then normalizeOutcome (decision.outcome.getD "") else none).getD row.result := by
  unfold applyDecision
  cases normalizeOutcome (decision.outcome.getD "") with
  | none =>
    refine ⟨id,(List.map_id rows).symm,fun row => ⟨rfl,rfl,?_⟩⟩
    split <;> rfl
  | some outcome =>
    refine ⟨_,updateLast_map _ _ rows unique,fun row => ?_⟩
    by_cases same : row.uid = decision.uid.getD ""
    · rw [if_pos same,if_pos same.symm]
      exact ⟨rfl,rfl,rfl⟩
    · rw [if_neg same,if_neg (Ne.symm same)]
      exact ⟨rfl,rfl,rfl⟩

theorem applyDecisions_map (rows : List Row) (unique : (rows.map (·.uid)).Nodup) (decisions : List Decision) :
    ∃ change, decisions.foldl applyDecision rows = rows.map change ∧ Disposes decisions change := by
  induction decisions using List.reverseRecOn with
  | nil => exact ⟨id,(List.map_id rows).symm,⟨fun _ => rfl,fun _ => rfl,fun _ => rfl⟩⟩
  | append_singleton decisions decision ih =>
    obtain ⟨earlier,folded,before⟩ := ih
    have uids : ((rows.map earlier).map (·.uid)) = rows.map (·.uid) := by
      rw [List.map_map]
      exact List.map_congr_left fun row _ => before.uid row
    obtain ⟨change,applied,last⟩ := applyDecision_map (rows.map earlier) (uids ▸ unique) decision
    refine ⟨change ∘ earlier,?_,fun row => ?_,fun row => ?_,fun row => ?_⟩
    · rw [List.foldl_append,folded,List.foldl_cons,List.foldl_nil,applied,List.map_map]
    · exact (last (earlier row)).1.trans (before.uid row)
    · exact (last (earlier row)).2.1.trans (before.tests row)
    · rw [Function.comp_apply,(last (earlier row)).2.2,before.uid,before.result,lastDisposition_snoc]
      cases (if decision.uid.getD "" = row.uid then normalizeOutcome (decision.outcome.getD "") else none) <;> rfl

variable {catalogue : Catalogue} {results : List TestResult} {decisions : List Decision}

theorem Catalogue.rows_unique (catalogue : Catalogue) (results : List TestResult) :
    ((catalogue.requirements.map (coverageRow catalogue.tests results)).map (·.uid)).Nodup := by
  rw [List.map_map]
  exact catalogue.unique

theorem rebuiltCoverage_rows (catalogue : Catalogue) (results : List TestResult) (decisions : List Decision) :
    ∃ change, Disposes decisions change ∧ rebuiltCoverage catalogue results decisions =
      .ofRows (catalogue.requirements.map fun requirement => change (coverageRow catalogue.tests results requirement)) := by
  obtain ⟨change,folded,disposes⟩ := applyDecisions_map _ (catalogue.rows_unique results) decisions
  refine ⟨change,disposes,?_⟩
  rw [rebuiltCoverage]
  change Report.ofRows (decisions.foldl applyDecision (catalogue.requirements.map _)) = _
  rw [folded,List.map_map]
  rfl

def AllMapped (catalogue : Catalogue) : Prop :=
  ∀ requirement ∈ catalogue.requirements, mappedTests catalogue.tests requirement.uid ≠ []

theorem unmapped_zero (catalogue : Catalogue) (results : List TestResult) (decisions : List Decision) :
    (rebuiltCoverage catalogue results decisions).unmapped = 0 ↔ AllMapped catalogue := by
  obtain ⟨change,disposes,equal⟩ := rebuiltCoverage_rows catalogue results decisions
  rw [equal]
  change List.countP _ _ = 0 ↔ _
  rw [List.countP_eq_zero]
  constructor
  · intro none requirement member empty
    apply none _ (List.mem_map.mpr ⟨requirement,member,rfl⟩)
    rw [disposes.tests]
    exact decide_eq_true (List.map_eq_nil_iff.mpr empty)
  · intro all row member
    obtain ⟨requirement,among,rfl⟩ := List.mem_map.mp member
    rw [disposes.tests]
    intro empty
    exact all requirement among (List.map_eq_nil_iff.mp (of_decide_eq_true empty))

theorem passing_cases (outcome : Outcome) :
    outcome.passing = true ↔ outcome ≠ .fail ∧ outcome ≠ .blocked ∧ outcome ≠ .skipped := by
  cases outcome <;> decide

theorem qualificationOutcome_pass (results : List TestResult) (coverage : Report) :
    qualificationOutcome results coverage = .pass ↔ AllPassing results ∧ coverage.unmapped = 0 := by
  unfold qualificationOutcome AllPassing
  constructor
  · intro passed
    split at passed
    · cases passed
    · rename_i clean
      split at passed
      · cases passed
      · rename_i finished
        obtain ⟨noFailure,mapped⟩ := not_or.mp clean
        refine ⟨fun result member => (passing_cases _).mpr ⟨?_,?_,?_⟩,Classical.not_not.mp mapped⟩
        · exact fun failed => noFailure (List.any_eq_true.mpr ⟨result,member,decide_eq_true failed⟩)
        · exact fun blocked => finished (List.any_eq_true.mpr ⟨result,member,decide_eq_true (.inl blocked)⟩)
        · exact fun skipped => finished (List.any_eq_true.mpr ⟨result,member,decide_eq_true (.inr skipped)⟩)
  · intro ⟨passing,mapped⟩
    rw [if_neg,if_neg]
    · intro open_
      obtain ⟨result,member,bad⟩ := List.any_eq_true.mp open_
      obtain ⟨_,blocked,skipped⟩ := (passing_cases _).mp (passing result member)
      rcases of_decide_eq_true bad with bad | bad
      · exact blocked bad
      · exact skipped bad
    · intro broken
      rcases broken with failed | unmapped
      · obtain ⟨result,member,bad⟩ := List.any_eq_true.mp failed
        exact ((passing_cases _).mp (passing result member)).1 (of_decide_eq_true bad)
      · exact unmapped mapped

structure Current (run : RunDirectory) : Prop where
  coverage : run.coverage = rebuiltCoverage run.catalogue run.results run.decisions
  outcome : run.outcome = qualificationOutcome run.results run.coverage
  covers : Covers run.results run.catalogue.tests

theorem open_passing (disposes : Disposes decisions change) (covers : Covers results catalogue.tests)
    (passing : AllPassing results) {requirement : Requirement} (mapped : mappedTests catalogue.tests requirement.uid ≠ []) :
    (change (coverageRow catalogue.tests results requirement)).result.passing = true ↔ ¬ requirement.Open decisions := by
  have own := coverageRow_passing covers passing mapped
  have uid : (coverageRow catalogue.tests results requirement).uid = requirement.uid := rfl
  rw [disposes.result,uid]
  unfold Requirement.Open
  cases lastDisposition decisions requirement.uid with
  | some outcome => simp
  | none => rw [Option.getD_none,own,Bool.not_eq_true]

theorem Current.agrees_iff (current : Current run) : Agrees run ↔ Shown run := by
  obtain ⟨change,disposes,equal⟩ := rebuiltCoverage_rows run.catalogue run.results run.decisions
  have passed := qualificationOutcome_pass run.results run.coverage
  have mapped := unmapped_zero run.catalogue run.results run.decisions
  rw [← current.coverage] at equal mapped
  rw [← current.outcome,mapped] at passed
  have rows : run.coverage.rows =
      run.catalogue.requirements.map fun requirement => change (coverageRow run.catalogue.tests run.results requirement) := by
    rw [equal]
    rfl
  unfold Agrees
  rw [passed,rows]
  constructor
  · intro agrees
    by_cases passing : AllPassing run.results
    · by_cases all : AllMapped run.catalogue
      · refine .inr (.inr fun requirement member => ?_)
        apply (open_passing disposes current.covers passing (all requirement member)).mp
        exact agrees ⟨passing,all⟩ _ (List.mem_map.mpr ⟨requirement,member,rfl⟩)
      · refine .inr (.inl ?_)
        by_contra none
        apply all
        intro requirement member empty
        exact none ⟨requirement,member,mappedTests_empty.mp empty⟩
    · refine .inl ?_
      by_contra none
      apply passing
      intro result member
      by_contra failed
      exact none ⟨result,member,Bool.not_eq_true _ ▸ failed⟩
  · intro shown ⟨passing,all⟩ row member
    obtain ⟨requirement,among,rfl⟩ := List.mem_map.mp member
    apply (open_passing disposes current.covers passing (all requirement among)).mpr
    rcases shown with ⟨result,present,failed⟩ | ⟨other,present,unmapped⟩ | settled
    · rw [passing result present] at failed
      cases failed
    · exact absurd (mappedTests_empty.mpr unmapped) (all other present)
    · exact settled requirement among

theorem finishRun_current (name : String) (covers : Covers results catalogue.tests) : Current (finishRun name catalogue results) :=
  ⟨rfl,rfl,covers⟩

theorem rebuild_current (run : RunDirectory) (covers : Covers results run.catalogue.tests) :
    Current (rebuildRunOutputs run results decisions) :=
  ⟨rfl,rfl,covers⟩

theorem updateFirst_ids (testId : String) {change : TestResult → TestResult} (results : List TestResult)
    (same : ∀ result, (change result).testId = result.testId) :
    (updateFirst testId change results).map (·.testId) = results.map (·.testId) := by
  induction results with
  | nil => rfl
  | cons result rest ih =>
    rw [updateFirst]
    split
    · rw [List.map_cons,List.map_cons,same]
    · rw [List.map_cons,List.map_cons,ih]

theorem updateFirst_covers (testId : String) {change : TestResult → TestResult} (same : ∀ result, (change result).testId = result.testId)
    (covers : Covers results tests) : Covers (updateFirst testId change results) tests := by
  intro test member
  obtain ⟨result,present,named⟩ := covers test member
  have known : test.id ∈ (updateFirst testId change results).map (·.testId) := by
    rw [updateFirst_ids testId results same]
    exact List.mem_map.mpr ⟨result,present,named⟩
  obtain ⟨later,found,equal⟩ := List.mem_map.mp known
  exact ⟨later,found,equal⟩

theorem adjudicate_current (current : Current run) (testId outcome reason operator recordedAtUtc : String) (decisions : List Decision) :
    Current (adjudicate run testId outcome reason operator recordedAtUtc decisions).1 := by
  unfold adjudicate
  split
  · exact current
  · split
    · exact current
    · split
      · exact current
      · split
        · exact current
        · rename_i outcome _ _ _ _
          have same (result : TestResult) : (adjudicated outcome reason operator recordedAtUtc result).testId = result.testId := rfl
          exact rebuild_current run (updateFirst_covers testId same current.covers)

theorem addEvidence_current (current : Current run) (testId : String) (copied : List String) (complete : Bool)
    (decisions : List Decision) : Current (addEvidence run testId copied complete decisions) := by
  have same (result : TestResult) : (photographed copied complete result).testId = result.testId := rfl
  unfold addEvidence
  split
  · exact current
  · exact rebuild_current run (updateFirst_covers testId same current.covers)

theorem edit_current (current : Current run) (change : Edit) : Current (edit run change) := by
  cases change with
  | adjudicate testId outcome reason operator recordedAtUtc decisions =>
    exact adjudicate_current current testId outcome reason operator recordedAtUtc decisions
  | addEvidence testId copied complete decisions =>
    exact addEvidence_current current testId copied complete decisions

theorem edits_current (current : Current run) (edits : List Edit) : Current (edits.foldl edit run) := by
  induction edits generalizing run with
  | nil => exact current
  | cons first rest ih =>
    apply ih
    exact edit_current current first

-- After a run and any edits of it.
theorem outcome_agrees_iff (name : String) (catalogue : Catalogue) (results : List TestResult)
    (covers : Covers results catalogue.tests) (edits : List Edit) :
    Agrees (edits.foldl edit (finishRun name catalogue results)) ↔ Shown (edits.foldl edit (finishRun name catalogue results)) :=
  (edits_current (finishRun_current name covers) edits).agrees_iff

def pendingCatalogue : Catalogue where
  requirements := [⟨"SYS-1","SCRUM-1","HLR",some "System",some "tbd",none⟩]
  tests := [⟨"SYS-01",["SYS-1"],"automated"⟩]
  unique := by decide

def passedResults : List TestResult := [⟨"SYS-01",.pass,none,none,none,none,[],[],[]⟩]

theorem pending_covered : Covers passedResults pendingCatalogue.tests := by
  intro test member
  cases List.mem_singleton.mp member
  exact ⟨_,List.mem_singleton.mpr rfl,rfl⟩

theorem outcome_agrees_iff_pending :
    Agrees (finishRun "run" pendingCatalogue passedResults) ↔ Shown (finishRun "run" pendingCatalogue passedResults) :=
  outcome_agrees_iff "run" pendingCatalogue passedResults pending_covered []

theorem pending_passes :
    (finishRun "run" pendingCatalogue passedResults).outcome = .pass ∧
      (finishRun "run" pendingCatalogue passedResults).coverage.rows.map (fun row => (row.result,row.reason)) =
        [(.blocked,"Jira requirement status is tbd")] ∧
      ¬ Agrees (finishRun "run" pendingCatalogue passedResults) := by
  have passed : (finishRun "run" pendingCatalogue passedResults).outcome = .pass := by decide
  have rows : (finishRun "run" pendingCatalogue passedResults).coverage.rows.map (fun row => (row.result,row.reason)) =
      [(.blocked,"Jira requirement status is tbd")] := by decide
  refine ⟨passed,rows,fun agrees => ?_⟩
  obtain ⟨row,member,same⟩ := List.mem_map.mp (rows ▸ List.mem_singleton.mpr rfl)
  have good := agrees passed row member
  rw [(Prod.mk.inj same).1] at good
  cases good

end Thermometer.Verification
