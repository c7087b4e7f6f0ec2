import Thermometer.Lib.Texts
import Mathlib.Data.List.Nodup

-- outcomes.py and reporters/coverage.py of the verification framework.
namespace Thermometer.Verification
open Texts (strip)

inductive Outcome where
  | pass | passOverride | fail | blocked | skipped | notApplicable
  deriving DecidableEq, Repr

-- `TEST_OUTCOMES`.
def Outcome.all : List Outcome := [.pass,.passOverride,.fail,.blocked,.skipped,.notApplicable]

def Outcome.name : Outcome → String
  | .pass => "PASS" | .passOverride => "PASS_OVERRIDE" | .fail => "FAIL" | .blocked => "BLOCKED"
  | .skipped => "SKIPPED" | .notApplicable => "NOT_APPLICABLE"

-- `PASSING_OUTCOMES`.
def Outcome.passing : Outcome → Bool
  | .pass | .passOverride | .notApplicable => true
  | .fail | .blocked | .skipped => false

-- `str.upper`, as far as its result is made of ASCII letters.
def upperChar (c : Char) : List Char :=
  if c.toNat = 0xdf then ['S','S']
  else if c.toNat = 0x131 then ['I']
  else if c.toNat = 0x17f then ['S']
  else if c.toNat = 0xfb00 then ['F','F']
  else if c.toNat = 0xfb01 then ['F','I']
  else if c.toNat = 0xfb02 then ['F','L']
  else if c.toNat = 0xfb03 then ['F','F','I']
  else if c.toNat = 0xfb04 then ['F','F','L']
  else if c.toNat = 0xfb05 ∨ c.toNat = 0xfb06 then ['S','T']
  else [c.toUpper]

-- `none` for a text that is not among the outcomes.
def normalizeOutcome (value : String) : Option Outcome :=
  let upper := (strip value).toList.flatMap upperChar
  let normalized := String.ofList (upper.map fun c => if c = '-' ∨ c = ' ' then '_' else c)
  if normalized = "PASS_(OVERRIDE)" then some .passOverride else Outcome.all.find? (·.name = normalized)

structure Requirement where
  uid : String
  jira : String
  level : String
  component : Option String
  status : Option String
  dispositionNote : Option String
  deriving DecidableEq

structure TestDefinition where
  id : String
  requirements : List String
  method : String
  deriving DecidableEq

-- validate_catalogs refuses a catalogue with two requirements of one UID.
structure Catalogue where
  requirements : List Requirement
  tests : List TestDefinition
  unique : (requirements.map (·.uid)).Nodup

def Requirement.statusText (requirement : Requirement) : String := requirement.status.getD "active"

def Requirement.hasStatus (requirement : Requirement) (status : String) : Bool :=
  String.ofList (requirement.statusText.toList.map Char.toLower) = status

def Requirement.unresolved (requirement : Requirement) : Bool := requirement.hasStatus "tbd" || requirement.hasStatus "conflict"

-- A test counts once for each time it names the requirement.
def mappedTests (tests : List TestDefinition) (uid : String) : List TestDefinition :=
  tests.flatMap fun test => (test.requirements.filter (· = uid)).map fun _ => test

structure Adjudication where
  operator : String
  reason : String
  outcome : Outcome
  override : Bool
  recordedAtUtc : String
  deriving DecidableEq

structure TestResult where
  testId : String
  outcome : Outcome
  failureReason : Option String
  originalOutcome : Option Outcome
  originalFailureReason : Option String
  adjudication : Option Adjudication
  adjudicationHistory : List Adjudication
  evidence : List String
  pendingEvidence : List String
  deriving DecidableEq

-- The last result of a test counts.
def outcomeOf (results : List TestResult) (id : String) : Option Outcome :=
  (results.reverse.find? (·.testId = id)).map (·.outcome)

structure Row where
  uid : String
  jira : String
  level : String
  component : String
  requirementStatus : String
  tests : List String
  automatedTests : List String
  humanTests : List String
  result : Outcome
  reason : String
  deriving DecidableEq

def reduction (requirement : Requirement) (mapped : List TestDefinition) (states : List Outcome) : Outcome × String :=
  if requirement.hasStatus "not_applicable" then
    (.notApplicable,requirement.dispositionNote.getD "requirement removed from project scope")
  else if requirement.unresolved then (.blocked,s!"Jira requirement status is {requirement.statusText}")
  else if mapped = [] then (.fail,"unmapped requirement")
  else if .fail ∈ states then (.fail,"one or more executed mandatory tests failed")
  else if states.length < mapped.length ∨ .blocked ∈ states ∨ .skipped ∈ states then
    (.blocked,"mandatory verification is unexecuted, skipped, or blocked")
  else if states ≠ [] ∧ states.all (·.passing) then
    if .passOverride ∈ states then
      (.passOverride,"all mandatory mapped tests passed; one or more results were operator overrides")
    else (.pass,"all mandatory mapped tests passed")
  else (.blocked,"no conclusive evidence")

def coverageRow (tests : List TestDefinition) (results : List TestResult) (requirement : Requirement) : Row :=
  let mapped := mappedTests tests requirement.uid
  let reduced := reduction requirement mapped (mapped.filterMap fun test => outcomeOf results test.id)
  { uid := requirement.uid
    jira := requirement.jira
    level := requirement.level
    component := requirement.component.getD ""
    requirementStatus := requirement.statusText
    tests := mapped.map (·.id)
    automatedTests := (mapped.filter (·.method = "automated")).map (·.id)
    humanTests := (mapped.filter (·.method ≠ "automated")).map (·.id)
    result := reduced.1
    reason := reduced.2 }

structure Report where
  rows : List Row
  counts : Outcome → Nat
  unmapped : Nat
  total : Nat

def Report.ofRows (rows : List Row) : Report :=
  ⟨rows,fun state => rows.countP (·.result = state),rows.countP (·.tests = []),rows.length⟩

def calculate (requirements : List Requirement) (tests : List TestDefinition) (results : List TestResult) : Report :=
  .ofRows (requirements.map (coverageRow tests results))

variable {tests : List TestDefinition} {results : List TestResult} {requirement : Requirement}

def Covers (results : List TestResult) (tests : List TestDefinition) : Prop :=
  ∀ test ∈ tests, ∃ result ∈ results, result.testId = test.id

def AllPassing (results : List TestResult) : Prop := ∀ result ∈ results, result.outcome.passing = true

theorem outcomeOf_covered (covers : Covers results tests) (member : test ∈ tests) :
    ∃ result ∈ results, outcomeOf results test.id = some result.outcome := by
  obtain ⟨result,present,same⟩ := covers test member
  cases found : results.reverse.find? (·.testId = test.id) with
  | none =>
    have missing := List.find?_eq_none.mp found result (List.mem_reverse.mpr present)
    exact absurd (decide_eq_true same) missing
  | some last =>
    refine ⟨last,List.mem_reverse.mp (List.mem_of_find?_eq_some found),?_⟩
    rw [outcomeOf,found]
    rfl

theorem mem_mappedTests : test ∈ mappedTests tests uid ↔ test ∈ tests ∧ uid ∈ test.requirements := by
  unfold mappedTests
  simp only [List.mem_flatMap,List.mem_map,List.mem_filter,decide_eq_true_eq]
  constructor
  · intro ⟨other,member,named,⟨among,same⟩,equal⟩
    subst equal same
    exact ⟨member,among⟩
  · intro ⟨member,among⟩
    exact ⟨test,member,uid,⟨among,rfl⟩,rfl⟩

theorem mappedTests_empty : mappedTests tests uid = [] ↔ ∀ test ∈ tests, uid ∉ test.requirements := by
  rw [List.eq_nil_iff_forall_not_mem]
  simp only [mem_mappedTests,not_and]

theorem reduction_passing {mapped : List TestDefinition} {states : List Outcome} (tested : mapped ≠ [])
    (length : states.length = mapped.length) (good : ∀ state ∈ states, state.passing = true) :
    (reduction requirement mapped states).1.passing = true ↔ requirement.unresolved = false := by
  have bad (state : Outcome) (failed : state.passing = false) : state ∉ states := by
    intro member
    rw [good state member] at failed
    cases failed
  have some : states ≠ [] := by
    intro none
    rw [none] at length
    exact tested (List.length_eq_zero_iff.mp length.symm)
  unfold reduction
  by_cases removed : requirement.hasStatus "not_applicable"
  · have settled : requirement.unresolved = false := by
      have status := of_decide_eq_true removed
      unfold Requirement.unresolved Requirement.hasStatus
      rw [status]
      decide
    rw [if_pos removed,settled]
    exact ⟨fun _ => rfl,fun _ => rfl⟩
  · rw [if_neg removed]
    cases requirement.unresolved with
    | true => exact ⟨nofun,nofun⟩
    | false =>
      have complete : ¬ (states.length < mapped.length ∨ .blocked ∈ states ∨ .skipped ∈ states) := by
        intro incomplete
        rcases incomplete with less | blocked | skipped
        · omega
        · exact bad .blocked rfl blocked
        · exact bad .skipped rfl skipped
      rw [if_neg nofun,if_neg tested,if_neg (bad .fail rfl),if_neg complete,if_pos ⟨some,List.all_eq_true.mpr good⟩]
      refine ⟨fun _ => rfl,fun _ => ?_⟩
      split <;> rfl

theorem coverageRow_passing (covers : Covers results tests) (passing : AllPassing results)
    (mapped : mappedTests tests requirement.uid ≠ []) :
    (coverageRow tests results requirement).result.passing = true ↔ requirement.unresolved = false := by
  let states := (mappedTests tests requirement.uid).filterMap fun test => outcomeOf results test.id
  have covered : ∀ test ∈ mappedTests tests requirement.uid, ∃ result ∈ results,
      outcomeOf results test.id = some result.outcome :=
    fun test member => outcomeOf_covered covers (mem_mappedTests.mp member).1
  have good : ∀ state ∈ states, state.passing = true := by
    intro state member
    obtain ⟨test,among,known⟩ := List.mem_filterMap.mp member
    obtain ⟨result,present,same⟩ := covered test among
    rw [known] at same
    cases same
    exact passing result present
  have length : states.length = (mappedTests tests requirement.uid).length := by
    apply List.filterMap_length_eq_length.mpr
    intro test member
    obtain ⟨result,_,known⟩ := covered test member
    rw [known]
    rfl
  exact reduction_passing mapped length good

end Thermometer.Verification
