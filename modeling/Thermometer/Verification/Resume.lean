import Thermometer.Lib.JsonText
import Thermometer.Verification.ManualRun

-- `_resume_results` of runner.py: which results of an earlier run are carried over.
namespace Thermometer.Verification.Resume
open Json (Value Checked dumps)
open Manual (ManualField FieldCatalogue fieldsOf)
open OrderedMap

structure Test where
  document : Value
  id : String
  named : document.field "id" = some (.text id)

-- A line of results.jsonl.
structure StoredResult where
  document : Value
  testId : String
  named : document.field "test_id" = some (.text testId)

-- What the tests are carried out by and judged by, beside their definitions: the procedures
-- and the limits under manual/.
structure Criteria where
  procedures : String → Option String
  fields : FieldCatalogue

-- The run's directory keeps its results, its catalogue and its evidence; what `criteria` were
-- in force then is written down nowhere.
structure SourceRun where
  name : String
  results : Option (List StoredResult)
  tests : Option (List Test)
  evidence : List (String × List String)
  criteria : Criteria

-- validate_catalogs refuses two tests of one id.
structure Selection where
  tests : List Test
  unique : (tests.map (·.id)).Nodup

structure Copied where
  testId : String
  members : List (String × Value)

structure ResumeDecision where
  testId : String
  action : String
  reason : String

structure Resumption where
  reused : List Copied
  pending : List Test
  decisions : List ResumeDecision
  present : List String

structure Manifest where
  sourceRun : String
  createdAtUtc : String
  reusedTestIds : List String
  rerunTestIds : List String
  decisions : List ResumeDecision

-- `str` and `repr` of the values that are shown.
structure Shown where
  str : Value → String
  floatRepr : Float → String

variable (t : Shown)

-- The dictionaries of the results and of the frozen tests keep the last entry of an id.
def resultOf (results : List StoredResult) (id : String) : Option StoredResult := results.reverse.find? (·.testId = id)

def frozenOf (tests : List Test) (id : String) : Option Test := tests.reverse.find? (·.id = id)

def passingOutcomes : List String := (Outcome.all.filter Outcome.passing).map Outcome.name

def hasPassed (previous : StoredResult) : Checked Bool := do
  let key ← ((previous.document.field "outcome").getD .null).key
  return passingOutcomes.any fun outcome => key = .text outcome

def sameTestDefinition (previous : Option Test) (current : Test) : Bool :=
  previous.any fun frozen => dumps t.floatRepr frozen.document = dumps t.floatRepr current.document

def sourceEvidence (source : SourceRun) (id : String) : List String :=
  ((source.evidence.lookup id).getD []).map fun file => s!"evidence/{id}/{file}"

def isPresent (present : List String) : Value → Checked Bool
  | .text path => .ok (present.contains path)
  | _ => .error .typeError

def copyResult (runId sourceName reusedAt : String) (present : List String) (previous : StoredResult) (test : Test) :
    Checked Copied := do
  let given (name : String) (default : Value) : Value := (test.document.field name).getD default
  let listed ← ((previous.document.field "evidence").getD (.array [])).items
  let evidence ← listed.filterM (isPresent present)
  return ⟨previous.testId,assignAll previous.document.entries [
    ("run_id",.text runId),
    ("title",← test.document.subscript "title"),
    ("subsystem",← test.document.subscript "subsystem"),
    ("method",← test.document.subscript "method"),
    ("setup_group",given "setup_group" (.text "software")),
    ("requirements",given "requirements" (.array [])),
    ("jira_keys",given "jira_keys" (.array [])),
    ("limitations",given "limitations" (.array [])),
    ("human_intervention",given "human_intervention" .null),
    ("reused",.boolean true),
    ("execution_source",.text "imported"),
    ("reused_from_run",.text sourceName),
    ("reused_at_utc",.text reusedAt),
    ("source_started_at_utc",(previous.document.field "started_at_utc").getD .null),
    ("evidence",.array evidence)]⟩

def rerun (s : Resumption) (test : Test) (reason : String) : Resumption :=
  { s with pending := s.pending ++ [test],decisions := s.decisions ++ [⟨test.id,"rerun",reason⟩] }

def resumeTest (source : SourceRun) (results : List StoredResult) (tests : List Test) (runId reusedAt : String)
    (s : Resumption) (test : Test) : Checked Resumption :=
  match resultOf results test.id with
  | none => .ok (rerun s test "new or absent from source run")
  | some previous => do
    let outcome := (previous.document.field "outcome").getD (.text "unknown")
    if !(← hasPassed previous) then return rerun s test s!"source outcome was {t.str outcome}"
    else if !sameTestDefinition t (frozenOf tests test.id) test then return rerun s test "test definition changed"
    else
      let present := s.present ++ sourceEvidence source test.id
      let copied ← copyResult runId source.name reusedAt present previous test
      return { s with
        reused := s.reused ++ [copied]
        decisions := s.decisions ++ [⟨test.id,"reuse",s!"unchanged {t.str outcome} result"⟩]
        present := present }

def resumeResults (source : SourceRun) (selected : Selection) (runId reusedAt : String) :
    Checked (List Copied × List Test × Manifest) :=
  match source.results,source.tests with
  | some results,some tests => do
    let s ← selected.tests.foldlM (resumeTest t source results tests runId reusedAt) ⟨[],[],[],[]⟩
    return (s.reused,s.pending,⟨source.name,reusedAt,s.reused.map (·.testId),s.pending.map (·.id),s.decisions⟩)
  | _,_ => .error (.valueError s!"resume source {source.name} has no complete frozen test catalog/results")

def procedureOf (criteria : Criteria) (test : Test) : Option String :=
  match test.document.follow ["entrypoint","procedure"] with
  | .text path => criteria.procedures path
  | _ => none

-- Automated tests and assisted workflows do not ask for the fields of the catalogue.
def guided (test : Test) : Bool :=
  match test.document.field "method" with
  | some (.text "automated") => false
  | _ => !((test.document.field "assisted_workflow").getD .null).truthy

def limitsOf (criteria : Criteria) (test : Test) : List ManualField :=
  if guided test then fieldsOf criteria.fields test.id else []

structure Unaltered (source : SourceRun) (now : Criteria) (frozen test : Test) : Prop where
  definition : dumps t.floatRepr frozen.document = dumps t.floatRepr test.document
  procedure : procedureOf source.criteria frozen = procedureOf now test
  limits : limitsOf source.criteria frozen = limitsOf now test

def Justified (source : SourceRun) (now : Criteria) (test : Test) : Prop :=
  ∃ results tests previous frozen, source.results = some results ∧ source.tests = some tests ∧
    resultOf results test.id = some previous ∧ hasPassed previous = .ok true ∧
    frozenOf tests test.id = some frozen ∧ Unaltered t source now frozen test

structure Sound (source : SourceRun) (now : Criteria) (selected : Selection) (reused : List Copied) (pending : List Test) :
    Prop where
  divided : (reused.map (·.testId) ++ pending.map (·.id)).Perm (selected.tests.map (·.id))
  once : (reused.map (·.testId) ++ pending.map (·.id)).Nodup
  asSelected : ∀ test ∈ pending, test ∈ selected.tests
  justified : ∀ test ∈ selected.tests, test.id ∈ reused.map (·.testId) → Justified t source now test

def CriteriaKept (source : SourceRun) (now : Criteria) (selected : Selection) : Prop :=
  ∀ results tests, source.results = some results → source.tests = some tests →
    ∀ test ∈ selected.tests, ∀ previous, resultOf results test.id = some previous → hasPassed previous = .ok true →
      ∀ frozen, frozenOf tests test.id = some frozen → dumps t.floatRepr frozen.document = dumps t.floatRepr test.document →
        procedureOf source.criteria frozen = procedureOf now test ∧ limitsOf source.criteria frozen = limitsOf now test

variable {t} {source : SourceRun} {now : Criteria} {selected : Selection} {results : List StoredResult} {tests : List Test}
  {s next : Resumption} {test : Test} {runId reusedAt : String}

def reusable (t : Shown) (results : List StoredResult) (tests : List Test) (test : Test) : Bool :=
  match resultOf results test.id with
  | some previous => (hasPassed previous).toOption = some true && sameTestDefinition t (frozenOf tests test.id) test
  | none => false

theorem toOption_eq_some {value : α} {checked : Checked α} : checked.toOption = some value ↔ checked = .ok value := by
  cases checked <;> simp [Except.toOption]

theorem reusable_iff : reusable t results tests test = true ↔ ∃ previous frozen, resultOf results test.id = some previous ∧
    hasPassed previous = .ok true ∧ frozenOf tests test.id = some frozen ∧
    dumps t.floatRepr frozen.document = dumps t.floatRepr test.document := by
  unfold reusable sameTestDefinition
  cases resultOf results test.id with
  | none => simp
  | some previous => cases frozenOf tests test.id <;> simp [toOption_eq_some]

theorem resultOf_id {id : String} (found : resultOf results id = some previous) : previous.testId = id := by
  simpa using List.find?_some found

theorem copyResult_id (copied : copyResult runId sourceName reusedAt present previous test = .ok result) :
    result.testId = previous.testId := by
  obtain ⟨_,_,copied⟩ := Json.bind_ok copied
  obtain ⟨_,_,copied⟩ := Json.bind_ok copied
  obtain ⟨_,_,copied⟩ := Json.bind_ok copied
  obtain ⟨_,_,copied⟩ := Json.bind_ok copied
  obtain ⟨_,_,copied⟩ := Json.bind_ok copied
  cases copied
  rfl

theorem resumeTest_cases (ran : resumeTest t source results tests runId reusedAt s test = .ok next) :
    (reusable t results tests test = true ∧ next.reused.map (·.testId) = s.reused.map (·.testId) ++ [test.id] ∧
      next.pending = s.pending) ∨
    (reusable t results tests test = false ∧ next.reused = s.reused ∧ next.pending = s.pending ++ [test]) := by
  unfold resumeTest at ran
  unfold reusable
  cases found : resultOf results test.id with
  | none =>
    rw [found] at ran
    cases ran
    exact .inr ⟨rfl,rfl,rfl⟩
  | some previous =>
    rw [found] at ran
    obtain ⟨passed,known,ran⟩ := Json.bind_ok ran
    dsimp only
    rw [known]
    cases passed with
    | false =>
      cases ran
      exact .inr ⟨rfl,rfl,rfl⟩
    | true =>
      simp only [Bool.not_true,Bool.false_eq_true,if_false] at ran
      cases same : sameTestDefinition t (frozenOf tests test.id) test with
      | false =>
        rw [same] at ran
        cases ran
        exact .inr ⟨rfl,rfl,rfl⟩
      | true =>
        rw [same] at ran
        obtain ⟨copied,made,ran⟩ := Json.bind_ok ran
        cases ran
        refine .inl ⟨rfl,?_,rfl⟩
        rw [List.map_append,List.map_singleton,copyResult_id made,resultOf_id found]

theorem resumeTests_split {more : List Test} (ran : more.foldlM (resumeTest t source results tests runId reusedAt) s = .ok next) :
    next.reused.map (·.testId) = s.reused.map (·.testId) ++ (more.filter (reusable t results tests)).map (·.id) ∧
      next.pending = s.pending ++ more.filter (!reusable t results tests ·) := by
  induction more generalizing s with
  | nil =>
    cases ran
    exact ⟨by simp,by simp⟩
  | cons test rest ih =>
    rw [List.foldlM_cons] at ran
    obtain ⟨middle,first,ran⟩ := Json.bind_ok ran
    obtain ⟨reused,pending⟩ := ih ran
    rcases resumeTest_cases first with ⟨kept,ids,same⟩ | ⟨dropped,same,added⟩
    · rw [reused,pending,ids,same]
      simp [kept]
    · rw [reused,pending,same,added]
      simp [dropped]

theorem resumeResults_split (ran : resumeResults t source selected runId reusedAt = .ok (reused,pending,manifest)) :
    ∃ results tests, source.results = some results ∧ source.tests = some tests ∧
      reused.map (·.testId) = (selected.tests.filter (reusable t results tests)).map (·.id) ∧
      pending = selected.tests.filter (!reusable t results tests ·) := by
  unfold resumeResults at ran
  split at ran
  · rename_i results tests first second
    obtain ⟨s,loop,ran⟩ := Json.bind_ok ran
    cases ran
    exact ⟨results,tests,first,second,resumeTests_split loop⟩
  · cases ran

theorem reused_iff {ids : List String} (made : ids = (selected.tests.filter (reusable t results tests)).map (·.id))
    (member : test ∈ selected.tests) :
    test.id ∈ ids ↔ reusable t results tests test = true := by
  rw [made]
  constructor
  · intro among
    obtain ⟨other,kept,same⟩ := List.mem_map.mp among
    obtain ⟨present,decided⟩ := List.mem_filter.mp kept
    exact List.inj_on_of_nodup_map selected.unique present member same ▸ decided
  · exact fun decided => List.mem_map_of_mem (List.mem_filter.mpr ⟨member,decided⟩)

-- Every selected test is either among the reused results or still to be carried out.
theorem resume_divides (ran : resumeResults t source selected runId reusedAt = .ok (reused,pending,manifest)) :
    (reused.map (·.testId) ++ pending.map (·.id)).Perm (selected.tests.map (·.id)) ∧ ∀ test ∈ pending, test ∈ selected.tests := by
  obtain ⟨results,tests,_,_,ids,rest⟩ := resumeResults_split ran
  constructor
  · rw [ids,rest,← List.map_append]
    exact (List.filter_append_perm _ _).map _
  · intro test member
    rw [rest] at member
    exact (List.mem_filter.mp member).1

-- Whatever the run was, what resuming reuses is justified if and only if the criteria are
-- still those of the run.
theorem resume_iff (ran : resumeResults t source selected runId reusedAt = .ok (reused,pending,manifest)) (now : Criteria) :
    Sound t source now selected reused pending ↔ CriteriaKept t source now selected := by
  obtain ⟨results,tests,given,frozen,ids,rest⟩ := resumeResults_split ran
  constructor
  · intro sound results' tests' given' frozen' test member previous found passed definition catalogued same
    cases given.symm.trans given'
    cases frozen.symm.trans frozen'
    have decided : reusable t results tests test = true := reusable_iff.mpr ⟨previous,definition,found,passed,catalogued,same⟩
    obtain ⟨_,_,_,old,first,second,_,_,known,unaltered⟩ := sound.justified test member ((reused_iff ids member).mpr decided)
    cases given.symm.trans first
    cases frozen.symm.trans second
    cases catalogued.symm.trans known
    exact ⟨unaltered.procedure,unaltered.limits⟩
  · intro kept
    obtain ⟨divided,asSelected⟩ := resume_divides ran
    refine ⟨divided,divided.nodup_iff.mpr selected.unique,asSelected,fun test member among => ?_⟩
    obtain ⟨previous,old,found,passed,catalogued,same⟩ := reusable_iff.mp ((reused_iff ids member).mp among)
    obtain ⟨procedure,limits⟩ := kept results tests given frozen test member previous found passed old catalogued same
    exact ⟨results,tests,previous,old,given,frozen,found,passed,catalogued,same,procedure,limits⟩

def plainShown : Shown := ⟨fun _ => "",fun _ => ""⟩

def guidedTest : Test where
  document := .object [("id",.text "SYS-03"),("title",.text "History"),("subsystem",.text "system"),("method",.text "semi-automated"),
    ("entrypoint",.object [("procedure",.text "verification/manual/SYS-03.md")])]
  id := "SYS-03"
  named := by rfl

def passedResult : StoredResult where
  document := .object [("test_id",.text "SYS-03"),("outcome",.text "PASS")]
  testId := "SYS-03"
  named := by rfl

def asking (records : Int) : Criteria :=
  ⟨fun _ => some "Count the records.",[("SYS-03",[⟨"sensor_1_history_records",.integer,none,none,some (.integer records),none,none⟩])]⟩

def earlierRun : SourceRun := ⟨"2026-01-02T000000Z_abc",some [passedResult],some [guidedTest],[],asking 300⟩

def oneTest : Selection := ⟨[guidedTest],by simp⟩

theorem earlierRun_resumed : ∃ reused pending manifest,
    resumeResults plainShown earlierRun oneTest "run" "now" = .ok (reused,pending,manifest) ∧ reused.map (·.testId) = ["SYS-03"] := by
  have ran : (resumeResults plainShown earlierRun oneTest "run" "now").toOption.any
      (fun outcome => outcome.1.map (·.testId) = ["SYS-03"]) = true := by decide +kernel
  cases found : resumeResults plainShown earlierRun oneTest "run" "now" with
  | error error =>
    rw [found] at ran
    cases ran
  | ok outcome =>
    rw [found] at ran
    exact ⟨outcome.1,outcome.2.1,outcome.2.2,rfl,by simpa [Except.toOption] using ran⟩

theorem resume_same : ∃ reused pending manifest,
    resumeResults plainShown earlierRun oneTest "run" "now" = .ok (reused,pending,manifest) ∧
      (Sound plainShown earlierRun (asking 300) oneTest reused pending ↔ CriteriaKept plainShown earlierRun (asking 300) oneTest) := by
  obtain ⟨reused,pending,manifest,ran,_⟩ := earlierRun_resumed
  exact ⟨reused,pending,manifest,ran,resume_iff ran (asking 300)⟩

-- The minimum was raised; the old result is reused.
theorem resume_raised : ∃ reused pending manifest,
    resumeResults plainShown earlierRun oneTest "run" "now" = .ok (reused,pending,manifest) ∧
      ¬ Sound plainShown earlierRun (asking 600) oneTest reused pending := by
  obtain ⟨reused,pending,manifest,ran,ids⟩ := earlierRun_resumed
  refine ⟨reused,pending,manifest,ran,fun sound => ?_⟩
  have present : guidedTest ∈ oneTest.tests := List.mem_singleton_self _
  have among : guidedTest.id ∈ reused.map (·.testId) := by
    rw [ids]
    exact List.mem_singleton_self _
  obtain ⟨_,tests,_,frozen,_,given,_,_,known,unaltered⟩ := sound.justified guidedTest present among
  cases given
  cases known
  have limits := congrArg (List.map (·.minimum)) unaltered.limits
  have least : [some (Value.integer 300)] = [some (Value.integer 600)] := limits
  cases least

end Thermometer.Verification.Resume
