import Mathlib.Data.List.Sort
import Thermometer.Verification.DeferredEvidence
import Thermometer.Verification.Resume

-- `run` of runner.py: the sections of a qualification run, their tests and its exit code.
namespace Thermometer.Verification.RunLoop
open Manual (Interpreter RunError Console FieldCatalogue GuidedTest ManualResult input numbered runManual)
open Texts (strip)

structure SetupGroup where
  order : Int
  title : String
  instructions : List String
  pause : Bool
  uartRequired : Bool

structure ScheduledTest where
  guided : GuidedTest
  automated : Bool
  assistedWorkflow : Bool
  setupGroup : Option String
  fixtures : List String
  instrumentation : List String

def ScheduledTest.id (test : ScheduledTest) : String := test.guided.id

def setupGroup (test : ScheduledTest) : String := test.setupGroup.getD "software"

-- validate_catalogs refuses two tests of one id, and a test of an unknown group.
structure Selection where
  tests : List ScheduledTest
  groups : String → SetupGroup
  unique : (tests.map (·.id)).Nodup

def orderOf (groups : String → SetupGroup) (test : ScheduledTest) : Int := (groups (setupGroup test)).order

def positionOf (tests : List ScheduledTest) (id : String) : Nat := tests.findIdx (·.id = id)

-- The keys of the sort: the order of the group, then the position in the catalogue.
def Before (groups : String → SetupGroup) (tests : List ScheduledTest) (left right : ScheduledTest) : Prop :=
  orderOf groups left < orderOf groups right ∨
    orderOf groups left = orderOf groups right ∧ positionOf tests left.id ≤ positionOf tests right.id

instance (groups : String → SetupGroup) (tests : List ScheduledTest) : DecidableRel (Before groups tests) :=
  fun _ _ => inferInstanceAs (Decidable (_ ∨ _))

def orderedBySetup (tests : List ScheduledTest) (groups : String → SetupGroup) : List ScheduledTest :=
  tests.insertionSort (Before groups tests)

inductive Readiness where
  | ready
  | notReady
  | confirmRequired
  | warning
  | confirmed
  deriving DecidableEq

def Readiness.text : Readiness → String
  | .ready => "READY"
  | .notReady => "NOT_READY"
  | .confirmRequired => "CONFIRM_REQUIRED"
  | .warning => "WARNING"
  | .confirmed => "CONFIRMED"

structure Status where
  status : Readiness
  detail : String

structure Statuses where
  fixtures : String → Status
  instrumentation : String → Status

def humanInstrumentation : List String :=
  ["auth_event_capture","backend_command_timestamp","BLE_transaction_timestamp","ble_transaction_capture",
    "browser_command_timestamp","browser_screenshot","button_event_timestamp","database_command_timeline",
    "ESP32_command_timestamp","esp32_serial_capture","history_transfer_trace","lcd_render_timestamp",
    "manual_disconnect_event_marker","manual_visual_confirmation","mtu_capture","photo_capture",
    "record_reconstruction_check","serial_capture"]

-- `uartReadiness` is what uart_capture.py finds.
def instrumentationStatus (uartReadiness : Bool × String) (name : String) : Status :=
  if name = "esp32_serial_capture" then ⟨if uartReadiness.1 then .ready else .confirmRequired,uartReadiness.2⟩
  else if "manual_".toList.isPrefixOf name.toList || humanInstrumentation.contains name then
    ⟨.confirmRequired,"operator or external capture confirmation required"⟩
  else ⟨.ready,"runner capture available"⟩

-- `checkFixture` asks the machine.
def runPreflight (checkFixture : String → Status) (uartReadiness : Bool × String) : Statuses :=
  ⟨checkFixture,instrumentationStatus uartReadiness⟩

def problem (kind : String) (statuses : String → Status) (name : String) : Option String :=
  if (statuses name).status = .notReady then some s!"{kind} {name}: {(statuses name).detail}" else none

def blockers (test : ScheduledTest) (statuses : Statuses) : List String :=
  test.fixtures.filterMap (problem "fixture" statuses.fixtures) ++
    test.instrumentation.filterMap (problem "instrumentation" statuses.instrumentation)

-- How a command ended. Its metrics are read outside of the two handlers.
inductive Ended where
  | exited (code : Int) (evidence : List String) (metrics : Except RunError Unit)
  | timedOut (seconds : String)
  | notStarted (error : String)

-- `runAssisted` is assisted.py; `ports` are the serial ports that a section finds.
structure Surroundings where
  interpreter : Interpreter
  fields : FieldCatalogue
  attended : Bool
  deferPhotos : Bool
  ports : Nat → List String
  command : String → Ended
  runAssisted : ScheduledTest → Statuses → Console ManualResult

variable (env : Surroundings)

structure SetupRecord where
  setupGroup : String
  title : String
  tests : List String
  instructions : List String
  uartPort : Option String
  confirmed : Bool
  response : String

def confirmSetup : Console Bool
  | [] => .error .endOfFile
  | line :: rest =>
    let response := strip line
    if response = "1" then .ok (true,rest) else if response = "2" then .ok (false,rest) else confirmSetup rest

-- An empty answer is no port.
def selectPort (ports : List String) : Console (Option String) := do
  let raw ← strip <$> input
  let chosen ← liftM (numbered env.interpreter ports raw)
  let port := chosen.getD raw
  return if port = "" then none else some port

def sectionPort (group : SetupGroup) (sections : Nat) (uartPort : Option String) : Console (Option String) :=
  if group.uartRequired && uartPort.getD "" = "" then selectPort env (env.ports sections) else pure uartPort

def prepareSetupSection (groupId : String) (group : SetupGroup) (tests : List ScheduledTest) (sections : Nat)
    (uartPort : Option String) : Console SetupRecord := do
  let record (port : Option String) (confirmed : Bool) (response : String) : SetupRecord :=
    ⟨groupId,group.title,tests.map (·.id),group.instructions,port,confirmed,response⟩
  if !group.pause then return record uartPort true "automatic"
  if !env.attended then return record uartPort false "non-interactive"
  let port ← sectionPort env group sections uartPort
  if group.uartRequired && port.getD "" = "" then return record uartPort false "UART port not supplied"
  let confirmed ← confirmSetup
  return record port confirmed (if confirmed then "ready" else "cannot prepare")

def result (test : ScheduledTest) (outcome : Outcome) (failureReason : Option String) (evidence : List String) : TestResult :=
  ⟨test.id,outcome,failureReason,none,none,none,[],evidence,[]⟩

def blockedResult (test : ScheduledTest) (reasons : List String) : TestResult :=
  result test .blocked (some ("; ".intercalate reasons)) []

def exitOutcome (code : Int) : Outcome :=
  if code = 0 then .pass else if code = 2 then .blocked else if code = 3 then .skipped else if code = 4 then .notApplicable else .fail

def runAutomated (test : ScheduledTest) : Except RunError TestResult :=
  match env.command test.id with
  | .exited code evidence metrics => do
    metrics
    return result test (exitOutcome code)
      (if code = 0 ∨ code = 2 ∨ code = 3 ∨ code = 4 then none else some s!"command exited with {code}") evidence
  | .timedOut seconds => return result test .fail (some s!"timeout after {seconds}s") []
  | .notStarted error => return result test .blocked (some error) []

def statusTexts (statuses : String → Status) (names : List String) : List (String × String) :=
  names.map fun name => (name,(statuses name).status.text)

def runManualTest (test : ScheduledTest) (statuses : Statuses) : Console TestResult := do
  if env.attended && test.assistedWorkflow then return recordedResult test.guided (← env.runAssisted test statuses)
  let (manual,_) ← runManual env.interpreter env.fields test.guided (statusTexts statuses.fixtures test.fixtures)
    (statusTexts statuses.instrumentation test.instrumentation) env.attended env.deferPhotos
  return recordedResult test.guided manual

def confirmedDuring (id : String) (names : List String) (statuses : String → Status) (name : String) : Status :=
  if name ∈ names ∧ (statuses name).status = .confirmRequired then ⟨.confirmed,s!"confirmed during {id}"⟩ else statuses name

def Statuses.confirm (statuses : Statuses) (test : ScheduledTest) : Statuses :=
  ⟨confirmedDuring test.id test.fixtures statuses.fixtures,confirmedDuring test.id test.instrumentation statuses.instrumentation⟩

def carryOut (test : ScheduledTest) (statuses : Statuses) : Console (TestResult × Statuses) := do
  if test.automated then return (← liftM (runAutomated env test),statuses)
  let manual ← runManualTest env test statuses
  return (manual,if manual.outcome = .blocked then statuses else statuses.confirm test)

structure LoopState where
  results : List TestResult
  setupRecords : List SetupRecord
  currentGroup : Option String
  groupReady : Bool
  uartPort : Option String
  statuses : Statuses

def beginSection (groups : String → SetupGroup) (ordered : List ScheduledTest) (s : LoopState) (test : ScheduledTest) :
    Console LoopState := do
  let groupId := setupGroup test
  if s.currentGroup = some groupId then return s
  let record ← prepareSetupSection env groupId (groups groupId) (ordered.filter (setupGroup · = groupId)) s.setupRecords.length
    s.uartPort
  return { s with
    setupRecords := s.setupRecords ++ [record], currentGroup := some groupId, groupReady := record.confirmed, uartPort := record.uartPort }

def reasonsAgainst (s : LoopState) (test : ScheduledTest) : List String :=
  blockers test s.statuses ++
    if s.groupReady then [] else [s!"setup section {setupGroup test} was not prepared and confirmed by the operator"]

def runTest (groups : String → SetupGroup) (ordered : List ScheduledTest) (s : LoopState) (test : ScheduledTest) :
    Console LoopState := do
  let s ← beginSection env groups ordered s test
  let reasons := reasonsAgainst s test
  if reasons ≠ [] then return { s with results := s.results ++ [blockedResult test reasons] }
  let (outcome,statuses) ← carryOut env test s.statuses
  return { s with results := s.results ++ [outcome], statuses := statuses }

def runTests (groups : String → SetupGroup) (pending : List ScheduledTest) (reused : List TestResult) (uartPort : Option String)
    (statuses : Statuses) : Console LoopState :=
  let ordered := orderedBySetup pending groups
  ordered.foldlM (runTest env groups ordered) ⟨reused,[],none,true,uartPort,statuses⟩

def sortResults (selected : Selection) (results : List TestResult) : List TestResult :=
  let position (result : TestResult) := positionOf (orderedBySetup selected.tests selected.groups) result.testId
  results.insertionSort fun left right => position left ≤ position right

def exitCode : Qualification → Nat
  | .pass => 0
  | .fail => 1
  | .blocked => 2

structure Completed where
  directory : RunDirectory
  setupTransitions : List SetupRecord
  exit : Nat

def run (selected : Selection) (catalogue : Catalogue) (name : String) (reused : List TestResult) (pending : List ScheduledTest)
    (uartPort : Option String) (statuses : Statuses) : Console Completed := do
  let s ← runTests env selected.groups pending reused uartPort statuses
  let directory := finishRun name catalogue (sortResults selected s.results)
  return ⟨directory,s.setupRecords,exitCode directory.outcome⟩

variable {env} {groups : String → SetupGroup} {test : ScheduledTest} {lines rest : List String}

structure Prepared (env : Surroundings) (group : SetupGroup) (record : SetupRecord) : Prop where
  confirmed : record.confirmed = true
  attended : group.pause = true → env.attended = true
  connected : group.pause = true → group.uartRequired = true → record.uartPort.getD "" ≠ ""

theorem prepareSetupSection_ok {groupId : String} {group : SetupGroup} {tests : List ScheduledTest} {sections : Nat}
    {uartPort : Option String} {record : SetupRecord}
    (prepared : prepareSetupSection env groupId group tests sections uartPort lines = .ok (record,rest)) :
    record.setupGroup = groupId ∧ record.tests = tests.map (·.id) ∧ (record.confirmed = true → Prepared env group record) := by
  unfold prepareSetupSection at prepared
  cases pause : group.pause with
  | false =>
    simp only [pause,Bool.not_false,if_true] at prepared
    cases prepared
    refine ⟨rfl,rfl,fun confirmed => ⟨confirmed,?_,?_⟩⟩ <;> simp [pause]
  | true =>
    cases attended : env.attended with
    | false =>
      simp only [pause,attended,Bool.not_true,Bool.not_false,Bool.false_eq_true,if_true,if_false] at prepared
      cases prepared
      exact ⟨rfl,rfl,fun confirmed => by cases confirmed⟩
    | true =>
      simp only [pause,attended,Bool.not_true,Bool.false_eq_true,if_false] at prepared
      obtain ⟨port,_,_,prepared⟩ := Console.bind_ok prepared
      split at prepared
      case isTrue =>
        cases prepared
        exact ⟨rfl,rfl,fun confirmed => by cases confirmed⟩
      case isFalse named =>
        obtain ⟨confirmed,_,_,prepared⟩ := Console.bind_ok prepared
        cases prepared
        refine ⟨rfl,rfl,fun confirmed => ⟨confirmed,fun _ => attended,fun _ required empty => named ?_⟩⟩
        simpa [required] using empty

theorem runAutomated_id {outcome : TestResult} (ran : runAutomated env test = .ok outcome) : outcome.testId = test.id := by
  unfold runAutomated at ran
  split at ran
  case h_1 code evidence metrics _ =>
    cases metrics <;> cases ran
    rfl
  case h_2 =>
    cases ran
    rfl
  case h_3 =>
    cases ran
    rfl

theorem runManualTest_id {statuses : Statuses} {outcome : TestResult} (ran : runManualTest env test statuses lines = .ok (outcome,rest)) :
    outcome.testId = test.id := by
  unfold runManualTest at ran
  split at ran
  · obtain ⟨manual,_,_,ran⟩ := Console.bind_ok ran
    cases ran
    rfl
  · obtain ⟨manual,_,_,ran⟩ := Console.bind_ok ran
    cases ran
    rfl

-- What stands against a test does so from the start: only what waits for the operator changes.
def SameBlockers (first later : Statuses) : Prop := ∀ test, blockers test later = blockers test first

theorem confirmedDuring_problem (kind id : String) (names : List String) (statuses : String → Status) :
    problem kind (confirmedDuring id names statuses) = problem kind statuses := by
  funext name
  unfold problem confirmedDuring
  by_cases waiting : name ∈ names ∧ (statuses name).status = .confirmRequired
  · simp [waiting]
  · rw [if_neg waiting]

theorem confirm_blockers (statuses : Statuses) (done : ScheduledTest) : SameBlockers statuses (statuses.confirm done) := by
  intro test
  unfold blockers Statuses.confirm
  rw [confirmedDuring_problem,confirmedDuring_problem]

theorem carryOut_ok {statuses after : Statuses} {outcome : TestResult}
    (ran : carryOut env test statuses lines = .ok ((outcome,after),rest)) : outcome.testId = test.id ∧ SameBlockers statuses after := by
  unfold carryOut at ran
  split at ran
  · obtain ⟨automated,_,lifted,ran⟩ := Console.bind_ok ran
    cases ran
    exact ⟨runAutomated_id (Console.lift_ok lifted),fun _ => rfl⟩
  · obtain ⟨manual,_,performed,ran⟩ := Console.bind_ok ran
    cases ran
    refine ⟨runManualTest_id performed,?_⟩
    split
    · exact fun _ => rfl
    · exact confirm_blockers statuses test

theorem before_trans {tests : List ScheduledTest} {a b c : ScheduledTest} (first : Before groups tests a b)
    (second : Before groups tests b c) : Before groups tests a c := by
  unfold Before at *
  omega

theorem before_total {tests : List ScheduledTest} (a b : ScheduledTest) : Before groups tests a b ∨ Before groups tests b a := by
  unfold Before
  omega

theorem ordered_orders (tests : List ScheduledTest) (groups : String → SetupGroup) :
    (orderedBySetup tests groups).Pairwise fun left right => orderOf groups left ≤ orderOf groups right := by
  have sorted : (orderedBySetup tests groups).Pairwise (Before groups tests) := by
    have : Std.Total (Before groups tests) := ⟨before_total⟩
    have : IsTrans ScheduledTest (Before groups tests) := ⟨fun _ _ _ => before_trans⟩
    exact List.pairwise_insertionSort _ _
  refine sorted.imp ?_
  intro left right before
  rcases before with less | ⟨same,_⟩
  · exact Int.le_of_lt less
  · exact Int.le_of_eq same

def DistinctOrders (groups : String → SetupGroup) (tests : List ScheduledTest) : Prop :=
  ∀ left ∈ tests, ∀ right ∈ tests, orderOf groups left = orderOf groups right → setupGroup left = setupGroup right

structure Sections (env : Surroundings) (groups : String → SetupGroup) (ordered done : List ScheduledTest) (s : LoopState) : Prop where
  begun : ∀ groupId, groupId ∈ s.setupRecords.map (·.setupGroup) ↔ groupId ∈ done.map setupGroup
  ascending : (s.setupRecords.map (·.setupGroup)).Pairwise fun left right => (groups left).order < (groups right).order
  current : s.currentGroup = (done.getLast?).map setupGroup
  ready : ∀ groupId, s.currentGroup = some groupId → s.groupReady = true →
    ∃ record ∈ s.setupRecords, record.setupGroup = groupId ∧ Prepared env (groups groupId) record
  listed : ∀ record ∈ s.setupRecords, record.tests = (ordered.filter (setupGroup · = record.setupGroup)).map (·.id)

structure LoopInvariant (env : Surroundings) (groups : String → SetupGroup) (ordered done : List ScheduledTest)
    (first s : LoopState) : Prop where
  sections : Sections env groups ordered done s
  settled : s.results.map (·.testId) = first.results.map (·.testId) ++ done.map (·.id)
  same : SameBlockers first.statuses s.statuses
  carried : ∀ result ∈ s.results, result ∈ first.results ∨ result.outcome = .blocked ∨
    ∃ test ∈ done, test.id = result.testId ∧ blockers test first.statuses = [] ∧
      ∃ record ∈ s.setupRecords, record.setupGroup = setupGroup test ∧ Prepared env (groups (setupGroup test)) record

variable {ordered done : List ScheduledTest} {first s next : LoopState}

theorem Sections.fresh (sections : Sections env groups ordered done s)
    (sorted : (done ++ [test]).Pairwise fun left right => orderOf groups left ≤ orderOf groups right)
    (distinct : DistinctOrders groups (done ++ [test])) (other : s.currentGroup ≠ some (setupGroup test)) :
    ∀ earlier ∈ done, orderOf groups earlier < orderOf groups test := by
  intro earlier member
  have at_most : orderOf groups earlier ≤ orderOf groups test :=
    (List.pairwise_append.mp sorted).2.2 earlier member test (List.mem_singleton_self _)
  refine lt_of_le_of_ne at_most fun same => other ?_
  obtain ⟨before,last,rfl⟩ : ∃ before last, done = before ++ [last] := by
    rcases List.eq_nil_or_concat done with rfl | ⟨before,last,same⟩
    · cases member
    · exact ⟨before,last,by rw [same,List.concat_eq_append]⟩
  have last_at_most : orderOf groups last ≤ orderOf groups test :=
    (List.pairwise_append.mp sorted).2.2 last (by simp) test (List.mem_singleton_self _)
  have at_least : orderOf groups earlier ≤ orderOf groups last := by
    rcases List.mem_append.mp member with inside | final
    · exact (List.pairwise_append.mp (List.pairwise_append.mp sorted).1).2.2 earlier inside last (List.mem_singleton_self _)
    · rw [List.mem_singleton.mp final]
  have group : setupGroup last = setupGroup test := distinct last (by simp) test (by simp) (by omega)
  rw [sections.current,List.getLast?_append,List.getLast?_singleton,Option.some_or,Option.map_some,group]

theorem Sections.step (sections : Sections env groups ordered done s)
    (sorted : (done ++ [test]).Pairwise fun left right => orderOf groups left ≤ orderOf groups right)
    (distinct : DistinctOrders groups (done ++ [test])) (begins : beginSection env groups ordered s test lines = .ok (next,rest)) :
    Sections env groups ordered (done ++ [test]) next ∧ next.results = s.results ∧ next.statuses = s.statuses ∧
      next.currentGroup = some (setupGroup test) ∧ ∀ record ∈ s.setupRecords, record ∈ next.setupRecords := by
  have last : ((done ++ [test]).getLast?).map setupGroup = some (setupGroup test) := by simp
  unfold beginSection at begins
  split at begins
  case isTrue current =>
    cases begins
    refine ⟨⟨?_,sections.ascending,current.trans last.symm,sections.ready,sections.listed⟩,rfl,rfl,current,fun _ member => member⟩
    intro groupId
    rw [sections.begun,List.map_append,List.mem_append]
    constructor
    · exact .inl
    · rintro (old | new)
      · exact old
      · obtain ⟨before,same⟩ := Option.map_eq_some_iff.mp (sections.current.symm.trans current)
        rw [List.map_singleton,List.mem_singleton] at new
        rw [new,← same.2]
        exact List.mem_map_of_mem (List.mem_of_getLast? same.1)
  case isFalse other =>
    obtain ⟨record,_,prepared,begins⟩ := Console.bind_ok begins
    cases begins
    obtain ⟨group,tests,ready⟩ := prepareSetupSection_ok prepared
    have earlier := sections.fresh sorted distinct other
    refine ⟨⟨?_,?_,last.symm,?_,?_⟩,rfl,rfl,rfl,fun _ member => List.mem_append_left _ member⟩
    · intro groupId
      simp only [List.map_append,List.map_singleton,List.mem_append,List.mem_singleton,sections.begun,group]
    · rw [List.map_append,List.pairwise_append]
      refine ⟨sections.ascending,List.pairwise_singleton _ _,?_⟩
      intro left before right after
      rw [List.map_singleton,List.mem_singleton] at after
      obtain ⟨old,member,same⟩ := List.mem_map.mp ((sections.begun left).mp before)
      rw [after,group,← same]
      exact earlier old member
    · intro groupId current confirmed
      cases Option.some.inj current
      exact ⟨record,List.mem_append_right _ (List.mem_singleton_self _),group,ready confirmed⟩
    · intro listed member
      rcases List.mem_append.mp member with old | new
      · exact sections.listed listed old
      · rw [List.mem_singleton.mp new,tests,group]

theorem LoopInvariant.step (invariant : LoopInvariant env groups ordered done first s)
    (sorted : (done ++ [test]).Pairwise fun left right => orderOf groups left ≤ orderOf groups right)
    (distinct : DistinctOrders groups (done ++ [test])) (ran : runTest env groups ordered s test lines = .ok (next,rest)) :
    LoopInvariant env groups ordered (done ++ [test]) first next := by
  unfold runTest at ran
  obtain ⟨begun,_,begins,ran⟩ := Console.bind_ok ran
  obtain ⟨sections,results,statuses,current,kept⟩ := invariant.sections.step sorted distinct begins
  have same : SameBlockers first.statuses begun.statuses := by
    rw [statuses]
    exact invariant.same
  have settled : begun.results.map (·.testId) = first.results.map (·.testId) ++ done.map (·.id) := by
    rw [results]
    exact invariant.settled
  have carried : ∀ result ∈ begun.results, result ∈ first.results ∨ result.outcome = .blocked ∨
      ∃ other ∈ done ++ [test], other.id = result.testId ∧ blockers other first.statuses = [] ∧
        ∃ record ∈ begun.setupRecords, record.setupGroup = setupGroup other ∧ Prepared env (groups (setupGroup other)) record := by
    intro result member
    rw [results] at member
    rcases invariant.carried result member with old | blocked | ⟨other,earlier,id,clear,record,recorded,prepared⟩
    · exact .inl old
    · exact .inr (.inl blocked)
    · exact .inr (.inr ⟨other,List.mem_append_left _ earlier,id,clear,record,kept record recorded,prepared⟩)
  have ids (outcome : TestResult) (id : outcome.testId = test.id) :
      (begun.results ++ [outcome]).map (·.testId) = first.results.map (·.testId) ++ (done ++ [test]).map (·.id) := by
    simp [settled,id]
  dsimp only at ran
  split at ran
  case isTrue =>
    cases ran
    refine ⟨⟨sections.begun,sections.ascending,sections.current,sections.ready,sections.listed⟩,ids _ rfl,same,?_⟩
    intro result member
    rcases List.mem_append.mp member with old | new
    · exact carried result old
    · rw [List.mem_singleton.mp new]
      exact .inr (.inl rfl)
  case isFalse unopposed =>
    obtain ⟨⟨outcome,after⟩,_,performed,ran⟩ := Console.bind_ok ran
    cases ran
    obtain ⟨id,later⟩ := carryOut_ok performed
    have none : reasonsAgainst begun test = [] := not_not.mp unopposed
    obtain ⟨clear,ready⟩ := List.append_eq_nil_iff.mp none
    refine ⟨⟨sections.begun,sections.ascending,sections.current,sections.ready,sections.listed⟩,ids _ id,?_,?_⟩
    · exact fun other => (later other).trans (same other)
    · intro result member
      rcases List.mem_append.mp member with old | new
      · exact carried result old
      · rw [List.mem_singleton.mp new]
        have confirmed : begun.groupReady = true := by
          by_contra unready
          rw [if_neg unready] at ready
          cases ready
        exact .inr (.inr ⟨test,List.mem_append_right _ (List.mem_singleton_self _),id.symm,(same test).symm.trans clear,
          sections.ready _ current confirmed⟩)

theorem LoopInvariant.steps {todo : List ScheduledTest} (invariant : LoopInvariant env groups ordered done first s)
    (sorted : (done ++ todo).Pairwise fun left right => orderOf groups left ≤ orderOf groups right)
    (distinct : DistinctOrders groups (done ++ todo)) (ran : todo.foldlM (runTest env groups ordered) s lines = .ok (next,rest)) :
    LoopInvariant env groups ordered (done ++ todo) first next := by
  induction todo generalizing done s lines with
  | nil =>
    cases ran
    simpa using invariant
  | cons test todo ih =>
    rw [List.foldlM_cons] at ran
    obtain ⟨middle,_,stepped,ran⟩ := Console.bind_ok ran
    rw [List.append_cons] at sorted distinct
    have now : LoopInvariant env groups ordered (done ++ [test]) first middle := by
      refine invariant.step (List.pairwise_append.mp sorted).1 ?_ stepped
      exact fun left member right other => distinct left (List.mem_append_left _ member) right (List.mem_append_left _ other)
    rw [List.append_cons]
    exact ih now sorted distinct ran

theorem runTests_invariant {pending : List ScheduledTest} {reused : List TestResult} {uartPort : Option String} {statuses : Statuses}
    (distinct : DistinctOrders groups pending) (ran : runTests env groups pending reused uartPort statuses lines = .ok (s,rest)) :
    LoopInvariant env groups (orderedBySetup pending groups) (orderedBySetup pending groups) ⟨reused,[],none,true,uartPort,statuses⟩ s := by
  have start : LoopInvariant env groups (orderedBySetup pending groups) [] ⟨reused,[],none,true,uartPort,statuses⟩
      ⟨reused,[],none,true,uartPort,statuses⟩ :=
    { sections := ⟨by simp,.nil,rfl,by simp,by simp⟩, settled := by simp, same := fun _ => rfl, carried := fun _ => .inl }
  refine start.steps (ordered_orders pending groups) ?_ ran
  intro left member right other
  exact distinct left (List.mem_insertionSort _ |>.mp member) right (List.mem_insertionSort _ |>.mp other)

theorem exit_iff (name : String) (catalogue : Catalogue) (results : List TestResult) :
    exitCode (finishRun name catalogue results).outcome = 0 ↔
      AllPassing results ∧ ∀ requirement ∈ catalogue.requirements, ∃ test ∈ catalogue.tests, requirement.uid ∈ test.requirements := by
  have code : ∀ outcome : Qualification, exitCode outcome = 0 ↔ outcome = .pass := by
    intro outcome
    cases outcome <;> simp [exitCode]
  have mapped : AllMapped catalogue ↔
      ∀ requirement ∈ catalogue.requirements, ∃ test ∈ catalogue.tests, requirement.uid ∈ test.requirements := by
    refine forall₂_congr fun requirement _ => ?_
    rw [Ne,mappedTests_empty]
    simp only [not_forall,not_not,exists_prop]
  rw [code,← mapped,← unmapped_zero catalogue results []]
  exact qualificationOutcome_pass results _

theorem positionOf_idxOf (tests : List ScheduledTest) (id : String) : positionOf tests id = (tests.map (·.id)).idxOf id := by
  rw [positionOf,List.idxOf,List.findIdx_map]
  congr 1

theorem sorted_ids {tests : List ScheduledTest} {results : List TestResult} (unique : (tests.map (·.id)).Nodup)
    (same : (results.map (·.testId)).Perm (tests.map (·.id)))
    (sorted : results.Pairwise fun left right => positionOf tests left.testId ≤ positionOf tests right.testId) :
    results.map (·.testId) = tests.map (·.id) := by
  have ordered : (results.map (·.testId)).Pairwise fun left right => positionOf tests left ≤ positionOf tests right :=
    List.pairwise_map.mpr sorted
  have listed : (tests.map (·.id)).Pairwise fun left right => positionOf tests left ≤ positionOf tests right := by
    rw [List.pairwise_iff_getElem]
    intro i j first second before
    rw [positionOf_idxOf,positionOf_idxOf,unique.idxOf_getElem,unique.idxOf_getElem]
    exact Nat.le_of_lt before
  refine List.Perm.eq_of_pairwise ?_ ordered listed same
  intro left right member other at_most at_least
  have position := Nat.le_antisymm at_most at_least
  rw [positionOf_idxOf,positionOf_idxOf] at position
  exact (List.idxOf_inj (same.mem_iff.mp member)).mp position

theorem sortResults_sorted (selected : Selection) (results : List TestResult) :
    (sortResults selected results).Pairwise fun left right =>
      positionOf (orderedBySetup selected.tests selected.groups) left.testId ≤
        positionOf (orderedBySetup selected.tests selected.groups) right.testId := by
  let order (left right : TestResult) : Prop :=
    positionOf (orderedBySetup selected.tests selected.groups) left.testId ≤
      positionOf (orderedBySetup selected.tests selected.groups) right.testId
  have total : Std.Total order := ⟨fun _ _ => Nat.le_total _ _⟩
  have trans : IsTrans TestResult order := ⟨fun _ _ _ => Nat.le_trans⟩
  exact List.pairwise_insertionSort order results

-- A run that came to its end: one result for every selected test, in the order of the sections; every section asked for
-- once, one after the other, before its tests. A test that was run and is not BLOCKED is one of a section that was confirmed
-- for it, with nothing missing. It ends with 0 exactly where every selected test has passed and every requirement has a test.
structure Settles (env : Surroundings) (selected : Selection) (catalogue : Catalogue) (reused : List TestResult)
    (pending : List ScheduledTest) (statuses : Statuses) (completed : Completed) : Prop where
  results : completed.directory.results.map (·.testId) = (orderedBySetup selected.tests selected.groups).map (·.id)
  ascending : (completed.setupTransitions.map fun record => (selected.groups record.setupGroup).order).Pairwise (· < ·)
  asked : ∀ test ∈ pending, ∃ record ∈ completed.setupTransitions, record.setupGroup = setupGroup test ∧ test.id ∈ record.tests
  prepared : ∀ result ∈ completed.directory.results, result ∈ reused ∨ result.outcome = .blocked ∨
    ∃ test ∈ pending, test.id = result.testId ∧ blockers test statuses = [] ∧
      ∃ record ∈ completed.setupTransitions, record.setupGroup = setupGroup test ∧
        Prepared env (selected.groups (setupGroup test)) record
  exit : completed.exit = 0 ↔
    (∀ test ∈ selected.tests, ∃ result ∈ completed.directory.results, result.testId = test.id ∧ result.outcome.passing = true) ∧
      ∀ requirement ∈ catalogue.requirements, ∃ test ∈ catalogue.tests, requirement.uid ∈ test.requirements

-- For any results and tests that share out the selection.
theorem divided_settles (selected : Selection) (catalogue : Catalogue) (name : String) (reused : List TestResult)
    (pending : List ScheduledTest) (uartPort : Option String) (statuses : Statuses) (completed : Completed)
    (divided : (reused.map (·.testId) ++ pending.map (·.id)).Perm (selected.tests.map (·.id)))
    (chosen : ∀ test ∈ pending, test ∈ selected.tests) (distinct : DistinctOrders selected.groups selected.tests)
    (ran : run env selected catalogue name reused pending uartPort statuses lines = .ok (completed,rest)) :
    Settles env selected catalogue reused pending statuses completed := by
  obtain ⟨s,_,loop,ran⟩ := Console.bind_ok ran
  cases ran
  have invariant := runTests_invariant (fun left member right other => distinct left (chosen left member) right (chosen right other)) loop
  have pending_order : (orderedBySetup pending selected.groups).Perm pending := List.perm_insertionSort _ _
  have selected_order : (orderedBySetup selected.tests selected.groups).Perm selected.tests := List.perm_insertionSort _ _
  have results_order : (sortResults selected s.results).Perm s.results := List.perm_insertionSort _ _
  have ids : ((sortResults selected s.results).map (·.testId)).Perm (selected.tests.map (·.id)) := by
    refine (results_order.map _).trans ?_
    rw [invariant.settled]
    exact ((pending_order.map _).append_left _).trans divided
  have unique : ((orderedBySetup selected.tests selected.groups).map (·.id)).Nodup :=
    (selected_order.map _).nodup_iff.mpr selected.unique
  refine ⟨sorted_ids unique (ids.trans (selected_order.map _).symm) (sortResults_sorted selected s.results),?_,?_,?_,?_⟩
  · have ascending := List.pairwise_map.mp invariant.sections.ascending
    exact List.pairwise_map.mpr ascending
  · intro test member
    have turn : setupGroup test ∈ (orderedBySetup pending selected.groups).map setupGroup :=
      List.mem_map_of_mem (pending_order.mem_iff.mpr member)
    obtain ⟨record,recorded,group⟩ := List.mem_map.mp ((invariant.sections.begun _).mpr turn)
    refine ⟨record,recorded,group,?_⟩
    rw [invariant.sections.listed record recorded]
    exact List.mem_map_of_mem (List.mem_filter.mpr ⟨pending_order.mem_iff.mpr member,decide_eq_true group.symm⟩)
  · intro result member
    rcases invariant.carried result (results_order.mem_iff.mp member) with old | blocked | ⟨test,run,id,clear,record,recorded,prepared⟩
    · exact .inl old
    · exact .inr (.inl blocked)
    · exact .inr (.inr ⟨test,pending_order.mem_iff.mp run,id,clear,record,recorded,prepared⟩)
  · rw [exit_iff]
    refine and_congr_left fun _ => ?_
    constructor
    · intro passing test member
      have among : test.id ∈ (sortResults selected s.results).map (·.testId) := ids.mem_iff.mpr (List.mem_map_of_mem member)
      obtain ⟨result,present,id⟩ := List.mem_map.mp among
      exact ⟨result,present,id,passing result present⟩
    · intro passed result member
      obtain ⟨test,among,id⟩ := List.mem_map.mp (ids.mem_iff.mp (List.mem_map_of_mem member))
      obtain ⟨other,present,same,passing⟩ := passed test among
      have once := ids.nodup_iff.mpr selected.unique
      rw [List.inj_on_of_nodup_map once member present (id.symm.trans same.symm)]
      exact passing

-- A run begins with its whole selection, or with what resuming an earlier run leaves of it;
-- `scheduled` and `carried` are what is read of the entries.
inductive Begins (selected : Selection) : List TestResult → List ScheduledTest → Prop where
  | fresh : Begins selected [] selected.tests
  | resumed (t : Resume.Shown) (source : Resume.SourceRun) (entries : Resume.Selection) (runId reusedAt : String)
      (scheduled : Resume.Test → ScheduledTest) (carried : Resume.Copied → TestResult) :
      selected.tests = entries.tests.map scheduled → (∀ test, (scheduled test).id = test.id) →
      (∀ copied, (carried copied).testId = copied.testId) →
      Resume.resumeResults t source entries runId reusedAt = .ok (reused,pending,manifest) →
      Begins selected (reused.map carried) (pending.map scheduled)

theorem Begins.divides {selected : Selection} {reused : List TestResult} {pending : List ScheduledTest}
    (begun : Begins selected reused pending) :
    (reused.map (·.testId) ++ pending.map (·.id)).Perm (selected.tests.map (·.id)) ∧ ∀ test ∈ pending, test ∈ selected.tests := by
  cases begun with
  | fresh => exact ⟨.refl _,fun _ => id⟩
  | @resumed copied left manifest t source entries runId reusedAt scheduled carried same ids results resumed =>
    obtain ⟨divided,asSelected⟩ := Resume.resume_divides resumed
    have scheduledIds (tests : List Resume.Test) : (tests.map scheduled).map (·.id) = tests.map (·.id) := by
      rw [List.map_map]
      exact List.map_congr_left fun test _ => ids test
    have carriedIds : (copied.map carried).map (·.testId) = copied.map (·.testId) := by
      rw [List.map_map]
      exact List.map_congr_left fun other _ => results other
    constructor
    · rw [same,scheduledIds,scheduledIds,carriedIds]
      exact divided
    · rw [same]
      intro test member
      obtain ⟨entry,among,rfl⟩ := List.mem_map.mp member
      exact List.mem_map_of_mem (asSelected entry among)

theorem run_settles_selection (selected : Selection) (catalogue : Catalogue) (name : String) (reused : List TestResult)
    (pending : List ScheduledTest) (uartPort : Option String) (statuses : Statuses) (completed : Completed)
    (begun : Begins selected reused pending) (distinct : DistinctOrders selected.groups selected.tests)
    (ran : run env selected catalogue name reused pending uartPort statuses lines = .ok (completed,rest)) :
    Settles env selected catalogue reused pending statuses completed := by
  obtain ⟨divided,chosen⟩ := begun.divides
  exact divided_settles selected catalogue name reused pending uartPort statuses completed divided chosen distinct ran

def deviceTest : ScheduledTest := ⟨⟨"HIL-01",[]⟩,true,false,some "uart_live",["esp32"],[]⟩

def softwareTest : ScheduledTest := ⟨⟨"SW-01",[]⟩,true,false,none,[],[]⟩

def bench : Surroundings where
  interpreter := Manual.asciiInterpreter
  fields := []
  attended := true
  deferPhotos := false
  ports _ := ["COM8"]
  command _ := .exited 0 [] (.ok ())
  runAssisted _ _ := throw .osError

def twoSections : Selection where
  tests := [deviceTest,softwareTest]
  groups groupId := if groupId = "uart_live" then ⟨40,"UART",["Connect"],true,true⟩ else ⟨10,"Software",["Nothing"],false,false⟩
  unique := by decide

theorem twoSections_distinct : DistinctOrders twoSections.groups twoSections.tests := by
  intro left member right other same
  simp only [twoSections,List.mem_cons,List.not_mem_nil,or_false] at member other
  rcases member with rfl | rfl <;> rcases other with rfl | rfl
  · rfl
  · cases same
  · cases same
  · rfl

def bothCovered : Catalogue := ⟨[⟨"R1","","",none,none,none⟩],[⟨"HIL-01",["R1"],"automated"⟩,⟨"SW-01",[],"automated"⟩],by decide⟩

-- The operator names a port and confirms the section.
theorem run_settles_selection_two_sections :
    ∃ completed, run bench twoSections bothCovered "run" [] twoSections.tests none (runPreflight (fun _ => ⟨.ready,""⟩) (true,""))
        ["1","1"] = .ok (completed,[]) ∧
      completed.directory.results.map (·.testId) = ["SW-01","HIL-01"] ∧
      completed.setupTransitions.map (fun record => (record.setupGroup,record.uartPort)) =
        [("software",none),("uart_live",some "COM8")] ∧ completed.exit = 0 := by
  obtain ⟨completed,ran,sections,exit⟩ : ∃ completed,
      run bench twoSections bothCovered "run" [] twoSections.tests none (runPreflight (fun _ => ⟨.ready,""⟩) (true,"")) ["1","1"] =
        .ok (completed,[]) ∧ completed.setupTransitions.map (fun record => (record.setupGroup,record.uartPort)) =
        [("software",none),("uart_live",some "COM8")] ∧ completed.exit = 0 := ⟨_,rfl,rfl,by decide⟩
  have settled := run_settles_selection twoSections bothCovered "run" [] twoSections.tests none _ completed .fresh
    twoSections_distinct ran
  exact ⟨completed,ran,settled.results.trans rfl,sections,exit⟩

end Thermometer.Verification.RunLoop
