import Thermometer.Verification.DeferredEvidence

-- runner.py: what `adjudicate` and `evidence add`, in any number and order, leave of a run.
namespace Thermometer.Verification.EditHistory
open Texts (strip)

variable {run : RunDirectory} {catalogue : Catalogue} {results : List TestResult} {first found result : TestResult}
  {testId : String} {entries : List (RunDirectory × Edit)}

def testOf : Edit → String
  | .adjudicate testId .. => testId
  | .addEvidence testId .. => testId

def recorded (run : RunDirectory) (testId : String) : Edit → Option Adjudication
  | .adjudicate named outcome reason operator recordedAtUtc decisions =>
    if named = testId ∧ (adjudicate run named outcome reason operator recordedAtUtc decisions).2.1 = true then
      (normalizeOutcome outcome).map fun outcome => ⟨strip operator,strip reason,outcome,outcome = .passOverride,recordedAtUtc⟩
    else none
  | .addEvidence .. => none

def photosFor (testId : String) : Edit → List String
  | .adjudicate .. => []
  | .addEvidence named copied _ _ => if named = testId then copied else []

def journal (run : RunDirectory) : List Edit → List (RunDirectory × Edit)
  | [] => []
  | change :: rest => (run,change) :: journal (edit run change) rest

def decisionsOn (testId : String) (entries : List (RunDirectory × Edit)) : List Adjudication :=
  entries.filterMap fun entry => recorded entry.1 testId entry.2

def photosOn (testId : String) (entries : List (RunDirectory × Edit)) : List String :=
  entries.flatMap fun entry => photosFor testId entry.2

structure Trail (testId : String) (first : TestResult) (entries : List (RunDirectory × Edit)) (result : TestResult) : Prop where
  history : result.adjudicationHistory = first.adjudicationHistory ++ decisionsOn testId entries
  evidence : result.evidence = first.evidence ++ photosOn testId entries
  undecided : decisionsOn testId entries = [] →
    result.adjudication = first.adjudication ∧ result.originalOutcome = first.originalOutcome
  original : ∀ before entry after, entries = before ++ entry :: after → decisionsOn testId before = [] →
    (recorded entry.1 testId entry.2).isSome → ∃ found, firstResult entry.1 testId = some found ∧
      result.originalOutcome = some (first.originalOutcome.getD found.outcome)
  standing : ∀ decision, (decisionsOn testId entries).getLast? = some decision →
    result.adjudication = some decision ∧ (decision.outcome ≠ .blocked → result.outcome = decision.outcome ∧
      result.failureReason = if decision.outcome.passing then none else some decision.reason)

def changeBy (catalogue : Catalogue) : Edit → TestResult → TestResult
  | .adjudicate testId outcome reason operator recordedAtUtc _ =>
    match normalizeOutcome outcome with
    | none => id
    | some outcome =>
      if (strip reason = "" ∨ strip operator = "") ∨ catalogue.tests.all (·.id ≠ testId) then id
      else adjudicated outcome reason operator recordedAtUtc
  | .addEvidence _ copied complete _ => photographed copied complete

theorem updateFirst_id (testId : String) (results : List TestResult) : updateFirst testId id results = results := by
  induction results with
  | nil => rfl
  | cons result rest ih =>
    unfold updateFirst
    split
    · rfl
    · exact congrArg _ ih

theorem updateFirst_absent {change : TestResult → TestResult} (absent : results.all (·.testId ≠ testId) = true) :
    updateFirst testId change results = results := by
  induction results with
  | nil => rfl
  | cons result rest ih =>
    rw [List.all_cons,Bool.and_eq_true] at absent
    unfold updateFirst
    rw [if_neg (of_decide_eq_true absent.1),ih absent.2]

section Adjudicate

variable (run : RunDirectory) (outcome reason operator recordedAtUtc : String) (decisions : List Decision)

theorem adjudicate_cases (testId : String) :
    let change := Edit.adjudicate testId outcome reason operator recordedAtUtc decisions
    let answer := adjudicate run testId outcome reason operator recordedAtUtc decisions
    (answer.1 = run ∧ answer.2.1 = false ∧
      (changeBy run.catalogue change = id ∨ run.results.all (·.testId ≠ testId) = true)) ∨
    ∃ accepted, normalizeOutcome outcome = some accepted ∧ answer.2.1 = true ∧
      changeBy run.catalogue change = adjudicated accepted reason operator recordedAtUtc ∧
      answer.1 = rebuildRunOutputs run (updateFirst testId (adjudicated accepted reason operator recordedAtUtc) run.results)
        decisions := by
  simp only [changeBy,adjudicate]
  cases normalizeOutcome outcome with
  | none =>
    dsimp only
    exact .inl ⟨rfl,rfl,.inl rfl⟩
  | some accepted =>
    dsimp only
    by_cases unsigned : strip reason = "" ∨ strip operator = ""
    · rw [if_pos unsigned,if_pos (.inl unsigned)]
      exact .inl ⟨rfl,rfl,.inl rfl⟩
    · by_cases unknown : run.catalogue.tests.all (·.id ≠ testId) = true
      · rw [if_neg unsigned,if_pos unknown,if_pos (.inr unknown)]
        exact .inl ⟨rfl,rfl,.inl rfl⟩
      · have accepts := not_or.mpr ⟨unsigned,unknown⟩
        rw [if_neg unsigned,if_neg unknown,if_neg accepts]
        by_cases absent : run.results.all (·.testId ≠ testId) = true
        · rw [if_pos absent]
          exact .inl ⟨rfl,rfl,.inr absent⟩
        · rw [if_neg absent]
          exact .inr ⟨accepted,rfl,rfl,rfl,rfl⟩

end Adjudicate

theorem changeBy_testId (change : Edit) (result : TestResult) : (changeBy catalogue change result).testId = result.testId := by
  cases change with
  | adjudicate testId outcome reason operator recordedAtUtc decisions =>
    simp only [changeBy]
    cases normalizeOutcome outcome with
    | none => rfl
    | some accepted =>
      dsimp only
      split <;> rfl
  | addEvidence testId copied complete decisions => rfl

theorem edit_results (run : RunDirectory) (change : Edit) :
    (edit run change).results = updateFirst (testOf change) (changeBy run.catalogue change) run.results := by
  cases change with
  | adjudicate testId outcome reason operator recordedAtUtc decisions =>
    simp only [edit,testOf]
    rcases adjudicate_cases run outcome reason operator recordedAtUtc decisions testId with
      ⟨refused,-,same | absent⟩ | ⟨accepted,-,-,changed,rebuilt⟩
    · rw [refused,same,updateFirst_id]
    · rw [refused,updateFirst_absent absent]
    · rw [rebuilt,changed]
      rfl
  | addEvidence testId copied complete decisions =>
    simp only [edit,addEvidence,changeBy,testOf]
    split
    · rename_i absent
      exact (updateFirst_absent absent).symm
    · rfl

theorem edit_catalogue (run : RunDirectory) (change : Edit) :
    (edit run change).catalogue = run.catalogue ∧ (edit run change).name = run.name := by
  cases change with
  | adjudicate testId outcome reason operator recordedAtUtc decisions =>
    simp only [edit]
    rcases adjudicate_cases run outcome reason operator recordedAtUtc decisions testId with
      ⟨refused,-,-⟩ | ⟨accepted,-,-,-,rebuilt⟩
    · rw [refused]
      exact ⟨rfl,rfl⟩
    · rw [rebuilt]
      exact ⟨rfl,rfl⟩
  | addEvidence testId copied complete decisions =>
    simp only [edit,addEvidence]
    split
    · exact ⟨rfl,rfl⟩
    · exact ⟨rfl,rfl⟩

inductive Effect (run : RunDirectory) (testId : String) (change : Edit) (found : TestResult) : TestResult → Prop where
  | none : recorded run testId change = none → photosFor testId change = [] → Effect run testId change found found
  | decision (outcome : Outcome) (reason operator recordedAtUtc : String) :
    recorded run testId change = some ⟨strip operator,strip reason,outcome,outcome = .passOverride,recordedAtUtc⟩ →
    photosFor testId change = [] → Effect run testId change found (adjudicated outcome reason operator recordedAtUtc found)
  | photos (copied : List String) (complete : Bool) : recorded run testId change = .none → photosFor testId change = copied →
    Effect run testId change found (photographed copied complete found)

theorem present_some (present : firstResult run testId = some found) : ¬ run.results.all (·.testId ≠ testId) = true := by
  intro absent
  rw [firstResult,List.find?_eq_none.mpr] at present
  · cases present
  · simpa using absent

theorem edit_effect (present : firstResult run testId = some found) (change : Edit) :
    ∃ result, firstResult (edit run change) testId = some result ∧ Effect run testId change found result := by
  by_cases own : testOf change = testId
  · refine ⟨changeBy run.catalogue change found,?_,?_⟩
    · unfold firstResult at present ⊢
      rw [edit_results,own,find_updateFirst (changeBy_testId change),present,Option.map_some]
    · cases change with
      | adjudicate named outcome reason operator recordedAtUtc decisions =>
        cases own
        rcases adjudicate_cases run outcome reason operator recordedAtUtc decisions named with
          ⟨-,refused,same | absent⟩ | ⟨accepted,known,answered,changed,-⟩
        · rw [same]
          apply Effect.none _ rfl
          exact if_neg fun both => Bool.false_ne_true (refused.symm.trans both.2)
        · exact absurd absent (present_some present)
        · rw [changed]
          apply Effect.decision _ _ _ _ _ rfl
          simp only [recorded,testOf]
          rw [if_pos ⟨trivial,answered⟩,known,Option.map_some]
      | addEvidence named copied complete decisions =>
        cases own
        exact .photos copied complete rfl (if_pos rfl)
  · refine ⟨found,?_,?_⟩
    · unfold firstResult at present ⊢
      rw [edit_results,find_updateFirst_other (changeBy_testId change) own,present]
    · cases change with
      | adjudicate named outcome reason operator recordedAtUtc decisions =>
        apply Effect.none _ rfl
        exact if_neg fun both => own both.1
      | addEvidence named copied complete decisions => exact .none rfl (if_neg own)

theorem journal_snoc (run : RunDirectory) (edits : List Edit) (change : Edit) :
    journal run (edits ++ [change]) = journal run edits ++ [(edits.foldl edit run,change)] := by
  induction edits generalizing run with
  | nil => rfl
  | cons earlier rest ih => exact congrArg _ (ih (edit run earlier))

theorem decisionsOn_snoc (entry : RunDirectory × Edit) :
    decisionsOn testId (entries ++ [entry]) = decisionsOn testId entries ++ (recorded entry.1 testId entry.2).toList := by
  unfold decisionsOn
  rw [List.filterMap_append]
  cases known : recorded entry.1 testId entry.2 <;> simp [known]

theorem photosOn_snoc (entry : RunDirectory × Edit) :
    photosOn testId (entries ++ [entry]) = photosOn testId entries ++ photosFor testId entry.2 := by
  unfold photosOn
  rw [List.flatMap_append,List.flatMap_singleton]

theorem first_decision {entry deciding : RunDirectory × Edit} {before after : List (RunDirectory × Edit)}
    (recordedBy : entries ++ [entry] = before ++ deciding :: after) :
    (∃ rest, entries = before ++ deciding :: rest) ∨ entries = before ∧ entry = deciding := by
  cases after using List.reverseRecOn with
  | nil =>
    obtain ⟨same,last⟩ := List.append_inj' recordedBy rfl
    exact .inr ⟨same,List.singleton_inj.mp last⟩
  | append_singleton rest last =>
    rw [← List.cons_append,← List.append_assoc] at recordedBy
    exact .inl ⟨rest,(List.append_inj' recordedBy rfl).1⟩

theorem Trail.start (testId : String) (first : TestResult) : Trail testId first [] first where
  history := (List.append_nil _).symm
  evidence := (List.append_nil _).symm
  undecided := fun _ => ⟨rfl,rfl⟩
  original := by simp
  standing := by simp [decisionsOn]

theorem Trail.undecided_step {entry : RunDirectory × Edit} (trail : Trail testId first entries found)
    (silent : recorded entry.1 testId entry.2 = none)
    (history : result.adjudicationHistory = found.adjudicationHistory)
    (evidence : result.evidence = found.evidence ++ photosFor testId entry.2)
    (adjudication : result.adjudication = found.adjudication) (original : result.originalOutcome = found.originalOutcome)
    (settled : found.outcome ≠ .blocked → result.outcome = found.outcome ∧ result.failureReason = found.failureReason) :
    Trail testId first (entries ++ [entry]) result := by
  have same : decisionsOn testId (entries ++ [entry]) = decisionsOn testId entries := by
    rw [decisionsOn_snoc,silent]
    exact List.append_nil _
  constructor
  · rw [history,same,trail.history]
  · rw [evidence,photosOn_snoc,trail.evidence,List.append_assoc]
  · intro none
    rw [adjudication,original]
    exact trail.undecided (same ▸ none)
  · intro before deciding after split none decided
    rcases first_decision split with ⟨rest,earlier⟩ | ⟨-,rfl⟩
    · rw [original]
      exact trail.original before deciding rest earlier none decided
    · rw [silent] at decided
      cases decided
  · intro decision last
    obtain ⟨stands,outcome⟩ := trail.standing decision (same ▸ last)
    refine ⟨adjudication.trans stands,?_⟩
    intro final
    obtain ⟨decided,reason⟩ := outcome final
    obtain ⟨kept,text⟩ := settled (decided ▸ final)
    exact ⟨kept.trans decided,text.trans reason⟩

theorem Trail.decision_step {entry : RunDirectory × Edit} (trail : Trail testId first entries found)
    (present : firstResult entry.1 testId = some found) (outcome : Outcome) (reason operator recordedAtUtc : String)
    (decided : recorded entry.1 testId entry.2 =
      some ⟨strip operator,strip reason,outcome,outcome = .passOverride,recordedAtUtc⟩)
    (bare : photosFor testId entry.2 = []) :
    Trail testId first (entries ++ [entry]) (adjudicated outcome reason operator recordedAtUtc found) := by
  have longer : decisionsOn testId (entries ++ [entry]) = decisionsOn testId entries ++
      [⟨strip operator,strip reason,outcome,outcome = .passOverride,recordedAtUtc⟩] := by
    rw [decisionsOn_snoc,decided]
    rfl
  constructor
  · rw [longer,← List.append_assoc,← trail.history]
    rfl
  · rw [photosOn_snoc,bare,List.append_nil,← trail.evidence]
    rfl
  · intro none
    rw [longer] at none
    simp at none
  · intro before deciding after split none accepted
    rcases first_decision split with ⟨rest,earlier⟩ | ⟨rfl,rfl⟩
    · obtain ⟨original,found_then,kept⟩ := trail.original before deciding rest earlier none accepted
      refine ⟨original,found_then,?_⟩
      change some (found.originalOutcome.getD found.outcome) = _
      rw [kept]
      rfl
    · refine ⟨found,present,?_⟩
      rw [← (trail.undecided none).2]
      rfl
  · intro decision last
    rw [longer,List.getLast?_concat] at last
    cases last
    exact ⟨rfl,fun _ => ⟨rfl,rfl⟩⟩

theorem Trail.step {entry : RunDirectory × Edit} (trail : Trail testId first entries found)
    (present : firstResult entry.1 testId = some found) (effect : Effect entry.1 testId entry.2 found result) :
    Trail testId first (entries ++ [entry]) result := by
  cases effect with
  | none silent bare =>
    apply trail.undecided_step silent rfl _ rfl rfl fun _ => ⟨rfl,rfl⟩
    rw [bare,List.append_nil]
  | decision outcome reason operator recordedAtUtc decided bare =>
    exact trail.decision_step present outcome reason operator recordedAtUtc decided bare
  | photos copied complete silent added =>
    apply trail.undecided_step silent
    · rfl
    · rw [added]
      rfl
    · rfl
    · rfl
    · intro settled
      apply photographed_keeps
      intro _ pending
      exact settled pending.1

theorem recorded_signed {change : Edit} {decision : Adjudication} (decided : recorded run testId change = some decision) :
    decision.operator ≠ "" ∧ decision.reason ≠ "" ∧ (decision.override = true ↔ decision.outcome = .passOverride) := by
  cases change with
  | adjudicate named outcome reason operator recordedAtUtc decisions =>
    simp only [recorded] at decided
    split at decided
    · rename_i accepted
      obtain ⟨outcome,known,rfl⟩ := Option.map_eq_some_iff.mp decided
      have signed : ¬ (strip reason = "" ∨ strip operator = "") := by
        intro unsigned
        have answered := accepted.2
        simp only [adjudicate,known] at answered
        rw [if_pos unsigned] at answered
        cases answered
      rw [not_or] at signed
      exact ⟨signed.2,signed.1,decide_eq_true_iff⟩
    · cases decided
  | addEvidence named copied complete decisions => cases decided

-- Whatever edits a run has seen: every test still has its result, its history is what it was with the reported
-- decisions in their order, each signed and with a rationale, and nothing of its evidence is gone. The original
-- outcome is the one that the first decision found, and the last decision stands: nothing but another decision
-- ends it, unless it was BLOCKED.
theorem edits_recorded (run : RunDirectory) (edits : List Edit) (testId : String) (first : TestResult)
    (present : firstResult run testId = some first) :
    ((edits.foldl edit run).results.map (·.testId) = run.results.map (·.testId)) ∧
    (∃ result, firstResult (edits.foldl edit run) testId = some result ∧ Trail testId first (journal run edits) result) ∧
    ∀ decision ∈ decisionsOn testId (journal run edits), decision.operator ≠ "" ∧ decision.reason ≠ "" ∧
      (decision.override = true ↔ decision.outcome = .passOverride) := by
  refine ⟨?_,?_,?_⟩
  · induction edits using List.reverseRecOn with
    | nil => rfl
    | append_singleton edits change ih =>
      rw [List.foldl_append,List.foldl_cons,List.foldl_nil,edit_results,updateFirst_ids _ _ (changeBy_testId change),ih]
  · induction edits using List.reverseRecOn with
    | nil => exact ⟨first,present,.start testId first⟩
    | append_singleton edits change ih =>
      obtain ⟨found,now,trail⟩ := ih
      obtain ⟨result,next,effect⟩ := edit_effect now change
      rw [journal_snoc,List.foldl_append]
      exact ⟨result,next,trail.step now effect⟩
  · intro decision member
    obtain ⟨entry,-,decided⟩ := List.mem_filterMap.mp member
    exact recorded_signed decided

def revisedEdits : List Edit :=
  [.adjudicate "SYS-01" "fail" " probe was loose " "first" "09:00" [],.addEvidence "SYS-01" ["photos/probe.jpg"] true [],
    .adjudicate "SYS-01" "pass override" "" "first" "09:10" [],
    .adjudicate "SYS-01" "pass override" "probe reseated" "second" "09:20" []]

theorem edits_recorded_revised : ∃ result, firstResult (revisedEdits.foldl edit (finishRun "R" pendingCatalogue passedResults))
      "SYS-01" = some result ∧
    decisionsOn "SYS-01" (journal (finishRun "R" pendingCatalogue passedResults) revisedEdits) =
      [⟨"first","probe was loose",.fail,false,"09:00"⟩,⟨"second","probe reseated",.passOverride,true,"09:20"⟩] ∧
    result.originalOutcome = some .pass ∧ result.outcome = .passOverride := by
  have known : decisionsOn "SYS-01" (journal (finishRun "R" pendingCatalogue passedResults) revisedEdits) =
      [⟨"first","probe was loose",.fail,false,"09:00"⟩,⟨"second","probe reseated",.passOverride,true,"09:20"⟩] := by decide
  obtain ⟨-,⟨result,now,trail⟩,-⟩ :=
    edits_recorded (finishRun "R" pendingCatalogue passedResults) revisedEdits "SYS-01" ⟨"SYS-01",.pass,none,none,none,none,[],[],[]⟩ rfl
  refine ⟨result,now,known,?_,?_⟩
  · obtain ⟨found,there,original⟩ := trail.original [] _ _ rfl rfl rfl
    cases there
    exact original
  · have stands := trail.standing ⟨"second","probe reseated",.passOverride,true,"09:20"⟩ (known ▸ rfl)
    exact (stands.2 (by decide)).1

def applyEdits (catalogue : Catalogue) (edits : List Edit) (results : List TestResult) : List TestResult :=
  edits.foldl (fun results change => updateFirst (testOf change) (changeBy catalogue change) results) results

theorem edits_results (run : RunDirectory) (edits : List Edit) :
    (edits.foldl edit run).results = applyEdits run.catalogue edits run.results := by
  induction edits generalizing run with
  | nil => rfl
  | cons change rest ih =>
    have step := ih (edit run change)
    rw [(edit_catalogue run change).1,edit_results] at step
    exact step

theorem edits_catalogue (run : RunDirectory) (edits : List Edit) :
    (edits.foldl edit run).catalogue = run.catalogue ∧ (edits.foldl edit run).name = run.name := by
  induction edits generalizing run with
  | nil => exact ⟨rfl,rfl⟩
  | cons change rest ih =>
    obtain ⟨catalogue,name⟩ := ih (edit run change)
    exact ⟨catalogue.trans (edit_catalogue run change).1,name.trans (edit_catalogue run change).2⟩

theorem applyEdits_cons (edits : List Edit) (result : TestResult) (rest : List TestResult) :
    applyEdits catalogue edits (result :: rest) =
      (edits.filter fun change => testOf change = result.testId).foldl (fun result change => changeBy catalogue change result) result ::
        applyEdits catalogue (edits.filter fun change => ¬ testOf change = result.testId) rest := by
  induction edits generalizing result rest with
  | nil => rfl
  | cons change later ih =>
    by_cases own : testOf change = result.testId
    · have first : applyEdits catalogue (change :: later) (result :: rest) =
          applyEdits catalogue later (changeBy catalogue change result :: rest) := by
        unfold applyEdits
        rw [List.foldl_cons,updateFirst,if_pos own.symm]
      rw [first,ih,changeBy_testId]
      simp [own]
    · have past : applyEdits catalogue (change :: later) (result :: rest) =
          applyEdits catalogue later (result :: updateFirst (testOf change) (changeBy catalogue change) rest) := by
        unfold applyEdits
        rw [List.foldl_cons,updateFirst,if_neg (Ne.symm own)]
      rw [past,ih]
      simp [own,applyEdits]

theorem applyEdits_orders (results : List TestResult) {edits other : List Edit}
    (same : ∀ testId, (other.filter fun change => testOf change = testId) = edits.filter fun change => testOf change = testId) :
    applyEdits catalogue other results = applyEdits catalogue edits results := by
  induction results generalizing edits other with
  | nil =>
    have empty (edits : List Edit) : applyEdits catalogue edits [] = [] := by
      induction edits with
      | nil => rfl
      | cons change rest ih => exact ih
    rw [empty,empty]
  | cons result rest ih =>
    rw [applyEdits_cons,applyEdits_cons,same]
    congr 1
    apply ih
    intro testId
    rw [List.filter_comm,same,List.filter_comm]

structure Derived (run : RunDirectory) : Prop where
  coverage : run.coverage = rebuiltCoverage run.catalogue run.results run.decisions
  outcome : run.outcome = qualificationOutcome run.results run.coverage

theorem edit_derived (derived : Derived run) (change : Edit) : Derived (edit run change) := by
  cases change with
  | adjudicate testId outcome reason operator recordedAtUtc decisions =>
    simp only [edit]
    rcases adjudicate_cases run outcome reason operator recordedAtUtc decisions testId with
      ⟨refused,-,-⟩ | ⟨accepted,-,-,-,rebuilt⟩
    · rw [refused]
      exact derived
    · rw [rebuilt]
      exact ⟨rfl,rfl⟩
  | addEvidence testId copied complete decisions =>
    simp only [edit,addEvidence]
    split
    · exact derived
    · exact ⟨rfl,rfl⟩

theorem edits_derived (derived : Derived run) (edits : List Edit) : Derived (edits.foldl edit run) := by
  induction edits generalizing run with
  | nil => exact derived
  | cons change rest ih => exact ih (edit_derived derived change)

theorem derived_eq {one two : RunDirectory} (derived_one : Derived one) (derived_two : Derived two) (name : one.name = two.name)
    (catalogue : one.catalogue = two.catalogue) (results : one.results = two.results) (decisions : one.decisions = two.decisions) :
    one = two := by
  have coverage : one.coverage = two.coverage := by
    rw [derived_one.coverage,derived_two.coverage,catalogue,results,decisions]
  have outcome : one.outcome = two.outcome := by rw [derived_one.outcome,derived_two.outcome,results,coverage]
  cases one
  cases two
  cases name
  cases catalogue
  cases results
  cases decisions
  cases coverage
  cases outcome
  rfl

-- Only the order of the edits of one test counts: two sequences that agree in it for every test end with the same
-- results, and, made with the same dispositions of requirements, with the same files.
theorem edit_orders_agree (name : String) (catalogue : Catalogue) (results : List TestResult) (edits other : List Edit)
    (same : ∀ testId, (other.filter fun change => testOf change = testId) = edits.filter fun change => testOf change = testId) :
    let last := edits.foldl edit (finishRun name catalogue results)
    let alternative := other.foldl edit (finishRun name catalogue results)
    alternative.results = last.results ∧ (alternative.decisions = last.decisions → alternative = last) := by
  intro last alternative
  have equal : alternative.results = last.results := by
    rw [edits_results,edits_results]
    exact applyEdits_orders results same
  refine ⟨equal,?_⟩
  intro decisions
  have first : Derived (finishRun name catalogue results) := ⟨rfl,rfl⟩
  have one := edits_derived first edits
  have two := edits_derived first other
  obtain ⟨catalogue_one,name_one⟩ := edits_catalogue (finishRun name catalogue results) edits
  obtain ⟨catalogue_two,name_two⟩ := edits_catalogue (finishRun name catalogue results) other
  apply derived_eq two one (name_two.trans name_one.symm) (catalogue_two.trans catalogue_one.symm) equal decisions

-- Whether SYS-01 is decided before SYS-02 gets its photo or after it.
theorem edit_orders_agree_two :
    let results := passedResults ++ [⟨"SYS-02",.blocked,some "photo evidence deferred",none,none,none,[],[],["cable"]⟩]
    let first := Edit.adjudicate "SYS-01" "fail" "probe was loose" "first" "09:00" []
    let second := Edit.addEvidence "SYS-02" ["photos/cable.jpg"] true []
    [second,first].foldl edit (finishRun "R" pendingCatalogue results) =
      [first,second].foldl edit (finishRun "R" pendingCatalogue results) := by
  intro results first second
  apply (edit_orders_agree "R" pendingCatalogue results [first,second] [second,first] _).2
  · decide
  · intro testId
    by_cases one : "SYS-01" = testId
    · cases one
      rfl
    · by_cases two : "SYS-02" = testId
      · cases two
        rfl
      · simp [first,second,testOf,one,two]

end Thermometer.Verification.EditHistory
