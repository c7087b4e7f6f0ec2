import Thermometer.Lib.Texts
import Thermometer.Verification.ManualLimits
import Thermometer.Verification.RunOutputs

-- runner.py: `evidence add`, which ends what a guided run with deferred photos has left open.
namespace Thermometer.Verification
open Manual (GuidedTest ManualResult ManualRecord Interpreter FieldCatalogue runManual manualResult functionalOutcome failuresOf denied)

-- `[A-Z][A-Z0-9-]{1,31}`.
def safeTestId (value : String) : Option String :=
  match value.toList with
  | [] => none
  | first :: rest =>
    if first.isUpper && 1 ≤ rest.length && rest.length ≤ 31 &&
        rest.all fun c => c.isUpper || c.isDigit || c = '-' then some value
    else none

-- `stem` and `suffix`: a dot at either end of a name begins no suffix.
def stemAndSuffix (name : String) : String × String :=
  let ending := (name.toList.reverse.takeWhile (· ≠ '.')).reverse
  let stem := name.toList.take (name.toList.length - ending.length - 1)
  if ending = [] ∨ stem = [] then (name,"") else (String.ofList stem,String.ofList ('.' :: ending))

def numberedName (name : String) (counter : Nat) : String :=
  (stemAndSuffix name).1 ++ "-" ++ toString counter ++ (stemAndSuffix name).2

def nextFree (folder : List String) (name : String) : Nat → Nat → String
  | 0,counter => numberedName name counter
  | more + 1,counter =>
    if numberedName name counter ∈ folder then nextFree folder name more (counter + 1) else numberedName name counter

def freeName (folder : List String) (name : String) : String :=
  if name ∈ folder then nextFree folder name folder.length 2 else name

theorem numberedName_inj {name : String} {a b : Nat} (same : numberedName name a = numberedName name b) : a = b := by
  unfold numberedName at same
  rw [String.append_left_inj,String.append_right_inj] at same
  exact Texts.repr_inj same

theorem nextFree_taken {folder : List String} {name : String} {more counter : Nat}
    (taken : nextFree folder name more counter ∈ folder) : ∀ k ≤ more, numberedName name (counter + k) ∈ folder := by
  induction more generalizing counter with
  | zero =>
    intro k small
    cases Nat.le_zero.mp small
    exact taken
  | succ more ih =>
    unfold nextFree at taken
    split at taken
    · rename_i first
      intro k small
      cases k with
      | zero => exact first
      | succ k =>
        have later := ih taken k (by omega)
        rwa [Nat.add_right_comm] at later
    · rename_i first
      exact absurd taken first

theorem freeName_fresh (folder : List String) (name : String) : freeName folder name ∉ folder := by
  unfold freeName
  split
  · intro taken
    have all := nextFree_taken taken
    have distinct : ((List.range (folder.length + 1)).map fun k => numberedName name (2 + k)).Nodup := by
      apply List.Nodup.map _ List.nodup_range
      intro a b same
      have := numberedName_inj same
      omega
    have within : ((List.range (folder.length + 1)).map fun k => numberedName name (2 + k)) ⊆ folder := by
      intro other member
      obtain ⟨k,small,rfl⟩ := List.mem_map.mp member
      exact all k (by have := List.mem_range.mp small; omega)
    have few := (List.subperm_of_subset distinct within).length_le
    rw [List.length_map,List.length_range] at few
    omega
  · rename_i free
    exact free

-- `locate` knows the names of the files that there are when the command runs.
structure Addition where
  testId : String
  photos : List String
  complete : Bool
  locate : String → Option String
  decisions : List Decision

structure EvidenceStore where
  run : RunDirectory
  photos : String → List String

-- The copies before a missing photo stay in the folder.
def copyPhotos (locate : String → Option String) (folder : List String) : List String → List String × Option (List String)
  | [] => (folder,some [])
  | raw :: rest =>
    match locate raw with
    | none => (folder,none)
    | some name =>
      let copied := copyPhotos locate (freeName folder name :: folder) rest
      (copied.1,copied.2.map (freeName folder name :: ·))

def evidenceAdd (store : EvidenceStore) (addition : Addition) : EvidenceStore × Nat :=
  if store.run.results.all (·.testId ≠ addition.testId) then (store,1)
  else
    match safeTestId addition.testId with
    | none => (store,1)
    | some testId =>
      let (names,copied) := copyPhotos addition.locate (store.photos testId) addition.photos
      let photos := fun other => if other = testId then names else store.photos other
      match copied with
      | none => ({ store with photos := photos },1)
      | some copied =>
        ({ run := addEvidence store.run addition.testId (copied.map fun name => s!"evidence/{testId}/photos/{name}")
              addition.complete addition.decisions
           photos := photos },0)

def evidenceAdds (store : EvidenceStore) (additions : List Addition) : EvidenceStore :=
  additions.foldl (fun store addition => (evidenceAdd store addition).1) store

def firstResult (run : RunDirectory) (testId : String) : Option TestResult := run.results.find? (·.testId = testId)

def recordedResult (test : GuidedTest) (manual : ManualResult) : TestResult where
  testId := test.id
  outcome := manual.outcome
  failureReason := manual.failureReason
  originalOutcome := none
  originalFailureReason := none
  adjudication := none
  adjudicationHistory := []
  evidence := manual.evidence
  pendingEvidence := manual.pendingEvidence.getD []

def Addition.attaches (testId : String) (addition : Addition) : Bool :=
  addition.testId = testId && (safeTestId testId).isSome && addition.photos.all fun raw => (addition.locate raw).isSome

def Addition.completes (testId : String) (addition : Addition) : Bool := addition.complete && addition.attaches testId

def attachedPhotos (testId : String) (additions : List Addition) : Nat :=
  ((additions.filter (Addition.attaches testId)).map (·.photos.length)).sum

def CompletesOnlyPassed (test : GuidedTest) (manual : ManualResult) (record : Option ManualRecord) (store : EvidenceStore)
    (additions : List Addition) : Prop :=
  ∀ earlier addition later, additions = earlier ++ addition :: later → ∀ before after,
    firstResult (evidenceAdds store earlier).run test.id = some before →
    firstResult (evidenceAdd (evidenceAdds store earlier) addition).1.run test.id = some after →
    before.outcome = .blocked → after.outcome ≠ .blocked →
      after.outcome = .pass ∧ addition.complete = true ∧ ∃ kept, record = some kept ∧ kept.functionalOutcome = .pass ∧
        manual.evidence.length + kept.deferredEvidence.length ≤ after.evidence.length

-- About the first addition that completes the test.
def EvidenceSuffices (test : GuidedTest) (record : Option ManualRecord) (additions : List Addition) : Prop :=
  ∀ kept, record = some kept → failuresOf kept.readings = [] → kept.deferredEvidence ≠ [] →
    ∀ earlier addition later, additions = earlier ++ addition :: later →
      (∀ other ∈ earlier, other.completes test.id = false) → addition.completes test.id = true →
        kept.functionalOutcome ≠ .blocked ∧
          (kept.functionalOutcome = .pass →
            kept.deferredEvidence.length ≤ attachedPhotos test.id (earlier ++ [addition]))

section Step

variable {store : EvidenceStore} {addition : Addition} {testId other : String} {locate : String → Option String}
  {folder photos : List String} {results : List TestResult} {change : TestResult → TestResult}

theorem copyPhotos_missing (missing : (photos.all fun raw => (locate raw).isSome) = false) :
    (copyPhotos locate folder photos).2 = none := by
  induction photos generalizing folder with
  | nil => cases missing
  | cons raw rest ih =>
    unfold copyPhotos
    cases known : locate raw with
    | none => rfl
    | some name =>
      rw [List.all_cons,known,Option.isSome_some,Bool.true_and] at missing
      dsimp only
      rw [ih missing,Option.map_none]

theorem copyPhotos_found (folder : List String) (found : (photos.all fun raw => (locate raw).isSome) = true) :
    ∃ copied, (copyPhotos locate folder photos).2 = some copied ∧ copied.length = photos.length := by
  induction photos generalizing folder with
  | nil => exact ⟨[],rfl,rfl⟩
  | cons raw rest ih =>
    rw [List.all_cons,Bool.and_eq_true] at found
    obtain ⟨name,known⟩ := Option.isSome_iff_exists.mp found.1
    obtain ⟨copied,later,same⟩ := ih (freeName folder name :: folder) found.2
    refine ⟨freeName folder name :: copied,?_,congrArg (· + 1) same⟩
    unfold copyPhotos
    rw [known]
    dsimp only
    rw [later,Option.map_some]

theorem find_updateFirst (same : ∀ result, (change result).testId = result.testId) :
    (updateFirst testId change results).find? (·.testId = testId) = (results.find? (·.testId = testId)).map change := by
  induction results with
  | nil => rfl
  | cons result rest ih =>
    unfold updateFirst
    by_cases own : result.testId = testId
    · simp [own,same]
    · simp [own,ih]

theorem find_updateFirst_other (same : ∀ result, (change result).testId = result.testId) (different : other ≠ testId) :
    (updateFirst other change results).find? (·.testId = testId) = results.find? (·.testId = testId) := by
  induction results with
  | nil => rfl
  | cons result rest ih =>
    unfold updateFirst
    by_cases own : result.testId = other
    · simp [own,same,different]
    · rw [if_neg own,List.find?_cons,List.find?_cons,ih]

theorem photographed_testId (copied : List String) (complete : Bool) (result : TestResult) :
    (photographed copied complete result).testId = result.testId := rfl

theorem firstResult_missing (missing : store.run.results.all (·.testId ≠ testId) = true) :
    firstResult store.run testId = none := by
  apply List.find?_eq_none.mpr
  simpa using missing

theorem firstResult_addEvidence (run : RunDirectory) (copied : List String) (complete : Bool) (decisions : List Decision)
    (present : ¬ run.results.all (·.testId ≠ other) = true) :
    firstResult (addEvidence run other copied complete decisions) testId =
      if other = testId then (firstResult run testId).map (photographed copied complete) else firstResult run testId := by
  unfold addEvidence
  rw [if_neg present]
  split
  · rename_i own
    subst own
    exact find_updateFirst (photographed_testId copied complete)
  · rename_i different
    exact find_updateFirst_other (photographed_testId copied complete) different

theorem evidenceAdd_attaches (store : EvidenceStore) (attaches : addition.attaches testId = true) :
    ∃ copied, copied.length = addition.photos.length ∧ firstResult (evidenceAdd store addition).1.run testId =
      (firstResult store.run testId).map (photographed copied addition.complete) := by
  simp only [Addition.attaches,Bool.and_eq_true,decide_eq_true_eq] at attaches
  obtain ⟨⟨rfl,safe⟩,found⟩ := attaches
  obtain ⟨name,safe⟩ := Option.isSome_iff_exists.mp safe
  obtain ⟨copied,copies,length⟩ := copyPhotos_found (store.photos name) found
  refine ⟨copied.map fun other => s!"evidence/{name}/photos/{other}",by rw [List.length_map,length],?_⟩
  unfold evidenceAdd
  by_cases missing : store.run.results.all (·.testId ≠ addition.testId) = true
  · rw [if_pos missing,firstResult_missing missing]
    rfl
  · rw [if_neg missing,safe]
    dsimp only
    rw [copies]
    dsimp only
    rw [firstResult_addEvidence _ _ _ _ missing,if_pos rfl]

theorem evidenceAdd_other (unattached : addition.attaches testId = false) :
    firstResult (evidenceAdd store addition).1.run testId = firstResult store.run testId := by
  unfold evidenceAdd
  by_cases missing : store.run.results.all (·.testId ≠ addition.testId) = true
  · rw [if_pos missing]
  · rw [if_neg missing]
    cases safe : safeTestId addition.testId with
    | none => rfl
    | some name =>
      dsimp only
      cases copies : (copyPhotos addition.locate (store.photos name) addition.photos).2 with
      | none => rfl
      | some copied =>
        dsimp only
        rw [firstResult_addEvidence _ _ _ _ missing,if_neg]
        intro own
        subst own
        have unlocated : (addition.photos.all fun raw => (addition.locate raw).isSome) = false := by
          simpa [Addition.attaches,safe] using unattached
        rw [copyPhotos_missing unlocated] at copies
        cases copies

end Step

section Runs

variable {store : EvidenceStore} {first result : TestResult} {testId : String} {additions : List Addition} {addition : Addition}

def Pending (result : TestResult) : Prop :=
  result.outcome = .blocked ∧ photoDeferred (result.failureReason.getD "") = true

structure Follows (testId : String) (first : TestResult) (additions : List Addition) (result : TestResult) : Prop where
  evidence : result.evidence.length = first.evidence.length + attachedPhotos testId additions
  kept : (Pending first → ∀ addition ∈ additions, addition.completes testId = false) →
    result.outcome = first.outcome ∧ result.failureReason = first.failureReason
  completed : Pending first → (∃ addition ∈ additions, addition.completes testId = true) → result.outcome = .pass

theorem attachedPhotos_snoc : attachedPhotos testId (additions ++ [addition]) =
    attachedPhotos testId additions + if addition.attaches testId then addition.photos.length else 0 := by
  unfold attachedPhotos
  rw [List.filter_append,List.map_append,List.sum_append]
  cases attaches : addition.attaches testId <;> simp [attaches]

theorem evidenceAdds_snoc : evidenceAdds store (additions ++ [addition]) = (evidenceAdd (evidenceAdds store additions) addition).1 :=
  List.foldl_append

theorem photographed_completes (copied : List String) (pending : Pending result) :
    (photographed copied true result).outcome = .pass := by
  unfold photographed
  dsimp only
  rw [if_pos ⟨rfl,pending⟩]

theorem photographed_keeps (copied : List String) {complete : Bool} (unfinished : complete = true → ¬ Pending result) :
    (photographed copied complete result).outcome = result.outcome ∧
      (photographed copied complete result).failureReason = result.failureReason := by
  have none : ¬ (complete = true ∧ result.outcome = .blocked ∧ photoDeferred (result.failureReason.getD "") = true) :=
    fun all => unfinished all.1 all.2
  unfold photographed
  dsimp only
  rw [if_neg none,if_neg none]
  exact ⟨rfl,rfl⟩

theorem Follows.unattached (follows : Follows testId first additions result) (other : addition.attaches testId = false) :
    Follows testId first (additions ++ [addition]) result := by
  have incomplete : addition.completes testId = false := by rw [Addition.completes,other,Bool.and_false]
  refine ⟨?_,?_,?_⟩
  · rw [attachedPhotos_snoc,other]
    exact follows.evidence
  · intro none
    exact follows.kept fun pending before member => none pending before (List.mem_append_left _ member)
  · intro pending ⟨found,member,completes⟩
    rcases List.mem_append.mp member with old | new
    · exact follows.completed pending ⟨found,old,completes⟩
    · cases List.mem_singleton.mp new
      exact absurd completes (by simp [incomplete])

theorem Follows.attached (follows : Follows testId first additions result) (attaches : addition.attaches testId = true)
    {copied : List String} (length : copied.length = addition.photos.length) :
    Follows testId first (additions ++ [addition]) (photographed copied addition.complete result) := by
  have completes : addition.completes testId = addition.complete := by rw [Addition.completes,attaches,Bool.and_true]
  refine ⟨?_,?_,?_⟩
  · rw [attachedPhotos_snoc,attaches,if_pos rfl,← length]
    change (result.evidence ++ copied).length = _
    rw [List.length_append,follows.evidence,Nat.add_assoc]
  · intro none
    obtain ⟨outcome,reason⟩ := follows.kept fun pending before member => none pending before (List.mem_append_left _ member)
    have unfinished : addition.complete = true → ¬ Pending result := by
      intro complete pending
      unfold Pending at pending
      rw [outcome,reason] at pending
      have incomplete := none pending addition (by simp)
      rw [completes,complete] at incomplete
      cases incomplete
    obtain ⟨sameOutcome,sameReason⟩ := photographed_keeps copied unfinished
    exact ⟨sameOutcome.trans outcome,sameReason.trans reason⟩
  · intro pending ⟨found,member,done⟩
    by_cases before : ∃ earlier ∈ additions, earlier.completes testId = true
    · have passed := follows.completed pending before
      have unfinished : addition.complete = true → ¬ Pending result := by
        intro _ again
        rw [again.1] at passed
        cases passed
      rw [(photographed_keeps copied unfinished).1]
      exact passed
    · have never : ∀ earlier ∈ additions, earlier.completes testId = false := by
        intro earlier old
        by_contra open'
        exact before ⟨earlier,old,Bool.not_eq_false _ ▸ open'⟩
      obtain ⟨outcome,reason⟩ := follows.kept fun _ => never
      have still : Pending result := by
        unfold Pending
        rw [outcome,reason]
        exact pending
      rcases List.mem_append.mp member with old | new
      · exact absurd ⟨found,old,done⟩ before
      · cases List.mem_singleton.mp new
        rw [← completes,done]
        exact photographed_completes copied still

theorem evidenceAdds_follows (start : firstResult store.run testId = some first) (additions : List Addition) :
    ∃ result, firstResult (evidenceAdds store additions).run testId = some result ∧ Follows testId first additions result := by
  induction additions using List.reverseRecOn with
  | nil => exact ⟨first,start,rfl,fun _ => ⟨rfl,rfl⟩,fun _ none => absurd none (by simp)⟩
  | append_singleton additions addition ih =>
    obtain ⟨result,found,follows⟩ := ih
    rw [evidenceAdds_snoc]
    cases attaches : addition.attaches testId with
    | false => exact ⟨result,(evidenceAdd_other attaches).trans found,follows.unattached attaches⟩
    | true =>
      obtain ⟨copied,length,after⟩ := evidenceAdd_attaches (evidenceAdds store additions) attaches
      rw [found] at after
      exact ⟨_,after,follows.attached attaches length⟩

theorem pending_completed (start : firstResult store.run testId = some first) (pending : Pending first)
    (completed : ∃ addition ∈ additions, addition.completes testId = true) :
    ∃ after, firstResult (evidenceAdds store additions).run testId = some after ∧ after.outcome = .pass := by
  obtain ⟨result,found,follows⟩ := evidenceAdds_follows start additions
  exact ⟨result,found,follows.completed pending completed⟩

end Runs

section Deferred

variable {t : Interpreter} {catalog : FieldCatalogue} {test : GuidedTest} {fixtures instrumentation : List (String × String)}
  {attended deferPhotos : Bool} {lines rest : List String} {manual : ManualResult} {record : Option ManualRecord}
  {store : EvidenceStore} {additions : List Addition}

theorem functionalOutcome_pass {answers : List (String × String)} {failures : List Manual.Failure} {chosen : Outcome} :
    functionalOutcome t answers failures chosen = .pass ↔ failures = [] ∧ denied t answers "setup" = false ∧
      denied t answers "procedure" = false ∧ denied t answers "evidence" = false ∧ chosen = .pass := by
  unfold functionalOutcome
  by_cases clear : failures = []
  · cases denied t answers "setup" <;> cases denied t answers "procedure" <;> cases denied t answers "evidence" <;>
      simp [clear]
  · simp [clear]

def Decides (t : Interpreter) (catalog : FieldCatalogue) (test : GuidedTest) (deferPhotos : Bool) (lines : List String)
    (kept : ManualRecord) (option : String) : Prop :=
  ∃ answered typed decided, Manual.perform t test.steps lines = .ok (kept.answers,answered) ∧
    Manual.manualMeasurements t catalog test.id deferPhotos answered = .ok (kept.readings,typed) ∧
    Manual.choice t ["PASS","FAIL","BLOCKED"] typed = .ok (option,decided)

theorem runManual_record
    (ran : runManual t catalog test fixtures instrumentation attended deferPhotos lines = .ok ((manual,record),rest)) :
    (record = none ∧ manual = Manual.unattended fixtures instrumentation) ∨ ∃ kept option, record = some kept ∧
      manual = manualResult t test fixtures instrumentation kept ∧ kept.functionalOutcome =
        functionalOutcome t kept.answers (failuresOf kept.readings) (Manual.chosenOutcome option) ∧
      Decides t catalog test deferPhotos lines kept option := by
  unfold runManual at ran
  cases attended with
  | false =>
    cases ran
    exact .inl ⟨rfl,rfl⟩
  | true =>
    simp only [Bool.not_true,Bool.false_eq_true,if_false] at ran
    obtain ⟨answers,_,performed,ran⟩ := Manual.Console.bind_ok ran
    obtain ⟨readings,_,read,ran⟩ := Manual.Console.bind_ok ran
    obtain ⟨chosen,_,decided,ran⟩ := Manual.Console.bind_ok ran
    obtain ⟨operator,_,_,ran⟩ := Manual.Console.bind_ok ran
    obtain ⟨comments,_,_,ran⟩ := Manual.Console.bind_ok ran
    cases ran
    exact .inr ⟨_,chosen,rfl,rfl,rfl,_,_,_,performed,read,decided⟩

-- A recorded PASS is the operator's: a line behind the measurements names it, nothing is
-- denied and nothing measured wrong.
theorem recorded_passed {kept : ManualRecord}
    (ran : runManual t catalog test fixtures instrumentation attended deferPhotos lines = .ok ((manual,some kept),rest))
    (passed : kept.functionalOutcome = .pass) : failuresOf kept.readings = [] ∧ denied t kept.answers "setup" = false ∧
      denied t kept.answers "procedure" = false ∧ denied t kept.answers "evidence" = false ∧
      ∃ answered refused line decided, Manual.perform t test.steps lines = .ok (kept.answers,answered) ∧
        Manual.manualMeasurements t catalog test.id deferPhotos answered = .ok (kept.readings,refused ++ line :: decided) ∧
        Manual.Names t ["PASS","FAIL","BLOCKED"] "PASS" line := by
  rcases runManual_record ran with ⟨known,_⟩ | ⟨same,option,known,_,functional,answered,typed,decided,performed,read,decides⟩
  · cases known
  · cases known
    obtain ⟨clear,setup,procedure,evidence,chosen⟩ := functionalOutcome_pass.mp (functional.symm.trans passed)
    cases Manual.chosenOutcome_pass.mp chosen
    obtain ⟨refused,line,rfl,names⟩ := Manual.choice_ok decides
    exact ⟨clear,setup,procedure,evidence,answered,refused,line,decided,performed,read,names⟩

theorem photoDeferred_texts :
    photoDeferred "required photo evidence deferred; attach it with the evidence add command" = true ∧
      photoDeferred "operator interaction required; rerun without --non-interactive in a terminal" = false ∧
      photoDeferred "" = false := by
  decide +kernel

theorem recorded_pending
    (ran : runManual t catalog test fixtures instrumentation attended deferPhotos lines = .ok ((manual,record),rest)) :
    Pending (recordedResult test manual) ↔ ∃ kept, record = some kept ∧ failuresOf kept.readings = [] ∧
      kept.deferredEvidence ≠ [] ∧ (kept.functionalOutcome = .pass ∨ kept.functionalOutcome = .blocked) := by
  obtain ⟨deferred,unattended,empty⟩ := photoDeferred_texts
  rcases runManual_record ran with ⟨rfl,rfl⟩ | ⟨kept,option,rfl,rfl,functional,_⟩
  · constructor
    · intro pending
      exact absurd pending.2 (by simpa [recordedResult,Manual.unattended] using unattended)
    · intro recorded
      obtain ⟨_,known,_⟩ := recorded
      cases known
  · have failed (wrong : failuresOf kept.readings ≠ []) : kept.functionalOutcome = .fail := by
      rw [functional,functionalOutcome,if_pos wrong]
    unfold Pending recordedResult manualResult
    dsimp only
    by_cases clear : failuresOf kept.readings = []
    · rw [if_neg (not_not.mpr clear)]
      by_cases none : kept.deferredEvidence = []
      · rw [if_neg (not_not.mpr none)]
        constructor
        · intro pending
          exact absurd pending.2 (by simpa using empty)
        · intro recorded
          obtain ⟨_,known,_,deferring,_⟩ := recorded
          cases known
          exact absurd none deferring
      · rw [if_pos none]
        constructor
        · intro pending
          obtain ⟨blocked,_⟩ := pending
          refine ⟨kept,rfl,clear,none,?_⟩
          split at blocked
          · rename_i passed
            exact .inl passed.2
          · exact .inr blocked
        · intro recorded
          obtain ⟨_,known,_,_,functional⟩ := recorded
          cases known
          refine ⟨?_,deferred⟩
          rcases functional with passed | blocked
          · rw [if_pos ⟨none,passed⟩]
          · rw [if_neg (by simp [blocked]),blocked]
    · constructor
      · intro pending
        obtain ⟨blocked,_⟩ := pending
        rw [failed clear,if_neg (by simp)] at blocked
        cases blocked
      · intro recorded
        obtain ⟨_,known,clear',_⟩ := recorded
        cases known
        exact absurd clear' clear

theorem finishRun_first (name : String) (catalogue : Catalogue) {before after : List TestResult}
    (alone : ∀ result ∈ before, result.testId ≠ test.id) :
    firstResult (finishRun name catalogue (before ++ recordedResult test manual :: after)) test.id =
      some (recordedResult test manual) := by
  have unfound : before.find? (·.testId = test.id) = none := by
    apply List.find?_eq_none.mpr
    simpa using alone
  change (before ++ recordedResult test manual :: after).find? _ = _
  rw [List.find?_append,unfound,Option.none_or,List.find?_cons_of_pos]
  exact decide_eq_true rfl

theorem suffices_of_completes
    (ran : runManual t catalog test fixtures instrumentation attended deferPhotos lines = .ok ((manual,record),rest))
    (start : firstResult store.run test.id = some (recordedResult test manual))
    (lawful : CompletesOnlyPassed test manual record store additions) : EvidenceSuffices test record additions := by
  intro kept known clear deferred earlier addition later split never completes
  by_cases open' : kept.functionalOutcome = .pass ∨ kept.functionalOutcome = .blocked
  · have pending := (recorded_pending ran).mpr ⟨kept,known,clear,deferred,open'⟩
    obtain ⟨before,found,follows⟩ := evidenceAdds_follows start earlier
    obtain ⟨after,foundAfter,followsAfter⟩ := evidenceAdds_follows start (earlier ++ [addition])
    have passed := followsAfter.completed pending ⟨addition,by simp,completes⟩
    have blocked := (follows.kept fun _ => never).1.trans pending.1
    obtain ⟨_,_,same,recorded,functional,photos⟩ := lawful earlier addition later split before after found
      (evidenceAdds_snoc ▸ foundAfter) blocked (by simp [passed])
    cases Option.some.inj (known.symm.trans recorded)
    rw [followsAfter.evidence] at photos
    change _ ≤ manual.evidence.length + _ at photos
    exact ⟨by simp [functional],fun _ => by omega⟩
  · obtain ⟨failed,unblocked⟩ := not_or.mp open'
    exact ⟨unblocked,fun passed => absurd passed failed⟩

theorem completes_of_suffices
    (ran : runManual t catalog test fixtures instrumentation attended deferPhotos lines = .ok ((manual,record),rest))
    (start : firstResult store.run test.id = some (recordedResult test manual))
    (enough : EvidenceSuffices test record additions) : CompletesOnlyPassed test manual record store additions := by
  intro earlier addition later split before after found foundAfter blocked ended
  obtain ⟨result,same,follows⟩ := evidenceAdds_follows start earlier
  cases Option.some.inj (found.symm.trans same)
  obtain ⟨resultAfter,sameAfter,followsAfter⟩ := evidenceAdds_follows start (earlier ++ [addition])
  rw [evidenceAdds_snoc] at sameAfter
  cases Option.some.inj (foundAfter.symm.trans sameAfter)
  have never (pending : Pending (recordedResult test manual)) : ∀ other ∈ earlier, other.completes test.id = false := by
    intro other member
    by_contra completes
    have passed := follows.completed pending ⟨other,member,Bool.not_eq_false _ ▸ completes⟩
    rw [blocked] at passed
    cases passed
  by_cases done : Pending (recordedResult test manual) ∧ addition.completes test.id = true
  · obtain ⟨pending,completes⟩ := done
    obtain ⟨kept,known,clear,deferred,functional⟩ := (recorded_pending ran).mp pending
    obtain ⟨unblocked,photos⟩ := enough kept known clear deferred earlier addition later split (never pending) completes
    have passed := functional.resolve_right unblocked
    refine ⟨followsAfter.completed pending ⟨addition,by simp,completes⟩,?_,kept,known,passed,?_⟩
    · exact (Bool.and_eq_true_iff.mp completes).1
    · rw [followsAfter.evidence]
      exact Nat.add_le_add_left (photos passed) _
  · -- Nothing has completed the result, which is as the run has recorded it.
    have kept := followsAfter.kept fun pending other member => by
      rcases List.mem_append.mp member with old | new
      · exact never pending other old
      · cases List.mem_singleton.mp new
        exact Bool.eq_false_iff.mpr fun completes => done ⟨pending,completes⟩
    rw [kept.1,← (follows.kept never).1] at ended
    exact absurd blocked ended

-- A guided run and any additions after it: a completing addition ends a BLOCKED result rightly
-- exactly when the first of them finds a run that passed, and photos enough.
theorem deferred_evidence_iff
    (ran : runManual t catalog test fixtures instrumentation attended deferPhotos lines = .ok ((manual,record),rest))
    (start : firstResult store.run test.id = some (recordedResult test manual)) :
    CompletesOnlyPassed test manual record store additions ↔ EvidenceSuffices test record additions :=
  ⟨suffices_of_completes ran start,completes_of_suffices ran start⟩

end Deferred

def photoField (id : String) : Manual.ManualField := ⟨id,.photo,none,none,none,none,none⟩

def housing : GuidedTest := ⟨"HW-01",[⟨"setup","Open the housing"⟩]⟩

def photographHousing (lines : List String) : Except Manual.RunError ((ManualResult × Option ManualRecord) × List String) :=
  runManual Manual.asciiInterpreter [("HW-01",[photoField "front",photoField "back"])] housing [] [] true true lines

def deferredWith (functional : Outcome) : Except Manual.RunError ((ManualResult × Option ManualRecord) × List String) → Bool
  | .ok ((_,some kept),_) =>
    kept.functionalOutcome = functional && (failuresOf kept.readings).isEmpty && kept.deferredEvidence = ["front","back"]
  | _ => false

theorem deferredWith_ok {functional : Outcome}
    {outcome : Except Manual.RunError ((ManualResult × Option ManualRecord) × List String)}
    (deferred : deferredWith functional outcome = true) : ∃ manual kept rest, outcome = .ok ((manual,some kept),rest) ∧
      kept.functionalOutcome = functional ∧ failuresOf kept.readings = [] ∧ kept.deferredEvidence = ["front","back"] := by
  unfold deferredWith at deferred
  split at deferred
  · rename_i manual kept rest
    simp only [Bool.and_eq_true,decide_eq_true_eq,List.isEmpty_iff] at deferred
    exact ⟨manual,kept,rest,rfl,deferred.1.1,deferred.1.2,deferred.2⟩
  · cases deferred

def housingRun (manual : ManualResult) : EvidenceStore :=
  ⟨finishRun "run" ⟨[],[⟨"HW-01",[],"manual"⟩],by decide⟩ ([] ++ recordedResult housing manual :: []),fun _ => []⟩

theorem housingRun_first (manual : ManualResult) :
    firstResult (housingRun manual).run housing.id = some (recordedResult housing manual) := by
  have alone : ∀ result ∈ ([] : List TestResult), result.testId ≠ housing.id := by simp
  exact finishRun_first "run" _ alone

def completing (photos : List String) : Addition := ⟨"HW-01",photos,true,some,[]⟩

theorem deferred_evidence_iff_housing : ∃ manual kept rest,
    photographHousing ["1","PASS","ab",""] = .ok ((manual,some kept),rest) ∧
    (CompletesOnlyPassed housing manual (some kept) (housingRun manual) [completing ["front.jpg","back.jpg"]] ↔
      EvidenceSuffices housing (some kept) [completing ["front.jpg","back.jpg"]]) := by
  have ran : deferredWith .pass (photographHousing ["1","PASS","ab",""]) = true := by decide +kernel
  obtain ⟨manual,kept,rest,ran,_⟩ := deferredWith_ok ran
  exact ⟨manual,kept,rest,ran,deferred_evidence_iff ran (housingRun_first manual)⟩

theorem housing_completes {lines rest : List String} {manual : ManualResult} {kept : ManualRecord} (photos : List String)
    (ran : photographHousing lines = .ok ((manual,some kept),rest)) (clear : failuresOf kept.readings = [])
    (deferred : kept.deferredEvidence = ["front","back"])
    (functional : kept.functionalOutcome = .pass ∨ kept.functionalOutcome = .blocked) :
    ∃ after, firstResult (evidenceAdds (housingRun manual) [completing photos]).run housing.id = some after ∧
      after.outcome = .pass := by
  have pending := (recorded_pending ran).mpr ⟨kept,rfl,clear,by simp [deferred],functional⟩
  apply pending_completed (housingRun_first manual) pending
  have safe : (safeTestId "HW-01").isSome = true := by decide
  exact ⟨completing photos,by simp,by simp [Addition.completes,Addition.attaches,completing,safe,housing]⟩

-- One photo completes a test whose setup failed, and one of which two photos are wanted.
theorem photo_completes_blocked :
    (∃ manual kept rest after, photographHousing ["2","PASS","ab",""] = .ok ((manual,some kept),rest) ∧
      kept.functionalOutcome = .blocked ∧
      firstResult (evidenceAdds (housingRun manual) [completing ["front.jpg"]]).run housing.id = some after ∧
      after.outcome = .pass ∧
      ¬ CompletesOnlyPassed housing manual (some kept) (housingRun manual) [completing ["front.jpg"]]) ∧
    ∃ manual kept rest after, photographHousing ["1","PASS","ab",""] = .ok ((manual,some kept),rest) ∧
      kept.deferredEvidence = ["front","back"] ∧
      firstResult (evidenceAdds (housingRun manual) [completing ["front.jpg"]]).run housing.id = some after ∧
      after.outcome = .pass ∧
      ¬ CompletesOnlyPassed housing manual (some kept) (housingRun manual) [completing ["front.jpg"]] := by
  have failedSetup : deferredWith .blocked (photographHousing ["2","PASS","ab",""]) = true := by decide +kernel
  have passedRun : deferredWith .pass (photographHousing ["1","PASS","ab",""]) = true := by decide +kernel
  constructor
  · obtain ⟨manual,kept,rest,ran,functional,clear,deferred⟩ := deferredWith_ok failedSetup
    obtain ⟨after,found,passed⟩ := housing_completes ["front.jpg"] ran clear deferred (.inr functional)
    refine ⟨manual,kept,rest,after,ran,functional,found,passed,?_⟩
    intro lawful
    have enough := suffices_of_completes ran (housingRun_first manual) lawful kept rfl clear (by simp [deferred]) []
      (completing ["front.jpg"]) [] rfl (by simp) (by decide)
    exact enough.1 functional
  · obtain ⟨manual,kept,rest,ran,functional,clear,deferred⟩ := deferredWith_ok passedRun
    obtain ⟨after,found,passed⟩ := housing_completes ["front.jpg"] ran clear deferred (.inl functional)
    refine ⟨manual,kept,rest,after,ran,deferred,found,passed,?_⟩
    intro lawful
    have enough := suffices_of_completes ran (housingRun_first manual) lawful kept rfl clear (by simp [deferred]) []
      (completing ["front.jpg"]) [] rfl (by simp) (by decide)
    have photos := enough.2 functional
    rw [deferred] at photos
    revert photos
    decide

end Thermometer.Verification
