import Mathlib.Data.List.Induction
import Mathlib.Data.List.Nodup
import Thermometer.Frontend.AlertConfig
import Thermometer.Lib.Texts

-- What `load` reads back after `save`, through the three tables.
namespace Thermometer.Frontend
open Decimal

theorem persistedId_inj (same : persistedId a = persistedId b) : a = b := by
  have texts := congrArg String.toList same
  simp only [persistedId,String.toList_append] at texts
  exact Texts.repr_inj (String.toList_inj.mp (List.append_cancel_left texts))

theorem utf16Length_append (a b : String) : utf16Length (a ++ b) = utf16Length a + utf16Length b := by
  simp [utf16Length]

theorem length_le_utf16Length (text : String) : text.length ≤ utf16Length text := by
  have units (chars : List Char) : chars.length ≤ (chars.map fun c => if c.toNat < 0x10000 then 1 else 2).sum := by
    induction chars with
    | nil => exact Nat.le_refl 0
    | cons c rest ih =>
      rw [List.length_cons,List.map_cons,List.sum_cons]
      split <;> omega
  rw [← String.length_toList]
  exact units _

theorem utf16Length_le (text : String) : utf16Length text ≤ 2 * text.length := by
  have units (chars : List Char) : (chars.map fun c => if c.toNat < 0x10000 then 1 else 2).sum ≤ 2 * chars.length := by
    induction chars with
    | nil => exact Nat.le_refl 0
    | cons c rest ih =>
      rw [List.length_cons,List.map_cons,List.sum_cons]
      split <;> omega
  rw [← String.length_toList]
  exact units _

theorem persistedId_short {id : Nat} (small : id < 2 ^ 53) : LowerCase.shortText (persistedId id) := by
  have digits : (Nat.repr id).length ≤ 16 := Nat.repr_length id 16 (by omega) (by omega)
  have units := utf16Length_le (Nat.repr id)
  have start : utf16Length "recipient-" = 10 := by decide +kernel
  unfold LowerCase.shortText persistedId
  rw [utf16Length_append,start]
  omega

theorem mapM_checked (check : α → Prop) [DecidablePred check] (f : α → β) (xs : List α) :
    xs.mapM (fun x => if check x then some (f x) else none) = if ∀ x ∈ xs, check x then some (xs.map f) else none := by
  induction xs with
  | nil => simp
  | cons x rest ih =>
    rw [List.mapM_cons,ih]
    by_cases here : check x
    · by_cases behind : ∀ y ∈ rest, check y
      · rw [if_pos behind,if_pos here,if_pos (List.forall_mem_cons.mpr ⟨here,behind⟩)]
        rfl
      · rw [if_neg behind,if_pos here,if_neg fun all => behind (List.forall_mem_cons.mp all).2]
        rfl
    · rw [if_neg here,if_neg fun all => here (List.forall_mem_cons.mp all).1]
      rfl

namespace LowerCase

variable (js : LowerCase)

theorem trim_trim (text : String) : trim (trim text) = trim text := by
  unfold trim
  rw [String.toList_ofList]
  have front : ((text.toList.dropWhile isSpace).rdropWhile isSpace).dropWhile isSpace =
      (text.toList.dropWhile isSpace).rdropWhile isSpace := by
    rw [List.dropWhile_eq_self_iff]
    intro some
    -- What is left begins where the text without its leading spaces begins.
    have start := List.rdropWhile_prefix isSpace (text.toList.dropWhile isSpace)
    have first := start.getElem some
    rw [first]
    exact List.dropWhile_get_zero_not isSpace text.toList _
  rw [front,List.rdropWhile_idempotent]

theorem normal_normal (destination : String) : js.normal (js.normal destination) = js.normal destination := by
  unfold normal
  rw [js.spaces _ (trim_trim destination),js.settled]

def Passes (config : PersistedAlertConfig) : Prop :=
  (∀ recipient ∈ config.recipients, js.Accepted recipient) ∧ config.recipients.length ≤ 25 ∧
    (config.recipients.map fun recipient => js.normal recipient.destination).Nodup

def normalConfig (config : PersistedAlertConfig) : PersistedAlertConfig :=
  { config with recipients := config.recipients.map js.normalRecipient }

theorem parse_passes {config : PersistedAlertConfig} (passes : js.Passes config) :
    js.parse config = some (js.normalConfig config) := by
  obtain ⟨each,count,distinct⟩ := passes
  unfold parse
  rw [show js.parseRecipient = fun r => if js.Accepted r then some (js.normalRecipient r) else none from rfl,
    mapM_checked,if_pos each]
  have unique : ((config.recipients.map js.normalRecipient).map (·.destination)).Nodup := by
    rw [List.map_map]
    exact distinct
  have few : (config.recipients.map js.normalRecipient).length ≤ 25 := by
    rw [List.length_map]
    exact count
  exact if_pos ⟨few,unique⟩

theorem parse_refused {config : PersistedAlertConfig} (refused : ¬ js.Passes config) : js.parse config = none := by
  unfold parse
  rw [show js.parseRecipient = fun r => if js.Accepted r then some (js.normalRecipient r) else none from rfl,mapM_checked]
  split
  case isFalse => rfl
  case isTrue each =>
    have either : ¬ ((config.recipients.map js.normalRecipient).length ≤ 25 ∧
        ((config.recipients.map js.normalRecipient).map (·.destination)).Nodup) := by
      intro ⟨count,distinct⟩
      rw [List.length_map] at count
      rw [List.map_map] at distinct
      exact refused ⟨each,count,distinct⟩
    exact if_neg either

end LowerCase

namespace Mysql

variable (mysql : Mysql)

def recipientRow (k : Nat) (recipient : PersistedRecipient) : RecipientRow :=
  ⟨mysql.recipientId k,recipient.destination,recipient.enabled⟩

def ruleRow (j : Nat) (recipient : PersistedRecipient) (source : MonitoredSeries) : RuleRow :=
  ⟨mysql.ruleId j,column recipient.minC,column recipient.maxC,recipient.maxMessage,recipient.minMessage,source,recipient.enabled⟩

def ruleRows (k : Nat) (recipient : PersistedRecipient) : List RuleRow :=
  [mysql.ruleRow (2 * k) recipient .sensor1,mysql.ruleRow (2 * k + 1) recipient .sensor2]

def linkRows (k : Nat) : List LinkRow :=
  [⟨mysql.ruleId (2 * k),mysql.recipientId k⟩,⟨mysql.ruleId (2 * k + 1),mysql.recipientId k⟩]

def entered (settings : Option Bool) (recipients : List PersistedRecipient) : AlertTables := {
  settings := settings
  recipients := recipients.mapIdx mysql.recipientRow
  rules := (recipients.mapIdx mysql.ruleRows).flatten
  links := (recipients.mapIdx fun k _ => mysql.linkRows k).flatten }

variable {mysql : Mysql} {settings : Option Bool} {recipients : List PersistedRecipient}

theorem entered_append (recipient : PersistedRecipient) : mysql.entered settings (recipients ++ [recipient]) = {
    settings := settings
    recipients := (mysql.entered settings recipients).recipients ++ [mysql.recipientRow recipients.length recipient]
    rules := (mysql.entered settings recipients).rules ++ mysql.ruleRows recipients.length recipient
    links := (mysql.entered settings recipients).links ++ mysql.linkRows recipients.length } := by
  simp [entered,List.mapIdx_concat]

theorem entered_recipients_length : (mysql.entered settings recipients).recipients.length = recipients.length := List.length_mapIdx

theorem entered_rules_length : (mysql.entered settings recipients).rules.length = 2 * recipients.length := by
  induction recipients using List.reverseRecOn with
  | nil => rfl
  | append_singleton rest recipient ih =>
    rw [entered_append]
    simp only [List.length_append,ih,ruleRows,List.length_cons,List.length_nil]
    omega

structure Used (mysql : Mysql) (count : Nat) (t : AlertTables) : Prop where
  recipients : ∀ row ∈ t.recipients, row.id < mysql.recipientId count
  rules : ∀ row ∈ t.rules, row.id < mysql.ruleId (2 * count)
  linkRules : ∀ row ∈ t.links, row.alertRuleId < mysql.ruleId (2 * count)
  linkRecipients : ∀ row ∈ t.links, row.alertRecipientId < mysql.recipientId count

theorem entered_used : mysql.Used recipients.length (mysql.entered settings recipients) := by
  induction recipients using List.reverseRecOn with
  | nil => exact ⟨by simp [entered],by simp [entered],by simp [entered],by simp [entered]⟩
  | append_singleton rest recipient ih =>
    have nextRecipient : mysql.recipientId rest.length < mysql.recipientId (rest.length + 1) := mysql.recipientIds (by omega)
    have nextRule : mysql.ruleId (2 * rest.length) < mysql.ruleId (2 * rest.length + 1) := mysql.ruleIds (by omega)
    have lastRule : mysql.ruleId (2 * rest.length + 1) < mysql.ruleId (2 * (rest.length + 1)) := mysql.ruleIds (by omega)
    rw [entered_append,List.length_append,List.length_singleton]
    constructor
    · intro row member
      rcases List.mem_append.mp member with old | new
      · exact (ih.recipients row old).trans nextRecipient
      · rw [List.mem_singleton.mp new]
        exact nextRecipient
    · intro row member
      rcases List.mem_append.mp member with old | new
      · exact (ih.rules row old).trans (nextRule.trans lastRule)
      · simp only [ruleRows,List.mem_cons,List.not_mem_nil,or_false] at new
        obtain rfl | rfl := new
        · exact nextRule.trans lastRule
        · exact lastRule
    · intro row member
      rcases List.mem_append.mp member with old | new
      · exact (ih.linkRules row old).trans (nextRule.trans lastRule)
      · simp only [linkRows,List.mem_cons,List.not_mem_nil,or_false] at new
        obtain rfl | rfl := new
        · exact nextRule.trans lastRule
        · exact lastRule
    · intro row member
      rcases List.mem_append.mp member with old | new
      · exact (ih.linkRecipients row old).trans nextRecipient
      · simp only [linkRows,List.mem_cons,List.not_mem_nil,or_false] at new
        obtain rfl | rfl := new
        · exact nextRecipient
        · exact nextRecipient

theorem joined_extend (t : AlertTables) (recipient : RecipientRow) (first second : RuleRow)
    (recipients : ∀ row ∈ t.recipients, row.id ≠ recipient.id) (linked : ∀ row ∈ t.links, row.alertRecipientId ≠ recipient.id)
    (rules : ∀ row ∈ t.rules, row.id ≠ first.id ∧ row.id ≠ second.id)
    (ruled : ∀ row ∈ t.links, row.alertRuleId ≠ first.id ∧ row.alertRuleId ≠ second.id) (apart : first.id ≠ second.id) :
    AlertTables.joined {
      settings := settings
      recipients := t.recipients ++ [recipient]
      rules := t.rules ++ [first,second]
      links := t.links ++ [⟨first.id,recipient.id⟩,⟨second.id,recipient.id⟩] } =
      t.joined ++ [(recipient,first),(recipient,second)] := by
  unfold AlertTables.joined
  rw [List.flatMap_append]
  congr 1
  · apply List.flatMap_congr
    intro row member
    have other : recipient.id ≠ row.id := (recipients row member).symm
    rw [List.filter_append,List.flatMap_append]
    have none : ([⟨first.id,recipient.id⟩,⟨second.id,recipient.id⟩] : List LinkRow).filter (·.alertRecipientId = row.id) = [] := by
      simp [other]
    rw [none,List.flatMap_nil,List.append_nil]
    apply List.flatMap_congr
    intro link inside
    have old := ruled link (List.mem_filter.mp inside).1
    simp [List.filter_append,old.1.symm,old.2.symm]
  · have noLink : t.links.filter (·.alertRecipientId = recipient.id) = [] := by
      rw [List.filter_eq_nil_iff]
      intro link member
      simpa using linked link member
    have noFirst : t.rules.filter (·.id = first.id) = [] := by
      rw [List.filter_eq_nil_iff]
      intro rule member
      simpa using (rules rule member).1
    have noSecond : t.rules.filter (·.id = second.id) = [] := by
      rw [List.filter_eq_nil_iff]
      intro rule member
      simpa using (rules rule member).2
    simp [List.filter_append,noLink,noFirst,noSecond,apart,apart.symm]

def resultRows (mysql : Mysql) (k : Nat) (recipient : PersistedRecipient) : List (RecipientRow × RuleRow) :=
  (mysql.ruleRows k recipient).map (mysql.recipientRow k recipient,·)

theorem entered_joined : (mysql.entered settings recipients).joined = (recipients.mapIdx mysql.resultRows).flatten := by
  induction recipients using List.reverseRecOn with
  | nil => rfl
  | append_singleton rest recipient ih =>
    have used : mysql.Used rest.length (mysql.entered settings rest) := entered_used
    have nextRule : mysql.ruleId (2 * rest.length) < mysql.ruleId (2 * rest.length + 1) := mysql.ruleIds (by omega)
    rw [entered_append,List.mapIdx_concat,List.flatten_append,← ih]
    have extended := @joined_extend settings (mysql.entered settings rest) (mysql.recipientRow rest.length recipient)
      (mysql.ruleRow (2 * rest.length) recipient .sensor1) (mysql.ruleRow (2 * rest.length + 1) recipient .sensor2)
      (fun row member => (used.recipients row member).ne) (fun row member => (used.linkRecipients row member).ne)
      (fun row member => ⟨(used.rules row member).ne,((used.rules row member).trans nextRule).ne⟩)
      (fun row member => ⟨(used.linkRules row member).ne,((used.linkRules row member).trans nextRule).ne⟩) nextRule.ne
    rw [List.flatten_singleton]
    exact extended

theorem entered_ordered : (mysql.entered settings recipients).joined.mergeSort AlertTables.ordered =
    (recipients.mapIdx mysql.resultRows).flatten := by
  rw [entered_joined]
  apply List.mergeSort_of_pairwise
  induction recipients using List.reverseRecOn with
  | nil => exact List.Pairwise.nil
  | append_singleton rest recipient ih =>
    rw [List.mapIdx_concat,List.flatten_append,List.pairwise_append]
    refine ⟨ih,?_,?_⟩
    · have nextRule : mysql.ruleId (2 * rest.length) < mysql.ruleId (2 * rest.length + 1) := mysql.ruleIds (by omega)
      simp [resultRows,ruleRows,ruleRow,AlertTables.ordered,nextRule.le]
    · intro earlier before later after
      have ids : ∃ j, j < rest.length ∧ earlier.1.id = mysql.recipientId j := by
        obtain ⟨rows,inside,member⟩ := List.mem_flatten.mp before
        obtain ⟨j,small,rfl⟩ := List.mem_mapIdx.mp inside
        obtain ⟨rule,_,rfl⟩ := List.mem_map.mp member
        exact ⟨j,small,rfl⟩
      obtain ⟨j,small,same⟩ := ids
      have new : later.1.id = mysql.recipientId rest.length := by
        simp only [List.flatten_cons,List.flatten_nil,List.append_nil] at after
        obtain ⟨rule,_,rfl⟩ := List.mem_map.mp after
        rfl
      have below : earlier.1.id < later.1.id := by
        rw [same,new]
        exact mysql.recipientIds small
      simp [AlertTables.ordered,below]

def readBack (mysql : Mysql) (k : Nat) (recipient : PersistedRecipient) : PersistedRecipient :=
  { recipient with
    id := persistedId (mysql.recipientId k)
    minC := celsius (column recipient.minC)
    maxC := celsius (column recipient.maxC) }

theorem rows_readBack : ((recipients.mapIdx mysql.resultRows).flatten).foldl enterRow [] = recipients.mapIdx mysql.readBack := by
  induction recipients using List.reverseRecOn with
  | nil => rfl
  | append_singleton rest recipient ih =>
    rw [List.mapIdx_concat,List.flatten_append,List.foldl_append,ih,List.mapIdx_concat]
    have fresh : (rest.mapIdx mysql.readBack).any (·.id = persistedId (mysql.recipientId rest.length)) = false := by
      rw [List.any_eq_false]
      intro entry member
      obtain ⟨j,small,rfl⟩ := List.mem_mapIdx.mp member
      intro same
      exact (mysql.recipientIds small).ne (persistedId_inj (of_decide_eq_true same))
    have first : enterRow (rest.mapIdx mysql.readBack) (mysql.recipientRow rest.length recipient,mysql.ruleRow (2 * rest.length) recipient .sensor1) =
        rest.mapIdx mysql.readBack ++ [mysql.readBack rest.length recipient] := if_neg (by rw [recipientRow,fresh]; decide)
    have second : enterRow (rest.mapIdx mysql.readBack ++ [mysql.readBack rest.length recipient])
        (mysql.recipientRow rest.length recipient,mysql.ruleRow (2 * rest.length + 1) recipient .sensor2) =
        rest.mapIdx mysql.readBack ++ [mysql.readBack rest.length recipient] := if_pos (by simp [readBack,recipientRow])
    simp only [resultRows,ruleRows,List.map_cons,List.map_nil,List.flatten_cons,List.flatten_nil,List.append_nil,
      List.foldl_cons,List.foldl_nil,first,second]

theorem load_entered (js : LowerCase) : load js (mysql.entered settings recipients) =
    js.parse ⟨settings.getD true,recipients.mapIdx mysql.readBack⟩ := by
  unfold load
  rw [entered_ordered,rows_readBack]
  rfl

def quiet (mysql : Mysql) (start count : Nat) : Bool := mysql.fault.all fun k => k < start || start + count ≤ k

theorem quiet_one (start : Nat) : mysql.quiet start 1 = false ↔ mysql.fault = some start := by
  unfold quiet
  cases mysql.fault with
  | none => simp
  | some k =>
    simp only [Option.all_some,Bool.or_eq_false_iff,decide_eq_false_iff_not,Option.some.injEq]
    omega

theorem quiet_add (start a b : Nat) : mysql.quiet start (a + b) = (mysql.quiet start a && mysql.quiet (start + a) b) := by
  unfold quiet
  cases mysql.fault with
  | none => rfl
  | some k =>
    simp only [Option.all_some,← Bool.decide_or,← Bool.decide_and,decide_eq_decide]
    omega

theorem statement_eq (effect : StateT AlertTables Option α) (session : Session) : mysql.statement effect session =
    if mysql.quiet session.statements 1 then
      (effect session.tables).map fun (value,tables) => (value,⟨tables,session.statements + 1⟩)
    else none := by
  unfold statement
  by_cases faulty : mysql.fault = some session.statements
  · rw [if_pos faulty,(quiet_one _).mpr faulty]
    rfl
  · rw [if_neg faulty]
    have calm : mysql.quiet session.statements 1 = true := by
      rw [← Bool.not_eq_false,quiet_one]
      exact faulty
    rw [if_pos calm]

structure Storable (recipient : PersistedRecipient) : Prop where
  minThreshold : (column recipient.minC).natAbs ≤ 99999
  maxThreshold : (column recipient.maxC).natAbs ≤ 99999
  highTempMessage : recipient.maxMessage.length ≤ 255
  lowTempMessage : recipient.minMessage.length ≤ 255

variable {recipient : PersistedRecipient} {session : Session}

theorem bind_run (first : StateT Session Option α) (next : α → StateT Session Option β) (session : Session) :
    (first >>= next) session = (first session).bind fun result => next result.1 result.2 := rfl

theorem forM_cons_run (each : α → StateT Session Option Unit) (x : α) (rest : List α) (session : Session) :
    (x :: rest).forM each session = (each x session).bind fun result => rest.forM each result.2 := rfl

theorem forM_nil_run (each : α → StateT Session Option Unit) (session : Session) :
    ([] : List α).forM each session = some ((),session) := rfl

def withRule (mysql : Mysql) (t : AlertTables) (recipient : PersistedRecipient) (recipientId : Nat) (source : MonitoredSeries) :
    AlertTables :=
  { t with
    rules := t.rules ++ [mysql.ruleRow t.rules.length recipient source]
    links := t.links ++ [⟨mysql.ruleId t.rules.length,recipientId⟩] }

theorem saveRule_eq {recipientId : Nat} (storable : Storable recipient) (source : MonitoredSeries)
    (known : session.tables.recipients.any (·.id = recipientId))
    (fresh : ∀ row ∈ session.tables.links, row.alertRuleId ≠ mysql.ruleId session.tables.rules.length) :
    mysql.saveRule recipient recipientId source session =
      if mysql.quiet session.statements 2 then
        some ((),⟨mysql.withRule session.tables recipient recipientId source,session.statements + 2⟩)
      else none := by
  obtain ⟨minThreshold,maxThreshold,high,low⟩ := storable
  rw [show 2 = 1 + 1 from rfl,quiet_add]
  unfold saveRule
  rw [bind_run,statement_eq]
  cases first : mysql.quiet session.statements 1 with
  | false => simp
  | true =>
    have inserted : mysql.insertRule recipient.minC recipient.maxC recipient.maxMessage recipient.minMessage source
        recipient.enabled session.tables = some (mysql.ruleId session.tables.rules.length,
          { session.tables with rules := session.tables.rules ++ [mysql.ruleRow session.tables.rules.length recipient source] }) :=
      if_pos ⟨minThreshold,maxThreshold,high,low⟩
    rw [if_pos rfl,inserted,Option.map_some,Option.bind_some,statement_eq]
    cases second : mysql.quiet (session.statements + 1) 1 with
    | false => simp
    | true =>
      have absent : (⟨mysql.ruleId session.tables.rules.length,recipientId⟩ : LinkRow) ∉ session.tables.links :=
        fun member => fresh _ member rfl
      have linked : insertLink (mysql.ruleId session.tables.rules.length) recipientId
          { session.tables with rules := session.tables.rules ++ [mysql.ruleRow session.tables.rules.length recipient source] } =
          some ((),mysql.withRule session.tables recipient recipientId source) :=
        if_pos ⟨by simp [ruleRow],known,absent⟩
      rw [if_pos rfl,linked]
      rfl

theorem saveRecipient_eq (storable : Storable recipient) (count : Nat) :
    mysql.saveRecipient recipient ⟨mysql.entered settings recipients,count⟩ =
      if recipient.destination.length ≤ 255 ∧ mysql.quiet count 5 then
        some ((),⟨mysql.entered settings (recipients ++ [recipient]),count + 5⟩)
      else none := by
  have used : mysql.Used recipients.length (mysql.entered settings recipients) := entered_used
  have nextRule : mysql.ruleId (2 * recipients.length) < mysql.ruleId (2 * recipients.length + 1) := mysql.ruleIds (by omega)
  rw [show 5 = 1 + (2 + 2) from rfl,quiet_add,quiet_add]
  unfold saveRecipient
  rw [bind_run,statement_eq]
  cases first : mysql.quiet count 1 with
  | false => simp
  | true =>
    rw [if_pos rfl]
    by_cases short : recipient.destination.length ≤ 255
    case neg => simp [insertRecipient,short]
    case pos =>
      have inserted : mysql.insertRecipient recipient.destination recipient.enabled (mysql.entered settings recipients) =
          some (mysql.recipientId recipients.length,
            { mysql.entered settings recipients with
              recipients := (mysql.entered settings recipients).recipients ++ [mysql.recipientRow recipients.length recipient] }) := by
        unfold insertRecipient
        rw [if_pos short,entered_recipients_length]
        rfl
      rw [inserted,Option.map_some,Option.bind_some,forM_cons_run,saveRule_eq storable]
      case known => simp [recipientRow]
      case fresh =>
        intro row member
        rw [entered_rules_length]
        exact (used.linkRules row member).ne
      cases second : mysql.quiet (count + 1) 2 with
      | false => simp
      | true =>
        rw [if_pos rfl,Option.bind_some,forM_cons_run,saveRule_eq storable]
        case known => simp [withRule,recipientRow]
        case fresh =>
          intro row member
          simp only [withRule,List.length_append,List.length_singleton,entered_rules_length] at member ⊢
          rcases List.mem_append.mp member with old | new
          · exact ((used.linkRules row old).trans nextRule).ne
          · rw [List.mem_singleton.mp new]
            exact nextRule.ne
        cases third : mysql.quiet (count + 1 + 2) 2 with
        | false => simp
        | true =>
          rw [if_pos rfl]
          simp [short,withRule,entered_append,entered_rules_length,ruleRows,linkRows,Nat.add_assoc]
          rfl

theorem saveRecipients_eq (rest : List PersistedRecipient) (storable : ∀ recipient ∈ rest, Storable recipient) (count : Nat) :
    rest.forM mysql.saveRecipient ⟨mysql.entered settings recipients,count⟩ =
      if (∀ recipient ∈ rest, recipient.destination.length ≤ 255) ∧ mysql.quiet count (5 * rest.length) then
        some ((),⟨mysql.entered settings (recipients ++ rest),count + 5 * rest.length⟩)
      else none := by
  induction rest generalizing recipients count with
  | nil =>
    have calm : mysql.quiet count 0 = true := by
      unfold quiet
      cases mysql.fault with
      | none => rfl
      | some k =>
        simp only [Option.all_some,Bool.or_eq_true,decide_eq_true_eq]
        omega
    rw [forM_nil_run,if_pos ⟨by simp,calm⟩,List.append_nil]
    rfl
  | cons recipient rest ih =>
    have steps : 5 * (recipient :: rest).length = 5 + 5 * rest.length := by rw [List.length_cons]; omega
    rw [forM_cons_run,saveRecipient_eq (storable _ List.mem_cons_self),steps,quiet_add]
    by_cases here : recipient.destination.length ≤ 255 ∧ mysql.quiet count 5 = true
    · rw [if_pos here,Option.bind_some,ih fun other member => storable other (List.mem_cons_of_mem _ member)]
      simp [here.1,here.2,Nat.add_assoc]
    · rw [if_neg here,if_neg]
      · rfl
      · intro ⟨short,calm⟩
        rw [Bool.and_eq_true] at calm
        exact here ⟨short _ List.mem_cons_self,calm.1⟩

theorem statement_bind {t after : AlertTables} {effect : StateT AlertTables Option α} {value : α} (done : effect t = some (value,after))
    (next : α → StateT Session Option β) (count : Nat) : (mysql.statement effect >>= next) ⟨t,count⟩ =
      if mysql.quiet count 1 then next value ⟨after,count + 1⟩ else none := by
  rw [bind_run,statement_eq]
  split
  · rw [done]
    rfl
  · rfl

theorem transaction_eq (valid : PersistedAlertConfig) (storable : ∀ recipient ∈ valid.recipients, Storable recipient)
    (t : AlertTables) : mysql.transaction valid ⟨t,0⟩ =
      if (∀ recipient ∈ valid.recipients, recipient.destination.length ≤ 255) ∧
          mysql.quiet 0 (6 + 5 * valid.recipients.length) then
        some ((),⟨mysql.entered (some valid.enabled) valid.recipients,6 + 5 * valid.recipients.length⟩)
      else none := by
  rw [show 6 + 5 * valid.recipients.length = 1 + (1 + (1 + (1 + (1 + (5 * valid.recipients.length + 1))))) by omega]
  iterate 6 rw [quiet_add]
  have begun : (pure () : StateT AlertTables Option Unit) t = some ((),t) := rfl
  unfold transaction
  rw [statement_bind begun]
  cases mysql.quiet 0 1 with
  | false => simp
  | true =>
    rw [if_pos rfl,statement_bind rfl]
    cases mysql.quiet (0 + 1) 1 with
    | false => simp
    | true =>
      rw [if_pos rfl,statement_bind rfl]
      cases mysql.quiet (0 + 1 + 1) 1 with
      | false => simp
      | true =>
        rw [if_pos rfl,statement_bind rfl]
        cases mysql.quiet (0 + 1 + 1 + 1) 1 with
        | false => simp
        | true =>
          rw [if_pos rfl,statement_bind rfl]
          cases mysql.quiet (0 + 1 + 1 + 1 + 1) 1 with
          | false => simp
          | true =>
            rw [if_pos rfl,bind_run]
            have rows := @saveRecipients_eq mysql (some valid.enabled) [] valid.recipients storable
              (0 + 1 + 1 + 1 + 1 + 1)
            rw [show mysql.entered (some valid.enabled) [] = ⟨some valid.enabled,[],[],[]⟩ from rfl] at rows
            rw [rows]
            by_cases entered : (∀ recipient ∈ valid.recipients, recipient.destination.length ≤ 255) ∧
                mysql.quiet (0 + 1 + 1 + 1 + 1 + 1) (5 * valid.recipients.length) = true
            · rw [if_pos entered,Option.bind_some,statement_eq,entered.2]
              cases mysql.quiet (0 + 1 + 1 + 1 + 1 + 1 + 5 * valid.recipients.length) 1 with
              | false => simp
              | true =>
                rw [if_pos rfl,if_pos ⟨entered.1,rfl⟩]
                simp only [Nat.zero_add,← Nat.add_assoc,Nat.reduceAdd]
                rw [show 5 + 5 * valid.recipients.length + 1 = 6 + 5 * valid.recipients.length by omega]
                rfl
            · rw [if_neg entered,if_neg]
              · rfl
              · intro ⟨short,calm⟩
                simp only [Bool.true_and,Bool.and_eq_true] at calm
                exact entered ⟨short,calm.1⟩

end Mysql

structure Completes (js : LowerCase) (mysql : Mysql) (config : PersistedAlertConfig) : Prop where
  passes : js.Passes config
  fits : ∀ recipient ∈ config.recipients, (js.normal recipient.destination).length ≤ 255
  quiet : mysql.quiet 0 (6 + 5 * config.recipients.length)

variable {js : LowerCase} {mysql : Mysql} {config : PersistedAlertConfig} {recipient : PersistedRecipient}

theorem column_bounds {value : Rat} (low : -55 ≤ value) (high : value ≤ 125) : -5500 ≤ column value ∧ column value ≤ 12500 := by
  have lower := roundHalfAway_mono (show ((-5500 : Int) : Rat) ≤ value * 100 by push_cast; linarith)
  have upper := roundHalfAway_mono (show value * 100 ≤ ((12500 : Int) : Rat) by push_cast; linarith)
  rw [roundHalfAway_int] at lower upper
  exact ⟨lower,upper⟩

theorem column_mono {low high : Rat} (ordered : low ≤ high) : column low ≤ column high :=
  roundHalfAway_mono (by linarith)

theorem accepted_storable (accepted : js.Accepted recipient) : Mysql.Storable (js.normalRecipient recipient) := by
  have minC := column_bounds accepted.minC.1 accepted.minC.2
  have maxC := column_bounds accepted.maxC.1 accepted.maxC.2
  refine ⟨?_,?_,(length_le_utf16Length _).trans accepted.maxMessage.2,(length_le_utf16Length _).trans accepted.minMessage.2⟩
  · change (column recipient.minC).natAbs ≤ 99999
    omega
  · change (column recipient.maxC).natAbs ≤ 99999
    omega

theorem save_completes (completes : Completes js mysql config) (t : AlertTables) : save js mysql t config =
    (mysql.entered (some config.enabled) (config.recipients.map js.normalRecipient),true) := by
  obtain ⟨passes,fits,quiet⟩ := completes
  have storable : ∀ recipient ∈ (js.normalConfig config).recipients, Mysql.Storable recipient := by
    intro recipient member
    obtain ⟨given,inside,rfl⟩ := List.mem_map.mp member
    exact accepted_storable (passes.1 given inside)
  have short : ∀ recipient ∈ (js.normalConfig config).recipients, recipient.destination.length ≤ 255 := by
    intro recipient member
    obtain ⟨given,inside,rfl⟩ := List.mem_map.mp member
    exact fits given inside
  have count : (js.normalConfig config).recipients.length = config.recipients.length := List.length_map _
  unfold save
  rw [js.parse_passes passes]
  dsimp only
  rw [Mysql.transaction_eq _ storable,count,if_pos ⟨short,quiet⟩]
  rfl

theorem save_refused (refused : ¬ Completes js mysql config) (t : AlertTables) : save js mysql t config = (t,false) := by
  unfold save
  by_cases passes : js.Passes config
  · rw [js.parse_passes passes]
    have storable : ∀ recipient ∈ (js.normalConfig config).recipients, Mysql.Storable recipient := by
      intro recipient member
      obtain ⟨given,inside,rfl⟩ := List.mem_map.mp member
      exact accepted_storable (passes.1 given inside)
    have count : (js.normalConfig config).recipients.length = config.recipients.length := List.length_map _
    dsimp only
    rw [Mysql.transaction_eq _ storable,count,if_neg]
    intro ⟨short,quiet⟩
    exact refused ⟨passes,fun recipient member => short _ (List.mem_map_of_mem member),quiet⟩
  · rw [js.parse_refused passes]

def readConfig (js : LowerCase) (mysql : Mysql) (config : PersistedAlertConfig) : PersistedAlertConfig :=
  ⟨config.enabled,(config.recipients.map js.normalRecipient).mapIdx mysql.readBack⟩

theorem celsius_bounds {hundredths : Int} (within : -5500 ≤ hundredths ∧ hundredths ≤ 12500) :
    -55 ≤ celsius hundredths ∧ celsius hundredths ≤ 125 := by
  have low : ((-5500 : Int) : Rat) ≤ hundredths := by exact_mod_cast within.1
  have high : (hundredths : Rat) ≤ (12500 : Int) := by exact_mod_cast within.2
  push_cast at low high
  unfold celsius
  constructor <;> linarith

theorem celsius_lt {a b : Int} (below : a < b) : celsius a < celsius b := by
  have cast : (a : Rat) < b := by exact_mod_cast below
  unfold celsius
  linarith

theorem readBack_accepted {k : Nat} (accepted : js.Accepted recipient) (row : k < 25) :
    js.Accepted (mysql.readBack k (js.normalRecipient recipient)) ↔ column recipient.minC ≠ column recipient.maxC := by
  constructor
  · intro again same
    have below := again.below
    simp only [Mysql.readBack,LowerCase.normalRecipient,same] at below
    exact lt_irrefl _ below
  · intro apart
    refine ⟨persistedId_short (mysql.exactIds k row),?_,?_,?_,accepted.minMessage,accepted.maxMessage,?_⟩
    · change isEmail (js.normal (js.normal recipient.destination)) = true
      rw [js.normal_normal]
      exact accepted.destination
    · exact celsius_bounds (column_bounds accepted.minC.1 accepted.minC.2)
    · exact celsius_bounds (column_bounds accepted.maxC.1 accepted.maxC.2)
    · exact celsius_lt (lt_of_le_of_ne (column_mono accepted.below.le) apart)

theorem readConfig_length : (readConfig js mysql config).recipients.length = config.recipients.length := by
  simp [readConfig]

theorem readConfig_getElem (k : Nat) (inside : k < (readConfig js mysql config).recipients.length) :
    (readConfig js mysql config).recipients[k] =
      mysql.readBack k (js.normalRecipient (config.recipients.get ⟨k,readConfig_length ▸ inside⟩)) := by
  simp [readConfig]

theorem readConfig_passes (passes : js.Passes config) : js.Passes (readConfig js mysql config) ↔
    ∀ recipient ∈ config.recipients, column recipient.minC ≠ column recipient.maxC := by
  have row {k : Nat} (inside : k < config.recipients.length) : k < 25 := inside.trans_le passes.2.1
  have addresses : (readConfig js mysql config).recipients.map (fun recipient => js.normal recipient.destination) =
      config.recipients.map fun recipient => js.normal recipient.destination := by
    apply List.ext_getElem
    · rw [List.length_map,List.length_map,readConfig_length]
    · intro k _ _
      rw [List.getElem_map,List.getElem_map,readConfig_getElem]
      exact js.normal_normal _
  constructor
  · intro again recipient member
    obtain ⟨k,inside,rfl⟩ := List.getElem_of_mem member
    have read := again.1 _ (List.getElem_mem ((@readConfig_length js mysql config).symm ▸ inside))
    rw [readConfig_getElem] at read
    exact (readBack_accepted (passes.1 _ member) (row inside)).mp read
  · intro apart
    refine ⟨?_,readConfig_length.trans_le passes.2.1,addresses ▸ passes.2.2⟩
    intro recipient member
    obtain ⟨k,inside,rfl⟩ := List.getElem_of_mem member
    rw [readConfig_getElem]
    rw [readConfig_length] at inside
    have given : config.recipients[k] ∈ config.recipients := List.getElem_mem inside
    exact (readBack_accepted (passes.1 _ given) (row inside)).mpr (apart _ given)

structure Restored (js : LowerCase) (config loaded : PersistedAlertConfig) : Prop where
  enabled : loaded.enabled = config.enabled
  recipients : List.Forall₂ (fun given read => read = { given with
    id := read.id
    destination := js.normal given.destination
    minC := celsius (column given.minC)
    maxC := celsius (column given.maxC) }) config.recipients loaded.recipients

theorem readConfig_restored : Restored js config (js.normalConfig (readConfig js mysql config)) := by
  refine ⟨rfl,List.forall₂_iff_get.mpr ⟨?_,?_⟩⟩
  · rw [LowerCase.normalConfig,List.length_map,readConfig_length]
  · intro k given read
    simp only [LowerCase.normalConfig,List.get_eq_getElem,List.getElem_map,readConfig_getElem]
    simp only [LowerCase.normalRecipient,Mysql.readBack,js.normal_normal]

def RoundTrip (js : LowerCase) (mysql : Mysql) (t : AlertTables) (config : PersistedAlertConfig) : Prop :=
  if (save js mysql t config).2 then
    ∃ loaded, load js (save js mysql t config).1 = some loaded ∧ Restored js config loaded
  else load js (save js mysql t config).1 = load js t

theorem load_saved (completes : Completes js mysql config) (t : AlertTables) :
    load js (save js mysql t config).1 = js.parse (readConfig js mysql config) := by
  rw [save_completes completes,Mysql.load_entered]
  rfl

-- A saved configuration comes back unless the columns round two thresholds of a recipient
-- to one value, which `load` then refuses.
theorem round_trip_iff (js : LowerCase) (mysql : Mysql) (t : AlertTables) (config : PersistedAlertConfig) :
    RoundTrip js mysql t config ↔
      ¬ (Completes js mysql config ∧ ∃ recipient ∈ config.recipients, column recipient.minC = column recipient.maxC) := by
  unfold RoundTrip
  by_cases completes : Completes js mysql config
  case neg =>
    rw [save_refused completes]
    simp [completes]
  case pos =>
    rw [load_saved completes,save_completes completes,if_pos rfl]
    constructor
    · intro ⟨loaded,read,_⟩ ⟨_,recipient,member,same⟩
      have refused : ¬ js.Passes (readConfig js mysql config) := fun again =>
        (readConfig_passes completes.passes).mp again recipient member same
      rw [js.parse_refused refused] at read
      cases read
    · intro kept
      have again : js.Passes (readConfig js mysql config) := (readConfig_passes completes.passes).mpr
        fun recipient member same => kept ⟨completes,recipient,member,same⟩
      exact ⟨_,js.parse_passes again,readConfig_restored⟩

def lowerAscii (c : Char) : Char := if 65 ≤ c.toNat ∧ c.toNat ≤ 90 then Char.ofNat (c.toNat + 32) else c

theorem lowerAscii_capital {c : Char} (capital : 65 ≤ c.toNat ∧ c.toNat ≤ 90) : (lowerAscii c).toNat = c.toNat + 32 := by
  have valid : (c.toNat + 32).isValidChar := Or.inl (by omega)
  rw [lowerAscii,if_pos capital,Char.ofNat,dif_pos valid]
  rfl

theorem isSpace_lowerAscii (c : Char) : isSpace (lowerAscii c) = isSpace c := by
  by_cases capital : 65 ≤ c.toNat ∧ c.toNat ≤ 90
  case neg => rw [lowerAscii,if_neg capital]
  case pos =>
    unfold isSpace
    rw [lowerAscii_capital capital]
    grind

theorem lowerAscii_lowerAscii (c : Char) : lowerAscii (lowerAscii c) = lowerAscii c := by
  by_cases capital : 65 ≤ c.toNat ∧ c.toNat ≤ 90
  case neg =>
    have same : lowerAscii c = c := if_neg capital
    rw [same,same]
  case pos =>
    have lower : ¬ (65 ≤ (lowerAscii c).toNat ∧ (lowerAscii c).toNat ≤ 90) := by
      rw [lowerAscii_capital capital]
      omega
    exact if_neg lower

def asciiLower : LowerCase where
  toLowerCase text := String.ofList (text.toList.map lowerAscii)
  settled text := by
    rw [String.toList_ofList,List.map_map]
    congr 1
    apply List.map_congr_left
    intro c _
    exact lowerAscii_lowerAscii c
  spaces text trimmed := by
    have chars : (text.toList.dropWhile isSpace).rdropWhile isSpace = text.toList := by
      have same := congrArg String.toList trimmed
      rwa [trim,String.toList_ofList] at same
    have same : isSpace ∘ lowerAscii = isSpace := funext isSpace_lowerAscii
    unfold trim
    rw [String.toList_ofList,List.dropWhile_map,same,List.rdropWhile,← List.map_reverse,List.dropWhile_map,same,
      ← List.map_reverse,← List.rdropWhile,chars]

def numbered : Mysql where
  fault := none
  recipientId row := row + 1
  ruleId row := row + 1
  recipientIds := fun _ _ below => Nat.succ_lt_succ below
  ruleIds := fun _ _ below => Nat.succ_lt_succ below
  exactIds row inside := by omega

def narrow : PersistedAlertConfig := ⟨true,[⟨"a"," Amy@lab.org",true,10001 / 1000,10004 / 1000,"cold","hot"⟩]⟩

theorem narrow_completes : Completes asciiLower numbered narrow where
  passes := ⟨by decide +kernel,by decide,by simp [narrow]⟩
  fits := by decide +kernel
  quiet := rfl

theorem narrow_lost : ¬ RoundTrip asciiLower numbered ⟨some true,[],[],[]⟩ narrow := by
  unfold RoundTrip
  rw [load_saved narrow_completes,save_completes narrow_completes,if_pos rfl]
  have refused : ¬ asciiLower.Passes (readConfig asciiLower numbered narrow) := fun again =>
    (readConfig_passes narrow_completes.passes).mp again _ List.mem_cons_self (by decide +kernel)
  rw [asciiLower.parse_refused refused]
  intro ⟨_,read,_⟩
  cases read

end Thermometer.Frontend
