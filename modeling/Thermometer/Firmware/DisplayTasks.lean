import Thermometer.Firmware.FrozenHistory
import Thermometer.Firmware.Hysteresis
import Thermometer.Firmware.RealDisplay

-- The tasks that draw on the LCD. A snapshot is copied under the state mutex and drawn
-- later, under the display mutex, row by row; both are taken by whoever comes first.
namespace Thermometer.Firmware
open Wire Execution

inductive DisplayTask where
  | sampling
  | host
  | buttons
  deriving DecidableEq

inductive Render where
  | idle
  | due
  | copied (snapshot : CurrentSnapshot)
  | drawing (snapshot : CurrentSnapshot) (row : Fin sensorCount)

def Render.isDrawing : Render → Bool
  | .drawing .. => true
  | _ => false

structure Panel (cfg : DeviceConfig) where
  device : State cfg
  renders : DisplayTask → Render
  rows : Fin sensorCount → List Char

-- A failed write leaves any text in its row.
inductive PanelEvent where
  | device (event : Event)
  | copy (task : DisplayTask)
  | lock (task : DisplayTask)
  | write (task : DisplayTask) (failure : Option (List Char))

variable {cfg : DeviceConfig}

def taskOf : Event → DisplayTask
  | .tick | .reading .. => .sampling
  | .toggleDisplay _ => .buttons
  | .setDisplay .. | .getCurrent | .getHistoryMeta | .copyHistory .. => .host

def demandsRender (s : State cfg) : Event → Bool
  | .tick => true
  | .setDisplay sensorId enabled =>
    match sensorIndex sensorId with
    | none => false
    | some index => sensorIsAvailable (s.sensors index).latest && (s.sensors index).latest.displayEnabled != enabled
  | .toggleDisplay sensorId => (toggleDisplay s sensorId).1
  | .reading .. | .getCurrent | .getHistoryMeta | .copyHistory .. => false

def PanelEvent.task : PanelEvent → DisplayTask
  | .device event => taskOf event
  | .copy task | .lock task | .write task _ => task

def Panel.locked (p : Panel cfg) : Bool := [DisplayTask.sampling,.host,.buttons].any fun task => (p.renders task).isDrawing

def Panel.progress (p : Panel cfg) (task : DisplayTask) (render : Render) : Panel cfg :=
  { p with renders := Function.update p.renders task render }

-- The display mutex is given back after the last row.
def nextRow (snapshot : CurrentSnapshot) (row : Fin sensorCount) : Render :=
  if inside : row.val + 1 < sensorCount then .drawing snapshot ⟨row.val + 1,inside⟩ else .idle

def panelStep (p : Panel cfg) : PanelEvent → Option (Panel cfg)
  | .device event =>
    match p.renders (taskOf event) with
    | .idle => some ({ p with device := step p.device event }.progress (taskOf event)
        (if demandsRender p.device event then .due else .idle))
    | _ => none
  | .copy task =>
    match p.renders task with
    | .due => some (p.progress task (.copied (currentSnapshot p.device)))
    | _ => none
  | .lock task =>
    match p.renders task with
    | .copied snapshot => if p.locked then none else some (p.progress task (.drawing snapshot 0))
    | _ => none
  | .write task failure =>
    match p.renders task with
    | .drawing snapshot row =>
      some ({ p with rows := Function.update p.rows row (failure.getD (lcdRow row (snapshot.sensors row))) }.progress task
        (nextRow snapshot row))
    | _ => none

-- What `local_display_init` writes.
def startingRows (row : Fin sensorCount) : List Char :=
  lineOf (if row = 0 then "Dual Thermometer" else "Starting sensors").toList

def panelStart (cfg : DeviceConfig) (bootId : UInt32) : Panel cfg := ⟨start cfg bootId,fun _ => .idle,startingRows⟩

variable {p next : Panel cfg}

theorem device_step {event : Event} (stepped : panelStep p (.device event) = some next) :
    p.renders (taskOf event) = .idle ∧ next = { p with device := step p.device event }.progress (taskOf event)
      (if demandsRender p.device event then .due else .idle) := by
  simp only [panelStep] at stepped
  split at stepped
  · cases stepped
    exact ⟨‹_›,rfl⟩
  · cases stepped

theorem copy_step {task : DisplayTask} (stepped : panelStep p (.copy task) = some next) :
    p.renders task = .due ∧ next = p.progress task (.copied (currentSnapshot p.device)) := by
  simp only [panelStep] at stepped
  split at stepped
  · cases stepped
    exact ⟨‹_›,rfl⟩
  · cases stepped

theorem lock_step {task : DisplayTask} (stepped : panelStep p (.lock task) = some next) :
    ∃ snapshot, p.renders task = .copied snapshot ∧ p.locked = false ∧ next = p.progress task (.drawing snapshot 0) := by
  simp only [panelStep] at stepped
  split at stepped
  case h_1 snapshot copied =>
    split at stepped
    case isTrue => cases stepped
    case isFalse free =>
      cases stepped
      exact ⟨snapshot,copied,by simpa using free,rfl⟩
  case h_2 => cases stepped

theorem write_step {task : DisplayTask} {failure : Option (List Char)} (stepped : panelStep p (.write task failure) = some next) :
    ∃ snapshot row, p.renders task = .drawing snapshot row ∧
      next = { p with rows := Function.update p.rows row (failure.getD (lcdRow row (snapshot.sensors row))) }.progress task
        (nextRow snapshot row) := by
  simp only [panelStep] at stepped
  split at stepped
  case h_1 snapshot row drawing =>
    cases stepped
    exact ⟨snapshot,row,drawing,rfl⟩
  case h_2 => cases stepped

@[simp] theorem progress_self (p : Panel cfg) (task : DisplayTask) (render : Render) :
    (p.progress task render).renders task = render := Function.update_self ..

theorem progress_other (p : Panel cfg) {task other : DisplayTask} (render : Render) (different : other ≠ task) :
    (p.progress task render).renders other = p.renders other := Function.update_of_ne different ..

theorem panelStep_other {event : PanelEvent} {task : DisplayTask} (stepped : panelStep p event = some next)
    (other : event.task ≠ task) : next.renders task = p.renders task := by
  cases event with
  | device event =>
    obtain ⟨_,rfl⟩ := device_step stepped
    exact progress_other _ _ (Ne.symm other)
  | copy actor =>
    obtain ⟨_,rfl⟩ := copy_step stepped
    exact progress_other _ _ (Ne.symm other)
  | lock actor =>
    obtain ⟨_,_,_,rfl⟩ := lock_step stepped
    exact progress_other _ _ (Ne.symm other)
  | write actor failure =>
    obtain ⟨_,_,_,rfl⟩ := write_step stepped
    exact progress_other _ _ (Ne.symm other)

theorem locked_iff : p.locked = true ↔ ∃ task, (p.renders task).isDrawing = true := by
  simp only [Panel.locked,List.any_cons,List.any_nil,Bool.or_false,Bool.or_eq_true]
  constructor
  · rintro (sampling | host | buttons)
    · exact ⟨_,sampling⟩
    · exact ⟨_,host⟩
    · exact ⟨_,buttons⟩
  · rintro ⟨task,drawing⟩
    cases task with
    | sampling => exact .inl drawing
    | host => exact .inr (.inl drawing)
    | buttons => exact .inr (.inr drawing)

theorem not_drawing (free : p.locked = false) (task : DisplayTask) : (p.renders task).isDrawing = false := by
  cases drawing : (p.renders task).isDrawing with
  | false => rfl
  | true =>
    rw [locked_iff.mpr ⟨task,drawing⟩] at free
    cases free

def Copied (trace : List (Panel cfg × PanelEvent)) (task : DisplayTask) (copying : Panel cfg) : Prop :=
  ∃ before middle, trace = before ++ (copying,.copy task) :: middle ∧ ∀ entry ∈ middle, entry.2.task ≠ task

-- The last that has begun to draw is a task, with a snapshot that it had copied; `drawn` is what happened since.
def Rendered (trace : List (Panel cfg × PanelEvent)) (task : DisplayTask) (copying : Panel cfg)
    (drawn : List (Panel cfg × PanelEvent)) : Prop :=
  ∃ before middle locking, trace = before ++ (copying,.copy task) :: (middle ++ (locking,.lock task) :: drawn) ∧
    (∀ entry ∈ middle, entry.2.task ≠ task) ∧ ∀ entry ∈ drawn, ∀ other, entry.2 ≠ .lock other

def FailedWrite (row : Fin sensorCount) (entry : Panel cfg × PanelEvent) : Prop :=
  ∃ task snapshot left, entry.1.renders task = .drawing snapshot row ∧ entry.2 = .write task (some left)

variable {trace drawn : List (Panel cfg × PanelEvent)} {task : DisplayTask} {copying : Panel cfg} {event : PanelEvent}

theorem Copied.snoc (copied : Copied trace task copying) (other : event.task ≠ task) : Copied (trace ++ [(p,event)]) task copying := by
  obtain ⟨before,middle,rfl,quiet⟩ := copied
  refine ⟨before,middle ++ [(p,event)],by simp,?_⟩
  intro entry member
  rcases List.mem_append.mp member with old | new
  · exact quiet entry old
  · cases List.mem_singleton.mp new
    exact other

theorem Copied.lock (copied : Copied trace task copying) : Rendered (trace ++ [(p,.lock task)]) task copying [] := by
  obtain ⟨before,middle,rfl,quiet⟩ := copied
  exact ⟨before,middle,p,by simp,quiet,fun entry member => absurd member List.not_mem_nil⟩

theorem Rendered.snoc (rendered : Rendered trace task copying drawn) (unlocking : ∀ other, event ≠ .lock other) :
    Rendered (trace ++ [(p,event)]) task copying (drawn ++ [(p,event)]) := by
  obtain ⟨before,middle,locking,rfl,quiet,since⟩ := rendered
  refine ⟨before,middle,locking,by simp,quiet,?_⟩
  intro entry member
  rcases List.mem_append.mp member with old | new
  · exact since entry old
  · cases List.mem_singleton.mp new
    exact unlocking

structure Shows (p : Panel cfg) (task : DisplayTask) (copying : Panel cfg) (drawn : List (Panel cfg × PanelEvent)) : Prop where
  alone : ∀ other, other ≠ task → (p.renders other).isDrawing = false
  snapshot : ∀ snapshot row, p.renders task = .drawing snapshot row → snapshot = currentSnapshot copying.device
  rows : ∀ i, (∀ snapshot row, p.renders task = .drawing snapshot row → i < row) → (∀ entry ∈ drawn, ¬ FailedWrite i entry) →
    p.rows i = lcdRow i (copying.device.sensors i).latest

structure Drawn (trace : List (Panel cfg × PanelEvent)) (p : Panel cfg) : Prop where
  copied : ∀ task snapshot, p.renders task = .copied snapshot →
    ∃ copying, Copied trace task copying ∧ snapshot = currentSnapshot copying.device
  shows : (∀ entry ∈ trace, ∀ task, entry.2 ≠ .lock task) ∧ p.rows = startingRows ∧ p.locked = false ∨
    ∃ task copying drawn, Rendered trace task copying drawn ∧ Shows p task copying drawn

theorem Drawn.undrawn (held : Drawn trace p) (rows : next.rows = p.rows)
    (same : ∀ task, (next.renders task).isDrawing = true ∨ (p.renders task).isDrawing = true → next.renders task = p.renders task)
    (unlocking : ∀ task, event ≠ .lock task) :
    (∀ entry ∈ trace ++ [(p,event)], ∀ task, entry.2 ≠ .lock task) ∧ next.rows = startingRows ∧ next.locked = false ∨
    ∃ task copying drawn, Rendered (trace ++ [(p,event)]) task copying drawn ∧ Shows next task copying drawn := by
  rcases held.shows with ⟨none,starting,free⟩ | ⟨task,copying,drawn,rendered,shown⟩
  · refine .inl ⟨?_,rows.trans starting,?_⟩
    · simp only [List.forall_mem_append,List.forall_mem_singleton]
      exact ⟨none,unlocking⟩
    · rw [Bool.eq_false_iff]
      intro locked
      obtain ⟨task,drawing⟩ := locked_iff.mp locked
      rw [same task (.inl drawing),not_drawing free] at drawing
      cases drawing
  · refine .inr ⟨task,copying,drawn ++ [(p,event)],rendered.snoc unlocking,?_,?_,?_⟩
    · intro other different
      rw [Bool.eq_false_iff]
      intro drawing
      rw [same other (.inl drawing),shown.alone other different] at drawing
      cases drawing
    · intro snapshot row drawing
      exact shown.snapshot snapshot row ((same task (.inl (by rw [drawing]; rfl))).symm.trans drawing)
    · intro i reached sound
      rw [rows]
      refine shown.rows i ?_ fun entry member => sound entry (List.mem_append_left _ member)
      intro snapshot row drawing
      exact reached snapshot row ((same task (.inr (by rw [drawing]; rfl))).trans drawing)

theorem Drawn.keep_copied (held : Drawn trace p) (stepped : panelStep p event = some next)
    (own : ∀ snapshot, next.renders event.task = .copied snapshot →
      ∃ copying, Copied (trace ++ [(p,event)]) event.task copying ∧ snapshot = currentSnapshot copying.device) :
    ∀ task snapshot, next.renders task = .copied snapshot →
      ∃ copying, Copied (trace ++ [(p,event)]) task copying ∧ snapshot = currentSnapshot copying.device := by
  intro task snapshot copied
  by_cases other : event.task = task
  · subst other
    exact own snapshot copied
  · obtain ⟨copying,old,same⟩ := held.copied task snapshot ((panelStep_other stepped other).symm.trans copied)
    exact ⟨copying,old.snoc other,same⟩

theorem undrawn_progress {device : State cfg} {task : DisplayTask} {render : Render} (before : (p.renders task).isDrawing = false)
    (after : render.isDrawing = false) :
    let next := { p with device := device }.progress task render
    ∀ other, (next.renders other).isDrawing = true ∨ (p.renders other).isDrawing = true → next.renders other = p.renders other := by
  intro next other drawing
  by_cases same : other = task
  · subst same
    have own : next.renders other = render := progress_self _ _ _
    rw [own,after,before] at drawing
    rcases drawing with impossible | impossible <;> cases impossible
  · exact progress_other _ _ same

theorem Drawn.device (held : Drawn trace p) {event : Event} (stepped : panelStep p (.device event) = some next) :
    Drawn (trace ++ [(p,.device event)]) next := by
  obtain ⟨idle,rfl⟩ := device_step stepped
  have calm : ∀ demanded : Bool, (if demanded then Render.due else .idle).isDrawing = false := by decide
  refine ⟨held.keep_copied stepped ?_,held.undrawn rfl (undrawn_progress (by rw [idle]; rfl) (calm _)) fun _ => by simp⟩
  intro snapshot copied
  have own : (if demandsRender p.device event then Render.due else .idle) = .copied snapshot :=
    (progress_self _ _ _).symm.trans copied
  split at own <;> cases own

theorem Drawn.copy (held : Drawn trace p) {task : DisplayTask} (stepped : panelStep p (.copy task) = some next) :
    Drawn (trace ++ [(p,.copy task)]) next := by
  obtain ⟨due,rfl⟩ := copy_step stepped
  refine ⟨held.keep_copied stepped ?_,held.undrawn rfl (undrawn_progress (by rw [due]; rfl) rfl) fun _ => by simp⟩
  intro snapshot copied
  have own : Render.copied (currentSnapshot p.device) = .copied snapshot := (progress_self _ _ _).symm.trans copied
  cases own
  exact ⟨p,⟨trace,[],rfl,fun entry member => absurd member List.not_mem_nil⟩,rfl⟩

theorem Drawn.lock (held : Drawn trace p) {task : DisplayTask} (stepped : panelStep p (.lock task) = some next) :
    Drawn (trace ++ [(p,.lock task)]) next := by
  obtain ⟨snapshot,copied,free,rfl⟩ := lock_step stepped
  obtain ⟨copying,old,same⟩ := held.copied task snapshot copied
  refine ⟨held.keep_copied stepped ?_,.inr ⟨task,copying,[],old.lock,?_,?_,?_⟩⟩
  · intro other copied
    cases (progress_self _ _ _).symm.trans copied
  · intro other different
    rw [progress_other _ _ different]
    exact not_drawing free other
  · intro drawn row drawing
    cases (progress_self _ _ _).symm.trans drawing
    exact same
  · intro i reached
    cases Nat.not_lt_zero _ (reached snapshot 0 (progress_self _ _ _))

theorem nextRow_reached {snapshot : CurrentSnapshot} {row i : Fin sensorCount}
    (reached : ∀ drawn later, nextRow snapshot row = .drawing drawn later → i < later) : i ≤ row := by
  by_cases inside : row.val + 1 < sensorCount
  · have before := reached snapshot ⟨row.val + 1,inside⟩ (dif_pos inside)
    exact Nat.le_of_lt_succ before
  · exact Nat.le_of_lt_succ (Nat.lt_of_lt_of_le i.isLt (Nat.le_of_not_lt inside))

theorem nextRow_snapshot {snapshot drawn : CurrentSnapshot} {row later : Fin sensorCount}
    (drawing : nextRow snapshot row = .drawing drawn later) : drawn = snapshot := by
  unfold nextRow at drawing
  split at drawing
  · cases drawing
    rfl
  · cases drawing

theorem Drawn.write (held : Drawn trace p) {task : DisplayTask} {failure : Option (List Char)}
    (stepped : panelStep p (.write task failure) = some next) : Drawn (trace ++ [(p,.write task failure)]) next := by
  obtain ⟨snapshot,row,drawing,rfl⟩ := write_step stepped
  refine ⟨held.keep_copied stepped ?_,?_⟩
  · intro other copied
    have own : nextRow snapshot row = .copied other := (progress_self _ _ _).symm.trans copied
    unfold nextRow at own
    split at own <;> cases own
  rcases held.shows with ⟨_,_,free⟩ | ⟨owner,copying,drawn,rendered,shown⟩
  · have idle := not_drawing free task
    rw [drawing] at idle
    cases idle
  have same : owner = task := by
    by_contra different
    have idle := shown.alone task (Ne.symm different)
    rw [drawing] at idle
    cases idle
  subst same
  refine .inr ⟨owner,copying,drawn ++ [_],rendered.snoc (fun _ => by simp),?_,?_,?_⟩
  · intro other different
    rw [progress_other _ _ different]
    exact shown.alone other different
  · intro later after drawn_on
    rw [nextRow_snapshot ((progress_self _ _ _).symm.trans drawn_on)]
    exact shown.snapshot snapshot row drawing
  · intro i reached sound
    have up_to : i ≤ row := nextRow_reached fun drawn later on => reached drawn later ((progress_self _ _ _).trans on)
    have earlier : ∀ entry ∈ drawn, ¬ FailedWrite i entry := fun entry member => sound entry (List.mem_append_left _ member)
    rcases Nat.lt_or_eq_of_le up_to with before | here
    · have kept := shown.rows i (fun other later on => by cases drawing.symm.trans on; exact before) earlier
      exact (Function.update_of_ne (Fin.ne_of_lt before) _ _).trans kept
    · cases Fin.ext here
      cases failure with
      | some left =>
        exact absurd ⟨owner,snapshot,left,drawing,rfl⟩ (sound _ (List.mem_append_right _ (List.mem_singleton.mpr rfl)))
      | none =>
        rw [shown.snapshot snapshot row drawing]
        exact Function.update_self ..

theorem Drawn.step (held : Drawn trace p) (stepped : panelStep p event = some next) : Drawn (trace ++ [(p,event)]) next := by
  cases event with
  | device event => exact held.device stepped
  | copy task => exact held.copy stepped
  | lock task => exact held.lock stepped
  | write task failure => exact held.write stepped

theorem run_drawn {bootId : UInt32} (path : Path panelStep anyStep (panelStart cfg bootId) trace p) : Drawn trace p := by
  refine path.history Drawn ⟨?_,.inl ⟨?_,rfl,rfl⟩⟩ ?_
  · rintro task snapshot copied
    cases copied
  · exact fun entry member => absurd member List.not_mem_nil
  · rintro trace p event next _ held _ stepped
    exact held.step stepped

-- Whatever the tasks do between a copy and its drawing: when nobody draws, the rows of the LCD are from one moment. They
-- are read as the state that the device was in when the last task that drew had copied it, or no task has drawn yet.
theorem lcd_of_one_moment {bootId : UInt32} (path : Path panelStep anyStep (panelStart cfg bootId) trace p)
    (free : p.locked = false) :
    (∀ entry ∈ trace, ∀ task, entry.2 ≠ .lock task) ∧ p.rows = startingRows ∨
    ∃ task copying drawn, Rendered trace task copying drawn ∧ ∀ i, (∀ entry ∈ drawn, ¬ FailedWrite i entry) →
      readRow (p.rows i) = (i.val + 1,shown (copying.device.sensors i).latest) := by
  rcases (run_drawn path).shows with ⟨none,starting,_⟩ | ⟨task,copying,drawn,rendered,shown⟩
  · exact .inl ⟨none,starting⟩
  · refine .inr ⟨task,copying,drawn,rendered,?_⟩
    intro i sound
    have reached : ∀ snapshot row, p.renders task = .drawing snapshot row → i < row := by
      intro snapshot row drawing
      have idle := not_drawing free task
      rw [drawing] at idle
      cases idle
    rw [shown.rows i reached sound]
    exact (readRow_lcdRow i _).2

-- The host switches sensor 1 on and draws that while the sampling task waits with a snapshot from before.
def overtakenDrawing : List PanelEvent :=
  [.device (.reading 0 ⟨true,2150⟩),.device .tick,.copy .sampling,.device (.setDisplay 1 true),.copy .host,.lock .host,
    .write .host none,.write .host none,.lock .sampling,.write .sampling none,.write .sampling none]

theorem lcd_of_one_moment_overtaken :
    ∃ trace p task copying drawn, Path panelStep anyStep (panelStart threeSlots 7) trace p ∧
      trace.map Prod.snd = overtakenDrawing ∧ Rendered trace task copying drawn ∧ readRow (p.rows 0) = (1,.off) ∧
      shown (p.device.sensors 0).latest = .on 2150 := by
  have ran : (Execution.run panelStep (panelStart threeSlots 7) overtakenDrawing).map
      (fun p => (p.locked,readRow (p.rows 0),shown (p.device.sensors 0).latest)) = some (false,(1,.off),.on 2150) := by decide
  obtain ⟨p,reached,ends⟩ := Option.map_eq_some_iff.mp ran
  obtain ⟨trace,path,taken⟩ := run_path reached
  simp only [Prod.mk.injEq] at ends
  obtain ⟨free,row,device⟩ := ends
  rcases lcd_of_one_moment path free with ⟨none,_⟩ | ⟨task,copying,drawn,rendered,_⟩
  · have locks : .lock .host ∈ trace.map Prod.snd := by simp [taken,overtakenDrawing]
    obtain ⟨entry,member,locked⟩ := List.mem_map.mp locks
    exact absurd locked (none entry member .host)
  · exact ⟨trace,p,task,copying,drawn,path,taken,rendered,row,device⟩

theorem last_split {α : Type} (kind : α → Prop) {before front rest back : List α} {one other : α}
    (same : before ++ one :: rest = front ++ other :: back) (first : kind one) (second : kind other)
    (none : ∀ entry ∈ rest, ¬ kind entry) (nor : ∀ entry ∈ back, ¬ kind entry) : before = front ∧ one = other ∧ rest = back := by
  rcases List.append_eq_append_iff.mp same with ⟨between,longer,shorter⟩ | ⟨between,longer,shorter⟩
  · rcases between with _ | ⟨entry,between⟩
    · cases shorter
      exact ⟨by simpa using longer.symm,rfl,rfl⟩
    · obtain ⟨rfl,tail⟩ := List.cons.inj shorter
      exact absurd second (none other (by simp [tail]))
  · rcases between with _ | ⟨entry,between⟩
    · cases shorter
      exact ⟨by simpa using longer,rfl,rfl⟩
    · obtain ⟨rfl,tail⟩ := List.cons.inj shorter
      exact absurd first (nor one (by simp [tail]))

theorem Rendered.last_copy {trace drawn before middle since : List (Panel cfg × PanelEvent)} {task last : DisplayTask}
    {copying copied locking : Panel cfg} (rendered : Rendered trace task copying drawn)
    (recorded : trace = before ++ (copied,.copy last) :: (middle ++ (locking,.lock last) :: since))
    (no_copy : ∀ entry ∈ middle, ∀ other, entry.2 ≠ .copy other) (no_lock : ∀ entry ∈ since, ∀ other, entry.2 ≠ .lock other) :
    task = last ∧ copying = copied ∧ drawn = since := by
  obtain ⟨earlier,between,lock,split,quiet,unlocked⟩ := rendered
  rw [recorded,← List.cons_append,← List.append_assoc,← List.cons_append,← List.append_assoc] at split
  obtain ⟨parts,locks,rest⟩ := last_split (fun entry => ∃ other, entry.2 = .lock other) split ⟨last,rfl⟩ ⟨task,rfl⟩
    (fun entry member ⟨other,is_lock⟩ => no_lock entry member other is_lock)
    (fun entry member ⟨other,is_lock⟩ => unlocked entry member other is_lock)
  cases locks
  obtain ⟨-,copies,-⟩ := last_split (fun entry => entry.2 = .copy task) parts rfl rfl
    (fun entry member => no_copy entry member task) fun entry member is_copy => quiet entry member (by rw [is_copy]; rfl)
  cases copies
  exact ⟨rfl,rfl,rest.symm⟩

theorem setEnabled_unchanged {s : State cfg} {index : Fin sensorCount} {enabled : Bool}
    (same : (s.sensors index).latest.displayEnabled = enabled) : setEnabled s index enabled = s := by
  have sensors : (setEnabled s index enabled).sensors = s.sensors := by
    subst same
    exact Function.update_eq_self index s.sensors
  exact congrArg (fun sensors => { s with sensors := sensors }) sensors

theorem step_undemanded {s : State cfg} {event : Event} (undemanded : demandsRender s event = false) (i : Fin sensorCount) :
    ((step s event).sensors i).latest.displayEnabled = (s.sensors i).latest.displayEnabled ∧
    ((∀ reading, event ≠ .reading i reading) → ((step s event).sensors i).latest = (s.sensors i).latest) := by
  cases event with
  | tick => cases undemanded
  | getCurrent | getHistoryMeta | copyHistory => exact ⟨rfl,fun _ => rfl⟩
  | reading index reading =>
    by_cases same : i = index
    · subst same
      refine ⟨?_,fun other => absurd rfl (other reading)⟩
      have read : (step s (.reading i reading)).sensors i = applySensorReading (s.sensors i) reading := Function.update_self ..
      rw [read]
      exact reading_display _ _
    · have kept : (step s (.reading index reading)).sensors i = s.sensors i := Function.update_of_ne same _ _
      rw [kept]
      exact ⟨rfl,fun _ => rfl⟩
  | setDisplay sensorId enabled =>
    have same : step s (.setDisplay sensorId enabled) = s := by
      simp only [demandsRender] at undemanded
      simp only [step,setDisplay]
      split
      case h_1 => rfl
      case h_2 index known =>
        rw [known] at undemanded
        dsimp only at undemanded ⊢
        split
        case isTrue available =>
          rw [available,Bool.true_and] at undemanded
          exact setEnabled_unchanged (by simpa using undemanded)
        case isFalse => rfl
    rw [same]
    exact ⟨rfl,fun _ => rfl⟩
  | toggleDisplay sensorId =>
    have same : step s (.toggleDisplay sensorId) = s := by
      simp only [demandsRender,toggleDisplay] at undemanded
      simp only [step,toggleDisplay]
      split
      case h_1 => rfl
      case h_2 index known =>
        rw [known] at undemanded
        dsimp only at undemanded
        split
        case isTrue available =>
          rw [if_pos available] at undemanded
          cases undemanded
        case isFalse => rfl
    rw [same]
    exact ⟨rfl,fun _ => rfl⟩

theorem step_due {event : PanelEvent} {task : DisplayTask} (stepped : panelStep p event = some next)
    (no_copy : ∀ other, event ≠ .copy other) (due : p.renders task = .due) : next.renders task = .due := by
  by_cases other : event.task = task
  · cases event with
    | device event =>
      obtain ⟨idle,_⟩ := device_step stepped
      rw [← other] at due
      cases due.symm.trans idle
    | copy actor => exact absurd rfl (no_copy actor)
    | lock actor =>
      obtain ⟨_,copied,_⟩ := lock_step stepped
      rw [← other] at due
      cases due.symm.trans copied
    | write actor failure =>
      obtain ⟨_,_,drawing,_⟩ := write_step stepped
      rw [← other] at due
      cases due.symm.trans drawing
  · exact (panelStep_other stepped other).trans due

theorem step_demand {event : PanelEvent} (stepped : panelStep p event = some next) (no_copy : ∀ other, event ≠ .copy other) :
    (∃ task, next.renders task = .due) ∨ ∀ i,
      (next.device.sensors i).latest.displayEnabled = (p.device.sensors i).latest.displayEnabled ∧
      ((∀ reading, event ≠ .device (.reading i reading)) → (next.device.sensors i).latest = (p.device.sensors i).latest) := by
  cases event with
  | device event =>
    obtain ⟨_,rfl⟩ := device_step stepped
    cases demanded : demandsRender p.device event with
    | true => exact .inl ⟨taskOf event,progress_self _ _ _⟩
    | false =>
      refine .inr fun i => ?_
      obtain ⟨enabled,latest⟩ := step_undemanded demanded i
      exact ⟨enabled,fun other => latest fun reading same => other reading (congrArg _ same)⟩
  | copy task => exact absurd rfl (no_copy task)
  | lock task =>
    obtain ⟨_,_,_,rfl⟩ := lock_step stepped
    exact .inr fun i => ⟨rfl,fun _ => rfl⟩
  | write task failure =>
    obtain ⟨_,_,_,rfl⟩ := write_step stepped
    exact .inr fun i => ⟨rfl,fun _ => rfl⟩

def noCopy (_ : Panel cfg) (event : PanelEvent) : Prop := ∀ task, event ≠ .copy task

theorem run_demand {first s : Panel cfg} {rest : List (Panel cfg × PanelEvent)} (path : Path panelStep noCopy first rest s) :
    (∃ task, s.renders task = .due) ∨ ∀ i,
      (s.device.sensors i).latest.displayEnabled = (first.device.sensors i).latest.displayEnabled ∧
      ((∀ entry ∈ rest, ∀ reading, entry.2 ≠ .device (.reading i reading)) →
        (s.device.sensors i).latest = (first.device.sensors i).latest) := by
  induction path with
  | nil => exact .inr fun i => ⟨rfl,fun _ => rfl⟩
  | @snoc rest s event next _ no_copy stepped ih =>
    rcases ih with ⟨task,due⟩ | before
    · exact .inl ⟨task,step_due stepped no_copy due⟩
    rcases step_demand stepped no_copy with due | after
    · exact .inl due
    refine .inr fun i => ⟨(after i).1.trans (before i).1,fun unread => ?_⟩
    simp only [List.forall_mem_append,List.forall_mem_singleton] at unread
    exact ((after i).2 unread.2).trans ((before i).2 unread.1)

-- When every task is through with its drawing, and the last to lock was the last to copy, each row shows its sensor as
-- it is now, up to readings that came after the copy: those never touch the display switch. Other tasks may draw older
-- snapshots in between.
theorem quiet_lcd_current {bootId : UInt32} {trace before middle drawn : List (Panel cfg × PanelEvent)}
    {copied locking : Panel cfg} {last : DisplayTask} (path : Path panelStep anyStep (panelStart cfg bootId) trace p)
    (recorded : trace = before ++ (copied,.copy last) :: (middle ++ (locking,.lock last) :: drawn))
    (no_copy : ∀ entry ∈ middle ++ drawn, ∀ other, entry.2 ≠ .copy other)
    (no_lock : ∀ entry ∈ drawn, ∀ other, entry.2 ≠ .lock other) (quiet : ∀ task, p.renders task = .idle)
    (i : Fin sensorCount) (sound : ∀ entry ∈ drawn, ¬ FailedWrite i entry) :
    (copied.device.sensors i).latest.displayEnabled = (p.device.sensors i).latest.displayEnabled ∧
    readRow (p.rows i) = (i.val + 1,shown (copied.device.sensors i).latest) ∧
    ((∀ entry ∈ middle ++ drawn, ∀ reading, entry.2 ≠ .device (.reading i reading)) →
      readRow (p.rows i) = (i.val + 1,shown (p.device.sensors i).latest)) := by
  have row : p.rows i = lcdRow i (copied.device.sensors i).latest := by
    rcases (run_drawn path).shows with ⟨none,_,_⟩ | ⟨task,copying,since,rendered,shown⟩
    · exact absurd rfl (none (locking,.lock last) (by rw [recorded]; simp) last)
    · obtain ⟨rfl,rfl,rfl⟩ := rendered.last_copy recorded (fun entry member => no_copy entry (List.mem_append_left _ member)) no_lock
      refine shown.rows i ?_ sound
      intro snapshot row drawing
      cases (quiet task).symm.trans drawing
  obtain ⟨next,stepped,after⟩ := path.after recorded
  obtain ⟨_,rfl⟩ := copy_step stepped
  have others : ∀ entry ∈ middle ++ (locking,.lock last) :: drawn, entry.2 = .lock last ∨ entry ∈ middle ++ drawn := by
    intro entry member
    rcases List.mem_append.mp member with old | new
    · exact .inr (List.mem_append_left _ old)
    · rcases List.mem_cons.mp new with rfl | later
      · exact .inl rfl
      · exact .inr (List.mem_append_right _ later)
  have kept : Path panelStep noCopy (copied.progress last (.copied (currentSnapshot copied.device)))
      (middle ++ (locking,.lock last) :: drawn) p := by
    refine after.recorded.weaken ?_
    intro _ _ taken other copies
    rcases others _ taken.2 with lock | member
    · cases lock.symm.trans copies
    · exact no_copy _ member other copies
  rcases run_demand kept with ⟨task,due⟩ | same
  · cases (quiet task).symm.trans due
  · refine ⟨(same i).1.symm,?_,?_⟩
    · rw [row]
      exact (readRow_lcdRow i _).2
    · intro unread
      have latest : (p.device.sensors i).latest = (copied.device.sensors i).latest := by
        refine (same i).2 ?_
        intro entry member reading reads
        rcases others entry member with lock | member
        · cases lock.symm.trans reads
        · exact unread entry member reading reads
      rw [row,latest]
      exact (readRow_lcdRow i _).2

-- A display is switched on and copied while the sampling task waits with a snapshot from before; that is drawn first.
theorem quiet_lcd_current_switched_on :
    ∃ trace, ∃ p : Panel threeSlots, Path panelStep anyStep (panelStart threeSlots 7) trace p ∧
      (p.device.sensors 0).latest.displayEnabled = true ∧ readRow (p.rows 0) = (1,shown (p.device.sensors 0).latest) := by
  obtain ⟨demanding,demanded,waiting,copied,unlocked,other,locked,taken,p,drawn,enabled,quiet⟩ : ∃ demanding,
      Execution.run panelStep (panelStart threeSlots 7) [.device (.reading 0 ⟨true,2150⟩),.device .tick,.copy .sampling,
        .device (.setDisplay 1 true)] = some demanding ∧ ∃ waiting, panelStep demanding (.copy .host) = some waiting ∧
      ∃ unlocked, Execution.run panelStep waiting [.lock .sampling,.write .sampling none,.write .sampling none] =
        some unlocked ∧ ∃ locked, panelStep unlocked (.lock .host) = some locked ∧
      ∃ p, Execution.run panelStep locked [.write .host none,.write .host none] = some p ∧
        (p.device.sensors 0).latest.displayEnabled = true ∧ ∀ task, p.renders task = .idle :=
    ⟨_,rfl,_,rfl,_,rfl,_,rfl,_,rfl,rfl,fun task => by cases task <;> rfl⟩
  obtain ⟨before,switched,_⟩ := run_path demanded
  obtain ⟨middle,drawing,early⟩ := run_path other
  obtain ⟨rest,after,late⟩ := run_path drawn
  have whole := (((switched.snoc trivial copied).append drawing).snoc trivial taken).append after
  have recorded : before ++ [(demanding,.copy .host)] ++ middle ++ [(unlocked,.lock .host)] ++ rest =
      before ++ (demanding,.copy .host) :: (middle ++ (unlocked,.lock .host) :: rest) := by simp
  have events : ∀ entry ∈ middle ++ rest,
      entry.2 = .lock .sampling ∨ entry.2 = .write .sampling none ∨ entry.2 = .write .host none := by
    intro entry member
    have listed : entry.2 ∈ (middle ++ rest).map Prod.snd := List.mem_map_of_mem member
    rw [List.map_append,early,late] at listed
    simp at listed
    tauto
  have written : ∀ entry ∈ rest, entry.2 = .write .host none := by
    intro entry member
    have listed : entry.2 ∈ rest.map Prod.snd := List.mem_map_of_mem member
    rw [late] at listed
    simpa using listed
  refine ⟨_,p,whole,enabled,?_⟩
  refine (quiet_lcd_current whole recorded ?_ ?_ quiet 0 ?_).2.2 ?_
  · intro entry member other copies
    rcases events entry member with same | same | same <;> cases same.symm.trans copies
  · intro entry member other locks
    cases (written entry member).symm.trans locks
  · rintro entry member ⟨task,snapshot,left,_,failed⟩
    cases (written entry member).symm.trans failed
  · intro entry member reading reads
    rcases events entry member with same | same | same <;> cases same.symm.trans reads

end Thermometer.Firmware
