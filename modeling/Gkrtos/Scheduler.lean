import Mathlib.Data.List.Rotate
import Gkrtos.ListRefinement
import Gkrtos.System

/-! What the kernel is for, without pointers, locks or faults: a task table, a
ring of tasks that take turns, a queue of sleeping tasks, and the one slot that
holds the task to switch to. Each operation says what the code of the same name
does to these when nothing goes wrong. The kernel is shown to do the same, and
properties of runs are proved here. -/
namespace Gkrtos
open PicoSdk ListRefinement

structure Scheduler where
  table : TaskPtr → Task
  /-- The unscheduled queue in head order. -/
  ring : List TaskPtr
  /-- The scheduled queue in head order. -/
  sleepers : List TaskPtr
  maxPid : Pid
  running : Pid
  queued : Pid
  /-- PendSV is pending. -/
  requested : Bool
  /-- PendSV has been taken, its handler has not looked at the queue yet. -/
  taken : Bool
  trace : List Event

namespace Scheduler

def deadline (s : Scheduler) (task : TaskPtr) : AbsoluteTime := (s.table task).nextRunTime

def pid (s : Scheduler) (task : TaskPtr) : Pid := (s.table task).pid

def status (s : Scheduler) (task : TaskPtr) : TaskStatus := (s.table task).taskStatus

def change (s : Scheduler) (task : TaskPtr) (f : Task → Task) : Scheduler :=
  { s with table := Function.update s.table task (f (s.table task)) }

def setDeadline (s : Scheduler) (task : TaskPtr) (deadline : AbsoluteTime) : Scheduler :=
  s.change task fun record => { record with nextRunTime := deadline }

def complete (s : Scheduler) (task : TaskPtr) : Scheduler :=
  s.change task fun record => { record with taskStatus := .complete }

section Change

variable (s : Scheduler) (task other : TaskPtr) (f : Task → Task)

/-- A change to one table entry leaves everything else alone. -/
@[simp] theorem change_fields : (s.change task f).ring = s.ring ∧
    (s.change task f).sleepers = s.sleepers ∧ (s.change task f).maxPid = s.maxPid ∧
    (s.change task f).running = s.running ∧ (s.change task f).queued = s.queued ∧
    (s.change task f).requested = s.requested ∧ (s.change task f).taken = s.taken ∧
    (s.change task f).trace = s.trace :=
  ⟨rfl, rfl, rfl, rfl, rfl, rfl, rfl, rfl⟩

theorem change_table :
    (s.change task f).table other = if other = task then f (s.table task) else s.table other := by
  by_cases same : other = task
  · subst same
    simp [change]
  · simp [change, same]

theorem change_deadline : (s.change task f).deadline other =
    if other = task then (f (s.table task)).nextRunTime else s.deadline other := by
  rw [deadline, change_table]
  split <;> rfl

theorem change_pid : (s.change task f).pid other =
    if other = task then (f (s.table task)).pid else s.pid other := by
  rw [pid, change_table]
  split <;> rfl

theorem change_status : (s.change task f).status other =
    if other = task then (f (s.table task)).taskStatus else s.status other := by
  rw [status, change_table]
  split <;> rfl

theorem change_change (g : Task → Task) :
    (s.change task f).change task g = s.change task (g ∘ f) := by
  simp [change]

/-- A change that keeps all pids, such as one to any other field. -/
theorem change_pid_eq (same : (f (s.table task)).pid = s.pid task) :
    (s.change task f).pid = s.pid := by
  funext other
  rw [change_pid]
  split_ifs with equal
  · rw [equal, same]
  · rfl

theorem change_deadline_eq (same : (f (s.table task)).nextRunTime = s.deadline task) :
    (s.change task f).deadline = s.deadline := by
  funext other
  rw [change_deadline]
  split_ifs with equal
  · rw [equal, same]
  · rfl

theorem change_status_eq (same : (f (s.table task)).taskStatus = s.status task) :
    (s.change task f).status = s.status := by
  funext other
  rw [change_status]
  split_ifs with equal
  · rw [equal, same]
  · rfl

end Change

@[simp] theorem setDeadline_fields (s : Scheduler) (task : TaskPtr) (deadline : AbsoluteTime) :
    (s.setDeadline task deadline).ring = s.ring ∧
      (s.setDeadline task deadline).sleepers = s.sleepers ∧
      (s.setDeadline task deadline).maxPid = s.maxPid ∧
      (s.setDeadline task deadline).running = s.running ∧
      (s.setDeadline task deadline).queued = s.queued ∧
      (s.setDeadline task deadline).requested = s.requested ∧
      (s.setDeadline task deadline).taken = s.taken ∧
      (s.setDeadline task deadline).trace = s.trace :=
  ⟨rfl, rfl, rfl, rfl, rfl, rfl, rfl, rfl⟩

@[simp] theorem setDeadline_pid (s : Scheduler) (task : TaskPtr) (deadline : AbsoluteTime) :
    (s.setDeadline task deadline).pid = s.pid :=
  change_pid_eq _ _ _ rfl

@[simp] theorem setDeadline_status (s : Scheduler) (task : TaskPtr) (deadline : AbsoluteTime) :
    (s.setDeadline task deadline).status = s.status :=
  change_status_eq _ _ _ rfl

theorem setDeadline_deadline (s : Scheduler) (task other : TaskPtr) (deadline : AbsoluteTime) :
    (s.setDeadline task deadline).deadline other =
      if other = task then deadline else s.deadline other :=
  change_deadline s task other _

@[simp] theorem complete_fields (s : Scheduler) (task : TaskPtr) :
    (s.complete task).ring = s.ring ∧ (s.complete task).sleepers = s.sleepers ∧
      (s.complete task).maxPid = s.maxPid ∧ (s.complete task).running = s.running ∧
      (s.complete task).queued = s.queued ∧ (s.complete task).requested = s.requested ∧
      (s.complete task).taken = s.taken ∧ (s.complete task).trace = s.trace ∧
      (s.complete task).pid = s.pid ∧ (s.complete task).deadline = s.deadline :=
  ⟨rfl, rfl, rfl, rfl, rfl, rfl, rfl, rfl, change_pid_eq _ _ _ rfl, change_deadline_eq _ _ _ rfl⟩

def dequeue (s : Scheduler) (task : TaskPtr) : Scheduler :=
  if s.deadline task = nilTime then { s with ring := s.ring.erase task }
  else { s with sleepers := s.sleepers.erase task }

theorem dequeue_awake {s : Scheduler} {task : TaskPtr} (awake : s.deadline task = nilTime) :
    s.dequeue task = { s with ring := s.ring.erase task } :=
  if_pos awake

theorem dequeue_asleep {s : Scheduler} {task : TaskPtr} (asleep : s.deadline task ≠ nilTime) :
    s.dequeue task = { s with sleepers := s.sleepers.erase task } :=
  if_neg asleep

/-- Taking a task out of its queue changes nothing but that queue. -/
@[simp] theorem dequeue_fields (s : Scheduler) (task : TaskPtr) :
    (s.dequeue task).table = s.table ∧ (s.dequeue task).maxPid = s.maxPid ∧
      (s.dequeue task).running = s.running ∧ (s.dequeue task).queued = s.queued ∧
      (s.dequeue task).requested = s.requested ∧ (s.dequeue task).taken = s.taken ∧
      (s.dequeue task).trace = s.trace := by
  unfold dequeue
  split <;> simp

/-- A context switch to the task is asked for, unless it is running. -/
def request (s : Scheduler) (task : TaskPtr) : Scheduler :=
  { s with queued := s.pid task, requested := s.requested || s.running != s.pid task }

/-- Asking for a switch writes the slot only. -/
@[simp] theorem request_fields (s : Scheduler) (task : TaskPtr) :
    (s.request task).table = s.table ∧ (s.request task).ring = s.ring ∧
      (s.request task).sleepers = s.sleepers ∧ (s.request task).maxPid = s.maxPid ∧
      (s.request task).running = s.running ∧ (s.request task).queued = s.pid task ∧
      (s.request task).taken = s.taken ∧ (s.request task).trace = s.trace ∧
      (s.request task).requested = (s.requested || s.running != s.pid task) ∧
      (s.request task).pid = s.pid ∧ (s.request task).status = s.status :=
  ⟨rfl, rfl, rfl, rfl, rfl, rfl, rfl, rfl, rfl, rfl, rfl⟩

/-- The table entry of the task that is switched out. -/
def stopped (stackptr : Word) (now : AbsoluteTime) (task : Task) : Task :=
  if task.taskStatus = .running then
    { task with
      stackptr
      accounting := { task.accounting with
        runTicks := task.accounting.runTicks + (now - task.accounting.ctxSwitchTime) / 1000 }
      taskStatus := .sleeping }
  else { task with stackptr }

/-- The table entry of the task that is switched in. -/
def resumed (now : AbsoluteTime) (task : Task) : Task :=
  { task with
    accounting := { task.accounting with ctxSwitchTime := now }
    taskStatus := .running }

/-- The bookkeeping of a switch from the running task to the queued one. -/
def contextSwitch (s : Scheduler) (stackptr : Word) (now now' : AbsoluteTime) : Scheduler :=
  { (s.change s.running (stopped stackptr now)).change s.queued (resumed now') with
    running := s.pid s.queued }

/-- A switch rewrites neither pids nor deadlines. -/
theorem contextSwitch_pid_deadline (s : Scheduler) (stackptr : Word) (now now' : AbsoluteTime) :
    (s.contextSwitch stackptr now now').pid = s.pid ∧
      (s.contextSwitch stackptr now now').deadline = s.deadline := by
  have kept : ∀ task, (stopped stackptr now task).pid = task.pid ∧
      (stopped stackptr now task).nextRunTime = task.nextRunTime := by
    intro task
    unfold stopped
    split <;> exact ⟨rfl, rfl⟩
  have pids := change_pid_eq s s.running (stopped stackptr now) (kept _).1
  have deadlines := change_deadline_eq s s.running (stopped stackptr now) (kept _).2
  constructor
  · exact (change_pid_eq _ s.queued (resumed now') rfl).trans pids
  · exact (change_deadline_eq _ s.queued (resumed now') rfl).trans deadlines

def pendsv (s : Scheduler) (stackptr : Word) (now now' : AbsoluteTime) : Scheduler :=
  if s.queued = s.pid s.running then s
  else
    let switched := s.contextSwitch stackptr now now'
    { switched with trace := switched.trace ++ [.dispatched switched.running] }

/-- A switch chooses nobody. -/
theorem not_selected_pendsv {s : Scheduler} {stackptr : Word} {now now' time : AbsoluteTime}
    {task : TaskPtr} {woken : Bool} (quiet : s.trace = []) :
    Event.selected task time woken ∉ (s.pendsv stackptr now now').trace := by
  intro member
  unfold pendsv at member
  split_ifs at member
  · rw [quiet] at member
    exact List.not_mem_nil member
  · simp [contextSwitch, quiet] at member

section Operations

variable [PicoSdk]

/-- The task's deadline is less than a systick period after `now`. -/
def IsDue (s : Scheduler) (now : AbsoluteTime) (task : TaskPtr) : Prop :=
  0 < absoluteTimeDiffUs (s.deadline task) (makeTimeoutTimeUs now getSystickPeriod)

instance (s : Scheduler) (now : AbsoluteTime) (task : TaskPtr) : Decidable (s.IsDue now task) :=
  inferInstanceAs (Decidable (_ < _))

/-- While times are below the end of time, a task is due when its deadline is
before the next SysTick. -/
theorem isDue_iff {s : Scheduler} {now : AbsoluteTime} {task : TaskPtr}
    (nowSmall : now.toNat + 1000 < 2 ^ 63) (small : (s.deadline task).toNat < 2 ^ 63) :
    s.IsDue now task ↔ (s.deadline task).toNat < now.toNat + 1000 := by
  have period : getSystickPeriod.toNat = 1000 := by decide
  have timeout : (makeTimeoutTimeUs now getSystickPeriod).toNat = now.toNat + 1000 := by
    rw [makeTimeoutTimeUs_toNat (by omega), period]
  rw [IsDue, diff_pos_iff small (by omega), timeout]

/-- The head of the scheduled queue, if its time has come. -/
def due (s : Scheduler) (now : AbsoluteTime) : Option TaskPtr :=
  s.sleepers.head?.filter fun first => s.IsDue now first

/-- The task that is to run next: a due sleeper, or else the next in turn. -/
def choice (s : Scheduler) (now : AbsoluteTime) : TaskPtr :=
  (s.due now).getD ((s.ring.rotate 1).headD 0)

/-- What choosing the next task does to the queues. -/
def select (s : Scheduler) (now : AbsoluteTime) : Scheduler :=
  match s.due now with
  | some first =>
    { s.setDeadline first nilTime with
      sleepers := s.sleepers.erase first
      ring := s.ring ++ [first]
      trace := s.trace ++ [.selected first now true] }
  | none =>
    { s with
      ring := s.ring.rotate 1
      trace := s.trace ++ [.selected (s.choice now) now false] }

/-- There is a task to choose: one that is due, or one that is awake. -/
def Choosable (s : Scheduler) (now : AbsoluteTime) : Prop := s.due now = none → s.ring ≠ []

theorem due_eq_some {s : Scheduler} {now : AbsoluteTime} {first : TaskPtr} :
    s.due now = some first ↔ s.sleepers.head? = some first ∧ s.IsDue now first := by
  simp [due, Option.filter_eq_some_iff]

theorem due_eq_none {s : Scheduler} {now : AbsoluteTime} :
    s.due now = none ↔ ∀ first ∈ s.sleepers.head?, ¬ s.IsDue now first := by
  simp [due, Option.filter_eq_none_iff]

theorem choice_due {s : Scheduler} {now : AbsoluteTime} {first : TaskPtr}
    (due : s.due now = some first) : s.choice now = first := by
  simp [choice, due]

theorem choice_idle {s : Scheduler} {now : AbsoluteTime} (idle : s.due now = none) :
    s.choice now = (s.ring.rotate 1).headD 0 := by
  simp [choice, idle]

/-- The turn of the ring brings up its second task. -/
theorem choice_second {s : Scheduler} {now : AbsoluteTime} {task : TaskPtr} (idle : s.due now = none)
    (second : s.ring[1]? = some task) : s.choice now = task := by
  rw [choice_idle idle]
  rcases shape : s.ring with _ | ⟨first, _ | ⟨next, rest⟩⟩
  · simp [shape] at second
  · simp [shape] at second
  · simpa [shape] using second

theorem select_due {s : Scheduler} {now : AbsoluteTime} {first : TaskPtr}
    (due : s.due now = some first) :
    s.select now = { s.setDeadline first nilTime with
      sleepers := s.sleepers.erase first
      ring := s.ring ++ [first]
      trace := s.trace ++ [.selected first now true] } := by
  simp [select, due]

theorem select_idle {s : Scheduler} {now : AbsoluteTime} (idle : s.due now = none) :
    s.select now = { s with
      ring := s.ring.rotate 1
      trace := s.trace ++ [.selected (s.choice now) now false] } := by
  simp [select, idle]

/-- Choosing a task changes no more than the queues, the deadline of a woken
task and the trace. -/
@[simp] theorem select_fields (s : Scheduler) (now : AbsoluteTime) :
    (s.select now).maxPid = s.maxPid ∧ (s.select now).running = s.running ∧
      (s.select now).queued = s.queued ∧ (s.select now).requested = s.requested ∧
      (s.select now).taken = s.taken ∧ (s.select now).pid = s.pid ∧
      (s.select now).status = s.status := by
  cases due : s.due now with
  | none =>
    rw [select_idle due]
    exact ⟨rfl, rfl, rfl, rfl, rfl, rfl, rfl⟩
  | some first =>
    rw [select_due due]
    exact ⟨rfl, rfl, rfl, rfl, rfl, setDeadline_pid s first nilTime,
      setDeadline_status s first nilTime⟩

theorem select_deadline (s : Scheduler) (now : AbsoluteTime) (task : TaskPtr) :
    (s.select now).deadline task = if s.due now = some task then nilTime else s.deadline task := by
  cases due : s.due now with
  | none =>
    rw [select_idle due]
    simp [deadline]
  | some first =>
    rw [select_due due]
    have changed := setDeadline_deadline s first task nilTime
    grind [deadline]

/-- It is recorded what was chosen. -/
theorem select_trace (s : Scheduler) (now : AbsoluteTime) :
    (s.select now).trace = s.trace ++ [.selected (s.choice now) now (s.due now).isSome] := by
  cases due : s.due now with
  | none => rw [select_idle due]; rfl
  | some first =>
    rw [select_due due, choice_due due]
    rfl

/-- The task goes in front of the scheduled queue. -/
def GoesFirst (s : Scheduler) (task : TaskPtr) : Prop :=
  ∃ first ∈ s.sleepers.head?, absoluteTimeDiffUs (s.deadline first) (s.deadline task) < 0

instance (s : Scheduler) (task : TaskPtr) : Decidable (s.GoesFirst task) :=
  inferInstanceAs (Decidable (∃ _ ∈ _, _))

def enqueue (s : Scheduler) (task : TaskPtr) (read : ItemsAsTasks) : Scheduler :=
  if s.deadline task = nilTime then { s with ring := insertSecond task s.ring }
  else if s.GoesFirst task then { s with sleepers := task :: s.sleepers }
  else { s with sleepers := insertBehind (queueSort (s.table task) read) task s.sleepers }

theorem enqueue_awake {s : Scheduler} {task : TaskPtr} (awake : s.deadline task = nilTime)
    (read : ItemsAsTasks) : s.enqueue task read = { s with ring := insertSecond task s.ring } :=
  if_pos awake

theorem enqueue_first {s : Scheduler} {task : TaskPtr} (asleep : s.deadline task ≠ nilTime)
    (goesFirst : s.GoesFirst task) (read : ItemsAsTasks) :
    s.enqueue task read = { s with sleepers := task :: s.sleepers } := by
  rw [enqueue, if_neg asleep, if_pos goesFirst]

theorem enqueue_behind {s : Scheduler} {task : TaskPtr} (asleep : s.deadline task ≠ nilTime)
    (goesBehind : ¬ s.GoesFirst task) (read : ItemsAsTasks) :
    s.enqueue task read =
      { s with sleepers := insertBehind (queueSort (s.table task) read) task s.sleepers } := by
  rw [enqueue, if_neg asleep, if_neg goesBehind]

/-- Putting a task into its queue changes nothing but that queue. -/
@[simp] theorem enqueue_fields (s : Scheduler) (task : TaskPtr) (read : ItemsAsTasks) :
    (s.enqueue task read).table = s.table ∧ (s.enqueue task read).maxPid = s.maxPid ∧
      (s.enqueue task read).running = s.running ∧ (s.enqueue task read).queued = s.queued ∧
      (s.enqueue task read).requested = s.requested ∧ (s.enqueue task read).taken = s.taken ∧
      (s.enqueue task read).trace = s.trace := by
  unfold enqueue
  split
  · simp
  · split <;> simp

def yield (s : Scheduler) (now : AbsoluteTime) : Scheduler :=
  (s.select now).request (s.choice now)

/-- The choice is put into the slot. -/
@[simp] theorem yield_fields (s : Scheduler) (now : AbsoluteTime) :
    (s.yield now).maxPid = s.maxPid ∧ (s.yield now).running = s.running ∧
      (s.yield now).queued = s.pid (s.choice now) ∧
      (s.yield now).requested = (s.requested || s.running != s.pid (s.choice now)) ∧
      (s.yield now).taken = s.taken ∧ (s.yield now).pid = s.pid ∧
      (s.yield now).status = s.status ∧ (s.yield now).ring = (s.select now).ring ∧
      (s.yield now).sleepers = (s.select now).sleepers ∧
      (s.yield now).deadline = (s.select now).deadline ∧
      (s.yield now).trace = s.trace ++ [.selected (s.choice now) now (s.due now).isSome] := by
  obtain ⟨maxPid, running, -, requested, taken, pid, status⟩ := select_fields s now
  exact ⟨maxPid, running, congrFun pid _, by rw [yield, request, pid, requested, running], taken,
    pid, status, rfl, rfl, rfl, select_trace s now⟩

/-- A task is taken out of its queue and put back with another deadline. -/
def postpone (s : Scheduler) (task : TaskPtr) (deadline : AbsoluteTime) (read : ItemsAsTasks) :
    Scheduler :=
  ((s.dequeue task).setDeadline task deadline).enqueue task read

/-- Postponing a task changes its deadline and the queues. -/
@[simp] theorem postpone_fields (s : Scheduler) (task : TaskPtr) (deadline : AbsoluteTime)
    (read : ItemsAsTasks) :
    (s.postpone task deadline read).maxPid = s.maxPid ∧
      (s.postpone task deadline read).running = s.running ∧
      (s.postpone task deadline read).queued = s.queued ∧
      (s.postpone task deadline read).requested = s.requested ∧
      (s.postpone task deadline read).taken = s.taken ∧ (s.postpone task deadline read).trace = s.trace ∧
      (s.postpone task deadline read).pid = s.pid ∧ (s.postpone task deadline read).status = s.status := by
  have table : (s.postpone task deadline read).table = _ := (enqueue_fields _ task read).1
  have removed := (dequeue_fields s task).1
  have pid : (s.postpone task deadline read).pid = s.pid := by
    have kept := setDeadline_pid (s.dequeue task) task deadline
    unfold Scheduler.pid at kept ⊢
    rw [table, kept, removed]
  have status : (s.postpone task deadline read).status = s.status := by
    have kept := setDeadline_status (s.dequeue task) task deadline
    unfold Scheduler.status at kept ⊢
    rw [table, kept, removed]
  exact ⟨by simp [postpone], by simp [postpone], by simp [postpone], by simp [postpone],
    by simp [postpone], by simp [postpone], pid, status⟩

theorem postpone_deadline (s : Scheduler) (task other : TaskPtr) (deadline : AbsoluteTime)
    (read : ItemsAsTasks) :
    (s.postpone task deadline read).deadline other =
      if other = task then deadline else s.deadline other := by
  have table : (s.postpone task deadline read).table = _ := (enqueue_fields _ task read).1
  have removed := (dequeue_fields s task).1
  have written := setDeadline_deadline (s.dequeue task) task other deadline
  unfold Scheduler.deadline at written ⊢
  rw [table, written, removed]

def sleepUntil (s : Scheduler) (task : TaskPtr) (deadline now : AbsoluteTime)
    (read : ItemsAsTasks) : Scheduler :=
  (s.postpone task deadline read).yield now

/-- The victim is still queued while its successor is chosen. -/
def kill (s : Scheduler) (victim : Pid) (now : AbsoluteTime) : Scheduler :=
  (((s.complete victim).select now).dequeue victim).request ((s.complete victim).choice now)

/-- That a task is to die does not change what is chosen. -/
@[simp] theorem complete_choice (s : Scheduler) (task : TaskPtr) (now : AbsoluteTime) :
    (s.complete task).due now = s.due now ∧ (s.complete task).choice now = s.choice now := by
  have isDue : ∀ first, (s.complete task).IsDue now first ↔ s.IsDue now first := by simp [IsDue]
  have due : (s.complete task).due now = s.due now := by simp only [Scheduler.due, isDue, complete_fields]
  exact ⟨due, by simp [choice, due]⟩

@[simp] theorem kill_fields (s : Scheduler) (victim : Pid) (now : AbsoluteTime) :
    (s.kill victim now).maxPid = s.maxPid ∧ (s.kill victim now).running = s.running ∧
      (s.kill victim now).queued = s.pid (s.choice now) ∧
      (s.kill victim now).requested = (s.requested || s.running != s.pid (s.choice now)) ∧
      (s.kill victim now).taken = s.taken ∧ (s.kill victim now).pid = s.pid ∧
      (s.kill victim now).status = (s.complete victim).status ∧
      (s.kill victim now).deadline = (s.select now).deadline ∧
      (s.kill victim now).trace = s.trace ++ [.selected (s.choice now) now (s.due now).isSome] := by
  have selected := (s.complete victim).select_fields now
  have table := (((s.complete victim).select now).dequeue_fields victim).1
  have pid : (s.kill victim now).pid = s.pid := by
    have kept : (((s.complete victim).select now).dequeue victim).pid = s.pid := by
      unfold Scheduler.pid at selected ⊢
      rw [table, selected.2.2.2.2.2.1]
      exact (s.complete_fields victim).2.2.2.2.2.2.2.2.1
    exact kept
  have status : (s.kill victim now).status = (s.complete victim).status := by
    have kept : (((s.complete victim).select now).dequeue victim).status =
        (s.complete victim).status := by
      unfold Scheduler.status at selected ⊢
      rw [table, selected.2.2.2.2.2.2]
    exact kept
  have deadline : (s.kill victim now).deadline = (s.select now).deadline := by
    have kept : (((s.complete victim).select now).dequeue victim).deadline =
        ((s.complete victim).select now).deadline := by
      unfold Scheduler.deadline
      rw [table]
    funext task
    exact (congrFun kept task).trans (by simp [select_deadline])
  have before : (((s.complete victim).select now).dequeue victim).pid = s.pid := pid
  exact ⟨by simp [kill], by simp [kill], by simp [kill, before], by simp [kill, before],
    by simp [kill], pid, status, deadline, by simp [kill, select_trace]⟩

/-- The next task has been chosen at this time, and put into the slot. -/
structure Chooses (s : Scheduler) (now : AbsoluteTime) (s' : Scheduler) : Prop where
  maxPid : s'.maxPid = s.maxPid
  running : s'.running = s.running
  taken : s'.taken = s.taken
  queued : s'.queued = s.pid (s.choice now)
  requested : s'.requested = (s.requested || s.running != s.pid (s.choice now))
  deadline : s'.deadline = (s.select now).deadline
  trace : s'.trace = s.trace ++ [.selected (s.choice now) now (s.due now).isSome]

theorem yield_chooses (s : Scheduler) (now : AbsoluteTime) : s.Chooses now (s.yield now) := by
  obtain ⟨maxPid, running, queued, requested, taken, -, -, -, -, deadline, trace⟩ := yield_fields s now
  exact ⟨maxPid, running, taken, queued, requested, deadline, trace⟩

theorem kill_chooses (s : Scheduler) (victim : Pid) (now : AbsoluteTime) :
    s.Chooses now (s.kill victim now) := by
  obtain ⟨maxPid, running, queued, requested, taken, -, -, deadline, trace⟩ := kill_fields s victim now
  exact ⟨maxPid, running, taken, queued, requested, deadline, trace⟩

/-- The table entry of a new task. -/
def newborn (pid : Pid) (args : CreateTaskArgs) (task : Task) : Task :=
  { task with
    pid
    priority := taskingPriorityUser args.priority
    currentPriority := taskingPriorityUser args.priority
    currentlyAssignedCore := 0
    taskStatus := .sleeping
    function := args.function
    runFrequency := args.runFrequency
    stackptr := internalStackInit args.stackBase
    stackbase := args.stackBase
    accounting := { task.accounting with runTicks := 0 } }

def createTask (s : Scheduler) (args : CreateTaskArgs) (read : ItemsAsTasks) : Scheduler :=
  ({ s with maxPid := s.maxPid + 1 }.change s.maxPid (newborn s.maxPid args)).enqueue s.maxPid read

@[simp] theorem createTask_fields (s : Scheduler) (args : CreateTaskArgs) (read : ItemsAsTasks) :
    (s.createTask args read).maxPid = s.maxPid + 1 ∧ (s.createTask args read).running = s.running ∧
      (s.createTask args read).queued = s.queued ∧ (s.createTask args read).requested = s.requested ∧
      (s.createTask args read).taken = s.taken ∧ (s.createTask args read).trace = s.trace := by
  simp [createTask]

/-- `gkrtos_tasking_reschedule_required` -/
def RescheduleRequired (s : Scheduler) (now now' : AbsoluteTime) : Prop :=
  (absoluteTimeDiffUs (s.table s.running).accounting.ctxSwitchTime now).toUInt64 >
    taskingTaskElapsedTimeUs ∨ ∃ first ∈ s.sleepers.head?, s.IsDue now' first

instance (s : Scheduler) (now now' : AbsoluteTime) : Decidable (s.RescheduleRequired now now') :=
  inferInstanceAs (Decidable (_ ∨ ∃ _ ∈ _, _))

def systick (s : Scheduler) (now now' now'' : AbsoluteTime) : Scheduler :=
  if s.RescheduleRequired now now' then s.yield now'' else s

def syscall (s : Scheduler) (number : Word) (args : SyscallArgs) (now : AbsoluteTime) : Scheduler :=
  if number = syscallDie then s.kill (s.pid s.running) now
  else if number = syscallYield then s.yield now
  else if number = syscallKill then s.kill args.pid now
  else if number = syscallSleepUntil then
    s.sleepUntil s.running args.milliseconds now args.itemsAsTasks
  else if number = syscallCreateTask then s.createTask args.createTask args.itemsAsTasks
  else s

/-- A number beyond the system calls changes nothing. -/
theorem syscall_unknown {number : Word} (unknown : syscallTaskNextTick < number)
    (s : Scheduler) (args : SyscallArgs) (now : AbsoluteTime) : s.syscall number args now = s := by
  have beyond {known : Word} : known ≤ syscallTaskNextTick → number ≠ known := ne_of_unknown unknown
  rw [syscall, if_neg (beyond (by decide)), if_neg (beyond (by decide)), if_neg (beyond (by decide)),
    if_neg (beyond (by decide)), if_neg (beyond (by decide))]

/-- What a handler run does. -/
def handle (s : Scheduler) : Action → Scheduler
  | .svc _ number args now => s.syscall number args now
  | .systick _ now now' now'' => s.systick now now' now''
  | .takePendsv => { s with requested := false, taken := true }
  | .pendsv stackptr now now' => { s.pendsv stackptr now now' with taken := false }

/-- What a handler run returns. -/
def answer (s : Scheduler) : Action → Word
  | .svc _ number _ _ =>
    if number = syscallCreateTask then BitVec.ofNat 32 s.maxPid
    else if syscallTaskNextTick < number then -syscallErrnoNoSuchSyscall
    else syscallErrnoSuccess
  | .systick stackptr _ _ _ => stackptr
  | .takePendsv => 0
  | .pendsv stackptr _ _ =>
    if s.queued = s.pid s.running then stackptr else (s.table s.queued).stackptr

/-- The interrupt mask after a handler run. PendSV disables interrupts and
does not enable them again when the queued task is running already. -/
def maskAfter (s : Scheduler) (mask : InterruptMask) : Action → InterruptMask
  | .pendsv _ _ _ => if s.queued = s.pid s.running then true else mask
  | _ => mask

/-- A step records the events of its own handler only. -/
def step (s : Scheduler) (action : Action) : Scheduler :=
  { s with trace := [] }.handle action

/-- The tasks alive after a handler run. -/
def liveAfter (s : Scheduler) (live : Finset Pid) : Action → Finset Pid
  | .svc _ number args _ =>
    if number = syscallCreateTask then insert s.maxPid live
    else if number = syscallKill then live.erase args.pid
    else if number = syscallDie then live.erase s.running
    else live
  | _ => live

/-- Thread code of a task that has not been killed, other than the spin task. -/
def Caller (s : Scheduler) (live : Finset Pid) : Prop := s.running ∈ live ∧ s.running ≠ 1

/-- System calls as tasks make them. -/
def Legal (s : Scheduler) (live : Finset Pid) : Action → Prop
  | .svc _ number args _ =>
    number = syscallYield ∨
    number = syscallCreateTask ∧ s.maxPid < configMaxTasks ∨
    number = syscallSleepUntil ∧ s.Caller live ∨
    number = syscallDie ∧ s.Caller live ∨
    number = syscallKill ∧ args.pid ∈ live ∧ args.pid ≠ 1 ∨
    syscallTaskNextTick < number
  | _ => True

/-- Which exceptions can be taken under this interrupt mask. -/
def MayTake (s : Scheduler) (mask : InterruptMask) : Action → Prop
  | .svc _ _ _ _ => mask = false ∧ s.requested = false ∧ s.taken = false
  | .systick _ _ _ _ => mask = false
  | .takePendsv => mask = false ∧ s.requested = true ∧ s.taken = false
  | .pendsv _ _ _ => s.taken = true

instance (s : Scheduler) (live : Finset Pid) : Decidable (s.Caller live) :=
  inferInstanceAs (Decidable (_ ∧ _))

instance (s : Scheduler) (live : Finset Pid) : DecidablePred (s.Legal live)
  | .svc _ _ _ _ => inferInstanceAs (Decidable (_ ∨ _))
  | .systick _ _ _ _ | .takePendsv | .pendsv _ _ _ => inferInstanceAs (Decidable True)

instance (s : Scheduler) (mask : InterruptMask) : DecidablePred (s.MayTake mask)
  | .svc _ _ _ _ | .takePendsv => inferInstanceAs (Decidable (_ ∧ _))
  | .systick _ _ _ _ | .pendsv _ _ _ => inferInstanceAs (Decidable (_ = _))

/-- Steps of tasks that keep to the rules and of hardware that keeps to the
priorities. -/
def Permitted (mask : InterruptMask) (live : Finset Pid) (s : Scheduler) (action : Action) : Prop :=
  s.Legal live action ∧ s.MayTake mask action

instance (mask : InterruptMask) (live : Finset Pid) (s : Scheduler) (action : Action) :
    Decidable (Permitted mask live s action) :=
  inferInstanceAs (Decidable (_ ∧ _))

/-- These steps one after the other, as long as they are allowed. -/
def run (allowed : InterruptMask → Finset Pid → Scheduler → Action → Prop)
    [∀ mask live s action, Decidable (allowed mask live s action)] :
    List Action → InterruptMask × Finset Pid × Scheduler →
      Option (InterruptMask × Finset Pid × Scheduler)
  | [], state => some state
  | action :: rest, (mask, live, s) =>
    if allowed mask live s action then
      run allowed rest (s.maskAfter mask action, s.liveAfter live action, s.step action)
    else none

end Operations

/-- Nor does it change who is alive. -/
theorem liveAfter_unknown {number : Word} (unknown : syscallTaskNextTick < number) (s : Scheduler)
    (live : Finset Pid) (stackptr : Word) (args : SyscallArgs) (now : AbsoluteTime) :
    s.liveAfter live (.svc stackptr number args now) = live := by
  have beyond {known : Word} : known ≤ syscallTaskNextTick → number ≠ known := ne_of_unknown unknown
  rw [liveAfter, if_neg (beyond (by decide)), if_neg (beyond (by decide)), if_neg (beyond (by decide))]

end Scheduler

/-- The task an event is about. -/
def Event.task : Event → Pid
  | .selected task _ _ => task
  | .dispatched pid => pid

/-- None of these events is about the task. -/
def Unseen (trace : List Event) (task : Pid) : Prop := ∀ event ∈ trace, event.task ≠ task

theorem Unseen.nil {task : Pid} : Unseen [] task := fun _ member => absurd member List.not_mem_nil

theorem Unseen.append {trace : List Event} {task : Pid} {event : Event}
    (unseen : Unseen trace task) (different : event.task ≠ task) :
    Unseen (trace ++ [event]) task := by
  intro other member
  cases List.mem_append.mp member with
  | inl old => exact unseen other old
  | inr new =>
    rw [List.mem_singleton.mp new]
    exact different

/-- The scheduled queue in head order. -/
def Kernel.scheduled (kernel : Kernel) : List TaskPtr := contents kernel.lists kernel.scheduledQueue

/-- The unscheduled queue in head order. -/
def Kernel.unscheduled (kernel : Kernel) : List TaskPtr :=
  contents kernel.lists kernel.unscheduledQueue

def Kernel.nextRunTime (kernel : Kernel) (task : TaskPtr) : AbsoluteTime :=
  (kernel.taskList task).nextRunTime

/-- The task's next run time is less than a systick period after `now`. -/
def Kernel.IsDue [PicoSdk] (kernel : Kernel) (now : AbsoluteTime) (task : TaskPtr) : Prop :=
  0 < absoluteTimeDiffUs (kernel.nextRunTime task) (makeTimeoutTimeUs now getSystickPeriod)

instance [PicoSdk] (kernel : Kernel) (now : AbsoluteTime) (task : TaskPtr) :
    Decidable (kernel.IsDue now task) :=
  inferInstanceAs (Decidable (_ < _))

/-- The abstract state a kernel state stands for. -/
def view (kernel : Kernel) : Scheduler where
  table := kernel.taskList
  ring := contents kernel.lists kernel.unscheduledQueue
  sleepers := contents kernel.lists kernel.scheduledQueue
  maxPid := kernel.currentMaxPid
  running := (kernel.cores kernel.cpuid).currentlyRunningPid
  queued := (kernel.cores kernel.cpuid).queuedTask
  requested := kernel.pendsvPending
  taken := kernel.pendsvActive
  trace := kernel.trace

end Gkrtos
