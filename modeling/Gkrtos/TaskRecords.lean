import Gkrtos.ContextIsolation

/-! What the entry of a task can be relied on for. What its creator chose is written
once and stays. Its stack pointer is the one of the first frame until the first
switch to it, which hands that frame over; from then on it is the one the task was
last switched out with. -/
namespace Gkrtos
open KernelRefinement

/-- The fields of an entry that say which task it is and what its creator chose. -/
structure Birth where
  pid : Pid
  priority : TaskingPriority
  currentPriority : TaskingPriority
  currentlyAssignedCore : Word
  function : Word
  runFrequency : Word
  stackbase : Word

def Task.birth (task : Task) : Birth :=
  ⟨task.pid, task.priority, task.currentPriority, task.currentlyAssignedCore, task.function,
    task.runFrequency, task.stackbase⟩

/-- What they are for a task created with these arguments. -/
def CreateTaskArgs.birth (args : CreateTaskArgs) (pid : Pid) : Birth :=
  ⟨pid, taskingPriorityUser args.priority, taskingPriorityUser args.priority, 0, args.function,
    args.runFrequency, args.stackBase⟩

namespace Scheduler

variable {s s' s'' : Scheduler} {task : Pid} {now now' : AbsoluteTime}

/-- The tasks created so far keep these fields. -/
def KeepsBirth (s s' : Scheduler) : Prop :=
  ∀ task < s.maxPid, (s'.table task).birth = (s.table task).birth

theorem keepsBirth_change {change : Task → Task}
    (same : ∀ record, (change record).birth = record.birth) : KeepsBirth s (s.change task change) := by
  intro other _
  rw [change_table]
  split
  case isTrue equal =>
    subst equal
    exact same _
  case isFalse => rfl

theorem KeepsBirth.trans (first : KeepsBirth s s') (second : KeepsBirth s' s'')
    (more : s.maxPid ≤ s'.maxPid) : KeepsBirth s s'' :=
  fun task created => (second task (Nat.lt_of_lt_of_le created more)).trans (first task created)

/-- Queue operations do not write the table. -/
theorem KeepsBirth.of_table (keeps : KeepsBirth s s') (table : s''.table = s'.table) :
    KeepsBirth s s'' := by
  unfold KeepsBirth
  rw [table]
  exact keeps

theorem keepsBirth_pendsv (stackptr : Word) : KeepsBirth s (s.pendsv stackptr now now') := by
  have stop : ∀ record, (stopped stackptr now record).birth = record.birth := by
    intro record
    unfold stopped
    split <;> rfl
  unfold pendsv
  split
  · exact fun _ _ => rfl
  · have stops : KeepsBirth s (s.change s.running (stopped stackptr now)) := keepsBirth_change stop
    have resumes : KeepsBirth (s.change s.running (stopped stackptr now))
        ((s.change s.running (stopped stackptr now)).change s.queued (resumed now')) :=
      keepsBirth_change fun _ => rfl
    exact stops.trans resumes (Nat.le_refl _)

variable [PicoSdk]

theorem keepsBirth_select (now : AbsoluteTime) : KeepsBirth s (s.select now) := by
  cases due : s.due now with
  | none =>
    rw [select_idle due]
    exact fun _ _ => rfl
  | some first =>
    have woken : KeepsBirth s (s.setDeadline first nilTime) := keepsBirth_change fun _ => rfl
    rw [select_due due]
    exact woken

theorem keepsBirth_postpone (deadline : AbsoluteTime) (read : ItemsAsTasks) :
    KeepsBirth s (s.postpone task deadline read) := by
  have removed : KeepsBirth s (s.dequeue task) := by
    unfold KeepsBirth
    rw [(dequeue_fields s task).1]
    exact fun _ _ => rfl
  have written : KeepsBirth (s.dequeue task) ((s.dequeue task).setDeadline task deadline) :=
    keepsBirth_change fun _ => rfl
  have counter := (dequeue_fields s task).2.1
  exact (removed.trans written counter.ge).of_table (enqueue_fields _ task read).1

theorem keepsBirth_kill (victim : Pid) : KeepsBirth s (s.kill victim now) := by
  have completed : KeepsBirth s (s.complete victim) := keepsBirth_change fun _ => rfl
  exact (completed.trans (keepsBirth_select now) (Nat.le_refl _)).of_table
    (dequeue_fields _ victim).1

theorem createTask_table (s : Scheduler) (args : CreateTaskArgs) (read : ItemsAsTasks) (task : Pid) :
    (s.createTask args read).table task =
      if task = s.maxPid then newborn s.maxPid args (s.table s.maxPid) else s.table task := by
  obtain ⟨table, -⟩ := enqueue_fields
    ({ s with maxPid := s.maxPid + 1 }.change s.maxPid (newborn s.maxPid args)) s.maxPid read
  rw [createTask, table, change_table]

/-- The task was created with these arguments, and its stack pointer is still the one of
the frame that was laid out for it. -/
structure Entered (s : Scheduler) (task : Pid) (args : CreateTaskArgs) : Prop where
  created : task < s.maxPid
  birth : (s.table task).birth = args.birth task
  stackptr : (s.table task).stackptr = internalStackInit args.stackBase

variable {args args' : CreateTaskArgs}

theorem entered_new (read : ItemsAsTasks) : (s.createTask args read).Entered s.maxPid args := by
  have entry := createTask_table s args read s.maxPid
  rw [if_pos rfl] at entry
  refine ⟨?_, congrArg Task.birth entry, congrArg Task.stackptr entry⟩
  rw [(createTask_fields s args read).1]
  exact Nat.lt_succ_self _

theorem entered_createTask (read : ItemsAsTasks) (entered : s.Entered task args) :
    (s.createTask args' read).Entered task args := by
  obtain ⟨older, birth, stackptr⟩ := entered
  have entry := createTask_table s args' read task
  rw [if_neg (Nat.ne_of_lt older)] at entry
  refine ⟨?_, (congrArg Task.birth entry).trans birth, (congrArg Task.stackptr entry).trans stackptr⟩
  rw [(createTask_fields s args' read).1]
  exact Nat.lt_succ_of_lt older

/-- Tasks that `main` creates later do not change that. -/
theorem entered_created {live : Finset Pid} {tasks : List CreateTaskArgs}
    (entered : s.Entered task args) : (created tasks live s).2.Entered task args := by
  induction tasks generalizing live s with
  | nil => exact entered
  | cons first rest ih => exact ih (entered_createTask .zero entered)

/-- Its tasks get their pids in the order of their creation. -/
theorem entered_created_new {live : Finset Pid} {tasks : List CreateTaskArgs} {index : Nat}
    (found : tasks[index]? = some args) : (created tasks live s).2.Entered (s.maxPid + index) args := by
  induction tasks generalizing live s index with
  | nil => simp at found
  | cons first rest ih =>
    cases index with
    | zero =>
      obtain rfl : first = args := by simpa using found
      change (created rest (insert s.maxPid live) (s.createTask first .zero)).2.Entered s.maxPid first
      exact entered_created (entered_new .zero)
    | succ index =>
      have entered : (created rest (insert s.maxPid live) (s.createTask first .zero)).2.Entered _ args :=
        ih (by simpa using found)
      rw [(createTask_fields s first .zero).1, Nat.add_assoc, Nat.add_comm 1 index] at entered
      exact entered

omit [PicoSdk] in
theorem entered_launched (now : AbsoluteTime) (entered : s.Entered task args) :
    (launched s now).Entered task args := by
  obtain ⟨older, birth, stackptr⟩ := entered
  have kept : ((launched s now).table task).birth = (s.table task).birth ∧
      ((launched s now).table task).stackptr = (s.table task).stackptr := by
    by_cases spin : task = 1
    · subst spin
      simp [launched, change, Task.birth]
    · simp [launched, change, spin]
  exact ⟨older, kept.1.trans birth, kept.2.trans stackptr⟩

/-- The tasks of a kernel that has just been started, in the order of their pids. -/
theorem entered_atStart {spinTask spinTaskStack : Word} {tasks : List CreateTaskArgs} {index : Nat}
    (now : AbsoluteTime)
    (found : (⟨taskingPriorityUserBase, spinTask, spinTaskStack, 0⟩ :: tasks)[index]? = some args) :
    (atStart spinTask spinTaskStack tasks now).2.Entered (index + 1) args := by
  apply entered_launched
  cases index with
  | zero =>
    obtain rfl : (⟨taskingPriorityUserBase, spinTask, spinTaskStack, 0⟩ : CreateTaskArgs) = args := by
      simpa using found
    exact entered_created (@entered_new noTasks _ _ .zero)
  | succ index =>
    have entered := @entered_created_new (noTasks.createTask
      ⟨taskingPriorityUserBase, spinTask, spinTaskStack, 0⟩ .zero) _ args {1} tasks index
      (by simpa using found)
    rw [(createTask_fields noTasks _ .zero).1, Nat.add_comm _ index] at entered
    exact entered

/-- The step lemma. The tasks created so far include the ones that were killed. -/
theorem keepsBirth_step {live : Finset Pid} {action : Action} (invariant : Invariant live s)
    (legal : s.Legal live action) : KeepsBirth s (s.step action) ∧ s.maxPid ≤ (s.step action).maxPid := by
  have effect := step_effect invariant legal
  generalize s.liveAfter live action = live', s.step action = s' at effect ⊢
  cases effect with
  | idle => exact ⟨fun _ _ => rfl, Nat.le_refl _⟩
  | yield _ now =>
    have counter := (yield_fields { s with trace := [] } now).1
    exact ⟨@keepsBirth_select { s with trace := [] } _ now, counter.ge⟩
  | createTask stackptr args now room =>
    constructor
    · intro task created
      rw [createTask_table]
      exact congrArg Task.birth (if_neg (Nat.ne_of_lt created))
    · rw [(createTask_fields _ _ _).1]
      exact Nat.le_succ _
  | sleepUntil stackptr args now alive notSpin =>
    let cleared : Scheduler := { s with trace := [] }
    have postponed : KeepsBirth cleared (cleared.postpone s.running args.milliseconds args.itemsAsTasks) :=
      keepsBirth_postpone _ _
    have counter := (postpone_fields cleared s.running args.milliseconds args.itemsAsTasks).1
    have counter' := (yield_fields
      (cleared.postpone s.running args.milliseconds args.itemsAsTasks) now).1
    exact ⟨postponed.trans (keepsBirth_select now) counter.ge, (counter'.trans counter).ge⟩
  | kill _ victim now alive notSpin =>
    have counter := (kill_fields { s with trace := [] } victim now).1
    exact ⟨@keepsBirth_kill { s with trace := [] } now _ victim, counter.ge⟩
  | takePendsv => exact ⟨fun _ _ => rfl, Nat.le_refl _⟩
  | pendsv stackptr now now' =>
    have counter : s.maxPid ≤ ({ s with trace := [] }.pendsv stackptr now now').maxPid := by
      unfold pendsv
      split
      · exact Nat.le_refl _
      · exact Nat.le_refl _
    exact ⟨@keepsBirth_pendsv { s with trace := [] } now now' stackptr, counter⟩

omit [PicoSdk] in
/-- A switch writes the entries of the two tasks it is between. -/
theorem pendsv_other (stackptr : Word) (notRunning : task ≠ s.running) (notQueued : task ≠ s.queued) :
    (s.pendsv stackptr now now').table task = s.table task := by
  unfold pendsv
  split
  · rfl
  · have resumes : (s.contextSwitch stackptr now now').table task = _ :=
      change_table (s.change s.running (stopped stackptr now)) s.queued task (resumed now')
    rw [if_neg notQueued, change_table, if_neg notRunning] at resumes
    exact resumes

/-- The task was created and does not have the core, and the stack pointer saved for
it is this one. -/
structure WaitsAt (s : Scheduler) (task : Pid) (frame : Word) : Prop where
  created : task < s.maxPid
  waits : s.running ≠ task
  stackptr : (s.table task).stackptr = frame

variable {live : Finset Pid} {stackptr frame : Word}

/-- A switch between two tasks goes to the one in the slot. -/
theorem step_pendsv_moves (stackptr : Word) (now now' : AbsoluteTime) (invariant : Invariant live s)
    (moves : s.queued ≠ s.running) :
    (s.step (.pendsv stackptr now now')).trace = [.dispatched s.queued] ∧
      (s.step (.pendsv stackptr now now')).running = s.queued ∧
      (s.step (.pendsv stackptr now now')).table =
        ({ s with trace := [] }.contextSwitch stackptr now now').table := by
  have queuedPid := invariant.numbered.pids _ invariant.numbered.queued
  have other : ({ s with trace := [] } : Scheduler).queued ≠
      ({ s with trace := [] } : Scheduler).pid ({ s with trace := [] } : Scheduler).running :=
    fun same => moves (same.trans (invariant.numbered.pids _ invariant.numbered.running))
  have switched : ({ s with trace := [] } : Scheduler).pendsv stackptr now now' = _ := if_neg other
  have step : s.step (.pendsv stackptr now now') =
    { ({ s with trace := [] } : Scheduler).pendsv stackptr now now' with taken := false } := rfl
  rw [step, switched]
  refine ⟨?_, queuedPid, rfl⟩
  show [] ++ [Event.dispatched (s.pid s.queued)] = _
  rw [queuedPid]
  rfl

/-- The task that is switched out waits where it was interrupted. -/
theorem waitsAt_stopped (invariant : Invariant live s) (moves : s.queued ≠ s.running) :
    (s.step (.pendsv stackptr now now')).WaitsAt s.running stackptr := by
  obtain ⟨-, running, table⟩ := step_pendsv_moves stackptr now now' invariant moves
  have legal : s.Legal live (.pendsv stackptr now now') := trivial
  have later := (keepsBirth_step invariant legal).2
  refine ⟨Nat.lt_of_lt_of_le invariant.numbered.running later, ne_of_eq_of_ne running moves, ?_⟩
  have resumes : (({ s with trace := [] } : Scheduler).contextSwitch stackptr now now').table s.running =
      _ :=
    change_table (({ s with trace := [] } : Scheduler).change s.running (stopped stackptr now)) s.queued
      s.running (resumed now')
  rw [table, resumes, if_neg moves.symm, change_table, if_pos rfl]
  unfold stopped
  split <;> rfl

theorem waitsAt_step {action : Action} (waitsAt : s.WaitsAt task frame) (invariant : Invariant live s)
    (legal : s.Legal live action) (undispatched : .dispatched task ∉ (s.step action).trace) :
    (s.step action).WaitsAt task frame := by
  obtain ⟨created, waits, saved⟩ := waitsAt
  have later := Nat.lt_of_lt_of_le created (keepsBirth_step invariant legal).2
  by_cases switches : action.Switches
  · cases action with
    | pendsv stackptr now now' =>
      by_cases stays : s.queued = s.running
      · have still : ({ s with trace := [] } : Scheduler).pendsv stackptr now now' =
            { s with trace := [] } :=
          if_pos (stays.trans (invariant.numbered.pids _ invariant.numbered.running).symm)
        have same : s.step (.pendsv stackptr now now') = { s with trace := [], taken := false } := by
          show { ({ s with trace := [] } : Scheduler).pendsv stackptr now now' with taken := false } = _
          rw [still]
        rw [same]
        exact ⟨created, waits, saved⟩
      · obtain ⟨trace, running, -⟩ := step_pendsv_moves stackptr now now' invariant stays
        have notQueued : task ≠ s.queued := by
          rintro rfl
          rw [trace] at undispatched
          exact undispatched List.mem_cons_self
        have kept := @pendsv_other { s with trace := [] } task now now' stackptr waits.symm notQueued
        exact ⟨later, running.trans_ne notQueued.symm, (congrArg Task.stackptr kept).trans saved⟩
    | _ => exact absurd switches id
  · obtain ⟨running, keeps⟩ := handle_keepsPointers { s with trace := [] } switches
    exact ⟨later, running.trans_ne waits, (keeps task (Nat.ne_of_lt created)).2.trans saved⟩

end Scheduler

section Runs

variable [PicoSdk] [Malloc] {system created before final : System} {stackptr : Word}
variable {now : AbsoluteTime}

/-- The task has been created with these arguments: by the system call that led to this
state, or by `gkrtos_init` and `main` before the kernel was started in it. -/
inductive System.Created : CreateTaskArgs → Pid → System → Prop where
  | call {system created : System} {stackptr : Word} {args : SyscallArgs} {now : AbsoluteTime}
      (reachable : system.Reachable System.Legal) (room : system.kernel.currentMaxPid < configMaxTasks)
      (stepped : system.step (.svc stackptr syscallCreateTask args now) = some created) :
      System.Created args.createTask system.kernel.currentMaxPid created
  | start {started : System} {spinTask spinTaskStack : Word} {tasks : List CreateTaskArgs}
      {now : AbsoluteTime} {pids : List Word} {args : CreateTaskArgs} {index : Nat}
      (few : tasks.length + 1 < configMaxTasks)
      (launched : launch spinTask spinTaskStack tasks now Kernel.initial = .ok pids started.kernel)
      (live : started.live = insert 1 (pids.map BitVec.toNat).toFinset)
      (found : (⟨taskingPriorityUserBase, spinTask, spinTaskStack, 0⟩ :: tasks)[index]? = some args) :
      System.Created args (index + 1) started

/-- What stands in the table then. The spin task runs. -/
theorem created_spec {args : CreateTaskArgs} {task : Pid} (isCreated : created.Created args task) :
    ∃ mask s, Good mask created s ∧ s.Entered task args ∧ (task ≠ 1 → s.running ≠ task) := by
  cases isCreated with
  | call reachable room stepped =>
    rename_i system stackptr args now
    obtain ⟨mask, s, good⟩ := reachable_good reachable
    have legal : system.Legal (.svc stackptr syscallCreateTask args now) := .inr (.inl ⟨rfl, room⟩)
    have good' := (good_step good legal stepped).1
    have counter : system.kernel.currentMaxPid = s.maxPid := congrArg Scheduler.maxPid good.outside.shows
    have running := (Scheduler.createTask_fields { s with trace := [] } args.createTask
      args.itemsAsTasks).2.1
    rw [counter]
    refine ⟨_, _, good', @Scheduler.entered_new { s with trace := [] } _ _ args.itemsAsTasks, fun _ => ?_⟩
    exact ne_of_eq_of_ne running (Nat.ne_of_lt good.invariant.numbered.running)
  | start few launched live found =>
    rename_i spinTask spinTaskStack tasks now pids index
    obtain ⟨pids', kernel, launched', outside, live'⟩ :=
      launch_returns spinTask spinTaskStack tasks now few
    rw [launched, EStateM.Result.ok.injEq] at launched'
    obtain ⟨rfl, rfl⟩ := launched'
    have initial := initial_atStart spinTask spinTaskStack tasks now few
    rw [← live', ← live] at initial
    exact ⟨_, _, ⟨outside, initial.invariant⟩, Scheduler.entered_atStart now found,
      fun notSpin => ne_of_eq_of_ne initial.running notSpin.symm⟩

/-- The run lemma. -/
theorem birth_run {allowed : System → Action → Prop} {mask : InterruptMask} {s : Scheduler} {task : Pid}
    (legal : ∀ system action, allowed system action → system.Legal action) (good : Good mask created s)
    (older : task < s.maxPid) (run : Relation.ReflTransGen (System.Step allowed) created final) :
    (final.kernel.taskList task).birth = (s.table task).birth := by
  obtain ⟨mask', s', good', kept, -⟩ := run_induction
    (fun _ _ s' => (s'.table task).birth = (s.table task).birth ∧ task < s'.maxPid)
    legal
    (fun _ _ _ action good allowed ⟨kept, older⟩ => by
      obtain ⟨keeps, more⟩ :=
        Scheduler.keepsBirth_step good.invariant ((legal_iff good).mp (legal _ action allowed))
      exact ⟨(keeps _ older).trans kept, Nat.lt_of_lt_of_le older more⟩)
    good ⟨rfl, older⟩ run
  have table : final.kernel.taskList = s'.table := congrArg Scheduler.table good'.outside.shows
  rw [table]
  exact kept

/-- What the creator of a task chose stays in its entry for good, whatever the
tasks do, and also after the task was killed. -/
theorem creation_arguments_kept {args : CreateTaskArgs} {task : Pid}
    (isCreated : created.Created args task)
    (run : Relation.ReflTransGen (System.Step System.Legal) created final) :
    (final.kernel.taskList task).birth = args.birth task := by
  obtain ⟨mask, s, good, entered, -⟩ := created_spec isCreated
  rw [birth_run (fun _ _ legal => legal) good entered.created run]
  exact entered.birth

/-- No step switches to the task. -/
def System.NotTo (task : Pid) (system : System) (action : Action) : Prop :=
  system.Legal action ∧
    ∀ next, system.step action = some next → .dispatched task ∉ next.kernel.trace

theorem waitsAt_run {mask : InterruptMask} {s : Scheduler} {task : Pid} {frame : Word}
    (good : Good mask system s) (waitsAt : s.WaitsAt task frame)
    (run : Relation.ReflTransGen (System.Step (System.NotTo task)) system before) :
    ∃ mask s, Good mask before s ∧ s.WaitsAt task frame := by
  refine run_induction (fun _ _ s => s.WaitsAt task frame) (fun _ _ allowed => allowed.1) ?_ good
    waitsAt run
  intro mask system s action good allowed waitsAt
  obtain ⟨next, stepped, good', -⟩ := step_simulates good allowed.1
  apply Scheduler.waitsAt_step waitsAt good.invariant ((legal_iff good).mp allowed.1)
  rw [← good'.trace]
  exact allowed.2 next stepped

omit [Malloc] in
/-- What a switch to a task that waits hands over. -/
theorem pendsv_resumes {mask : InterruptMask} {s : Scheduler} {task : Pid} {frame : Word}
    (good : Good mask before s) (waitsAt : s.WaitsAt task frame) (queued : before.kernel.queued = task)
    (stackptr : Word) (now now' : AbsoluteTime) :
    ∃ kernel, pendsvHandlerC stackptr now now' before.kernel = .ok frame kernel ∧
      kernel.running = task ∧ (kernel.taskList task).taskStatus = .running ∧
      (kernel.taskList task).birth = (before.kernel.taskList task).birth := by
  obtain ⟨⟨sound, rfl, free, enabled, log⟩, invariant⟩ := good
  obtain ⟨older, waits, saved⟩ := waitsAt
  have numbered := invariant.numbered
  have running : before.kernel.running < configMaxTasks :=
    Nat.lt_of_lt_of_le numbered.running numbered.bound
  have inTable : before.kernel.queued < configMaxTasks :=
    queued ▸ Nat.lt_of_lt_of_le older numbered.bound
  have runningPid : (before.kernel.taskList before.kernel.running).pid = before.kernel.running :=
    numbered.pids _ numbered.running
  have other : before.kernel.queued ≠ before.kernel.running := queued ▸ Ne.symm waits
  have different : before.kernel.queued ≠ (before.kernel.taskList before.kernel.running).pid := by
    rw [runningPid]
    exact other
  have handled := @pendsvHandlerC_switch before.kernel _ stackptr now now' running inTable different
    _ rfl
  rw [Function.update_of_ne other, queued] at handled
  have stored : (before.kernel.taskList task).stackptr = frame := saved
  have pid : (before.kernel.taskList task).pid = task := numbered.pids _ older
  rw [stored] at handled
  refine ⟨_, handled, ?_, ?_, ?_⟩
  · simp [Kernel.running, pid]
  · simp [Scheduler.resumed]
  · simp [Scheduler.resumed, Task.birth]

/-- The first switch to a task hands over the frame that was laid out for it, and
then the task can find in its entry what its creator chose. The spin task needs no
switch to run first. -/
theorem first_switch {args : CreateTaskArgs} {task : Pid} (isCreated : created.Created args task)
    (notSpin : task ≠ 1) (run : Relation.ReflTransGen (System.Step (System.NotTo task)) created before)
    (queued : before.kernel.queued = task) (stackptr : Word) (now now' : AbsoluteTime) :
    ∃ kernel, pendsvHandlerC stackptr now now' before.kernel =
        .ok (internalStackInit args.stackBase) kernel ∧
      kernel.running = task ∧ (kernel.taskList task).taskStatus = .running ∧
      (kernel.taskList task).birth = args.birth task := by
  obtain ⟨mask, s, good, entered, waits⟩ := created_spec isCreated
  have born := (birth_run (fun _ _ allowed => allowed.1) good entered.created run).trans entered.birth
  obtain ⟨mask', s', good', waitsAt⟩ :=
    waitsAt_run good ⟨entered.created, waits notSpin, entered.stackptr⟩ run
  obtain ⟨kernel, handled, running, status, kept⟩ := pendsv_resumes good' waitsAt queued stackptr now now'
  exact ⟨kernel, handled, running, status, kept.trans born⟩

/-- Whatever the others and the handlers do meanwhile, a task that was switched out goes
on with the stack pointer it was interrupted with. -/
theorem switched_back_in {away : System} {now' : AbsoluteTime}
    (reachable : system.Reachable System.Legal)
    (moves : system.kernel.queued ≠ system.kernel.running)
    (stepped : system.step (.pendsv stackptr now now') = some away)
    (run : Relation.ReflTransGen (System.Step (System.NotTo system.kernel.running)) away before)
    (queued : before.kernel.queued = system.kernel.running) (stackptr' : Word)
    (time time' : AbsoluteTime) :
    ∃ kernel, pendsvHandlerC stackptr' time time' before.kernel = .ok stackptr kernel ∧
      kernel.running = system.kernel.running ∧
      (kernel.taskList kernel.running).taskStatus = .running ∧
      (kernel.taskList kernel.running).birth = (system.kernel.taskList system.kernel.running).birth := by
  obtain ⟨mask, s, good⟩ := reachable_good reachable
  have good' := (good_step good (show system.Legal (.pendsv stackptr now now') from trivial) stepped).1
  rw [good.queued, good.running] at moves
  rw [good.running] at run queued ⊢
  have waitsAt : (s.step (.pendsv stackptr now now')).WaitsAt s.running stackptr :=
    Scheduler.waitsAt_stopped good.invariant moves
  obtain ⟨mask', s', good'', waitsAt'⟩ := waitsAt_run good' waitsAt run
  obtain ⟨kernel, handled, running, status, kept⟩ :=
    pendsv_resumes good'' waitsAt' queued stackptr' time time'
  have steps : Relation.ReflTransGen (System.Step System.Legal) away before :=
    Relation.ReflTransGen.mono (fun _ _ ⟨action, allowed, stepped⟩ => ⟨action, allowed.1, stepped⟩) _ _ run
  have born : (before.kernel.taskList s.running).birth = (s.table s.running).birth :=
    birth_run (fun _ _ legal => legal) good good.invariant.numbered.running
      (.head ⟨.pendsv stackptr now now', trivial, stepped⟩ steps)
  have table : system.kernel.taskList = s.table := congrArg Scheduler.table good.outside.shows
  rw [← table] at born
  rw [← running] at status kept
  exact ⟨kernel, handled, running, status, kept.trans (running ▸ born)⟩

end Runs

section Example

attribute [local instance] PicoSdk.reference Malloc.reference

/-- What `main` passes for its first task. -/
private def bornArgs : CreateTaskArgs := ⟨4, 0x10000601, 0x20002000, 50⟩

private theorem bornArgs_created : ∃ started : System, started.Created bornArgs 2 ∧
    Good false started (atStart 0 0 [bornArgs] 0).2 ∧ started.live = (atStart 0 0 [bornArgs] 0).1 := by
  obtain ⟨pids, kernel, launched, outside, live⟩ := launch_returns 0 0 [bornArgs] 0 (by decide)
  have initial := initial_atStart 0 0 [bornArgs] 0 (by decide)
  let started : System := ⟨kernel, insert 1 (pids.map BitVec.toNat).toFinset⟩
  rw [← live] at initial
  exact ⟨started, @System.Created.start _ _ started 0 0 [bornArgs] 0 pids bornArgs 1 (by decide) launched
    rfl rfl, ⟨outside, initial.invariant⟩, live⟩

private def notTo (task : Pid) (_ : InterruptMask) (live : Finset Pid) (s : Scheduler)
    (action : Action) : Prop :=
  s.Legal live action ∧ .dispatched task ∉ (s.step action).trace

private instance (task : Pid) (mask : InterruptMask) (live : Finset Pid) (s : Scheduler)
    (action : Action) : Decidable (notTo task mask live s action) :=
  inferInstanceAs (Decidable (_ ∧ _))

private theorem notTo_mirrors (task : Pid) (mask : InterruptMask) (system : System) (s : Scheduler)
    (action : Action) (good : Good mask system s) (allowed : notTo task mask system.live s action) :
    System.NotTo task system action ∧ system.Legal action := by
  have legal := (legal_iff good).mpr allowed.1
  refine ⟨⟨legal, ?_⟩, legal⟩
  intro next stepped
  have good' := (good_step good legal stepped).1
  rw [good'.trace]
  exact allowed.2

/-- The spin task kills task 2 and creates another one. -/
private def killedYoung : Option (InterruptMask × Finset Pid × Scheduler) :=
  Scheduler.run (fun _ live s action => s.Legal live action)
    [.svc 0 syscallKill { SyscallArgs.zero with pid := 2 } 100, .svc 0 syscallCreateTask .zero 200]
    (false, atStart 0 0 [bornArgs] 0)

private theorem killedYoung_eq : killedYoung.map (fun (_, live, _) => live) = some {1, 3} := by
  decide +kernel

theorem creation_arguments_kept_example : ∃ started final : System, started.Created bornArgs 2 ∧
    Relation.ReflTransGen (System.Step System.Legal) started final ∧ final.live = {1, 3} ∧
      (final.kernel.taskList 2).birth = ⟨2, 7, 7, 0, 0x10000601, 50, 0x20002000⟩ := by
  obtain ⟨started, isCreated, good, live⟩ := bornArgs_created
  obtain ⟨⟨mask, live', s⟩, ran, survivors⟩ := Option.map_eq_some_iff.mp killedYoung_eq
  rw [killedYoung, ← Prod.mk.eta (p := atStart 0 0 [bornArgs] 0), ← live] at ran
  obtain ⟨final, run, -, alive⟩ := run_simulates
    (fun _ _ _ _ good legal => ⟨(legal_iff good).mpr legal, (legal_iff good).mpr legal⟩) good ran
  exact ⟨started, final, isCreated, run.steps, alive.trans survivors,
    creation_arguments_kept isCreated run.steps⟩

/-- The spin task yields. -/
private def bornNext : Option (InterruptMask × Finset Pid × Scheduler) :=
  Scheduler.run (notTo 2) [.svc 0 syscallYield .zero 200, .takePendsv]
    (false, atStart 0 0 [bornArgs] 0)

private theorem bornNext_eq : bornNext.map (fun (_, _, s) => s.queued) = some 2 := by decide +kernel

theorem first_switch_example : ∃ (started before : System) (kernel : Kernel),
    started.Created bornArgs 2 ∧
      Relation.ReflTransGen (System.Step (System.NotTo 2)) started before ∧
      before.kernel.queued = 2 ∧
      pendsvHandlerC 0x20000f00 300 301 before.kernel = .ok 0x20001fc0 kernel ∧ kernel.running = 2 ∧
      (kernel.taskList 2).taskStatus = .running ∧
      (kernel.taskList 2).birth = ⟨2, 7, 7, 0, 0x10000601, 50, 0x20002000⟩ := by
  obtain ⟨started, isCreated, good, live⟩ := bornArgs_created
  obtain ⟨⟨mask, live', s⟩, ran, next⟩ := Option.map_eq_some_iff.mp bornNext_eq
  rw [bornNext, ← Prod.mk.eta (p := atStart 0 0 [bornArgs] 0), ← live] at ran
  obtain ⟨before, run, good', -⟩ := run_simulates (notTo_mirrors 2) good ran
  have queued : before.kernel.queued = 2 := good'.queued.trans next
  obtain ⟨kernel, handled⟩ :=
    first_switch isCreated (by decide) run.steps queued 0x20000f00 300 301
  exact ⟨started, before, kernel, isCreated, run.steps, queued, handled⟩

/-- The spin task has yielded, and PendSV is about to switch to task 2. -/
private def leaving : Option (InterruptMask × Finset Pid × Scheduler) :=
  Scheduler.run Scheduler.Permitted [.svc 0 syscallYield .zero 10, .takePendsv]
    (false, atStart 0 0 [SyscallArgs.zero.createTask] 0)

/-- Task 2 starts a task and yields, and PendSV is about to switch back. -/
private def coming : Option (InterruptMask × Finset Pid × Scheduler) :=
  leaving.bind fun (mask, live, s) => Scheduler.run (notTo 1)
    [.svc 0 syscallCreateTask .zero 20, .svc 0 syscallYield .zero 30, .systick 0 9000 9000 9000,
      .takePendsv]
    (s.maskAfter mask (.pendsv 0x20000f00 11 11), s.liveAfter live (.pendsv 0x20000f00 11 11),
      s.step (.pendsv 0x20000f00 11 11))

private theorem leaving_eq : leaving.map (fun (_, _, s) => (s.running, s.queued)) = some (1, 2) := by
  decide +kernel

private theorem coming_eq : coming.map (fun (_, _, s) => s.queued) = some 1 := by decide +kernel

theorem switched_back_in_example : ∃ (system away before : System) (kernel : Kernel),
    system.Reachable System.Legal ∧ system.kernel.running = 1 ∧ system.kernel.queued = 2 ∧
      system.step (.pendsv 0x20000f00 11 11) = some away ∧
      Relation.ReflTransGen (System.Step (System.NotTo 1)) away before ∧ before.kernel.queued = 1 ∧
      pendsvHandlerC 0x20001f00 9001 9002 before.kernel = .ok 0x20000f00 kernel ∧
        kernel.running = 1 := by
  obtain ⟨⟨mask, live, s⟩, left, fields⟩ := Option.map_eq_some_iff.mp leaving_eq
  obtain ⟨⟨mask', live', s'⟩, came, queued⟩ := Option.map_eq_some_iff.mp coming_eq
  rw [coming, left, Option.bind_some] at came
  dsimp only at came
  obtain ⟨runs, queues⟩ := Prod.ext_iff.mp fields
  obtain ⟨system, reached, good, alive⟩ := reachedBy_of_run System.Legal 0 0 _ 0 legal_mirrors
    (by decide) left
  obtain rfl : system.live = live := alive
  obtain ⟨away, stepped, good', live''⟩ :=
    step_simulates good (show system.Legal (.pendsv 0x20000f00 11 11) from trivial)
  rw [← live''] at came
  obtain ⟨before, run, good'', -⟩ := run_simulates (notTo_mirrors 1) good' came
  have running : system.kernel.running = 1 := good.running.trans runs
  have next : system.kernel.queued = 2 := good.queued.trans queues
  have again : before.kernel.queued = 1 := good''.queued.trans queued
  have steps := run.steps
  rw [← running] at steps
  obtain ⟨kernel, handled, back, -, -⟩ := switched_back_in reached.reachable
    (by rw [running, next]; decide) stepped steps (again.trans running.symm) 0x20001f00 9001 9002
  exact ⟨system, away, before, kernel, reached.reachable, running, next, stepped, run.steps, again,
    handled, back.trans running⟩

end Example

end Gkrtos
