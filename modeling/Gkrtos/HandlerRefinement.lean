import Gkrtos.KernelRefinement
import Gkrtos.SchedulerInvariant

/-! System calls and exception handlers carry out the steps of the scheduler. In
a state with the invariant no handler of a legal step runs into a fault, so
the runs of the kernel and the runs of the scheduler are the same. -/
namespace Gkrtos.KernelRefinement
open Stateful ListRefinement PicoSdk Scheduler

variable {mask : InterruptMask} {live : Finset Pid} {kernel : Kernel} {s : Scheduler} {task : TaskPtr}

/-! ## What the invariant is good for -/

theorem sleepers_inTable (invariant : Invariant live s) :
    ∀ first ∈ s.sleepers, first < configMaxTasks :=
  fun _ member => invariant.inTable (invariant.placed.mem_sleepers.mp member).1

/-- There is a task to choose. -/
theorem choosable [PicoSdk] {now : AbsoluteTime} (invariant : Invariant live s) :
    s.Choosable now ∧ ∀ first ∈ s.sleepers, first < configMaxTasks :=
  ⟨invariant.choosable now, sleepers_inTable invariant⟩

/-- A live task is in the queue it is looked for in. -/
theorem removable (invariant : Invariant live s) (alive : task ∈ live) : task < configMaxTasks ∧
    task ∈ if s.deadline task = nilTime then s.ring else s.sleepers := by
  refine ⟨invariant.inTable alive, ?_⟩
  split_ifs with awake
  · exact invariant.placed.mem_ring.mpr ⟨alive, awake⟩
  · exact invariant.placed.mem_sleepers.mpr ⟨alive, awake⟩

/-! ## Memory accesses -/

theorem outside_change (task : TaskPtr) (change : Task → Task) (outside : Outside mask kernel s) :
    Outside mask { kernel with
      taskList := Function.update kernel.taskList task (change (kernel.taskList task)) }
      (s.change task change) := by
  obtain ⟨sound, rfl, free, enabled, log⟩ := outside
  exact ⟨sound.of_same rfl rfl rfl rfl rfl, rfl, free, enabled, log⟩

theorem storeTask_inside (task : TaskPtr) (change : Task → Task) :
    Simulates (Inside mask) (Inside mask) (fun _ => task < configMaxTasks)
      (storeTask task change) (fun _ => ()) (·.change task change) :=
  fun _ _ inside inTable => returns_of_run (storeTask_run inTable) (inside_change task change inside)

theorem storeTask_outside (task : TaskPtr) (change : Task → Task) :
    Simulates (Outside mask) (Outside mask) (fun _ => task < configMaxTasks)
      (storeTask task change) (fun _ => ()) (·.change task change) :=
  fun _ _ outside inTable => returns_of_run (storeTask_run inTable) (outside_change task change outside)

theorem loadTask_outside (task : TaskPtr) : Simulates (Outside mask) (Outside mask)
    (fun _ => task < configMaxTasks) (loadTask task) (·.table task) id := by
  intro kernel s outside inTable
  refine returns_of_run ?_ outside
  rw [loadTask_run inTable, ← outside.shows]
  rfl

/-- `gkrtos_internal_context_switch` between two entries of the table. -/
theorem contextSwitch_run {core : Nat} {current next : TaskPtr} {stackptr : Word}
    {now now' : AbsoluteTime} (currentInTable : current < configMaxTasks)
    (nextInTable : next < configMaxTasks) (table : TaskPtr → Task)
    (written : table = Function.update kernel.taskList current
      (stopped stackptr now (kernel.taskList current))) :
    internalContextSwitch core current next stackptr now now' kernel = .ok (table next).stackptr
      { kernel with
        taskList := Function.update table next (resumed now' (table next))
        cores := Function.update kernel.cores core
          { kernel.cores core with currentlyRunningPid := (table next).pid } } := by
  by_cases active : (kernel.taskList current).taskStatus = .running
  · simp [internalContextSwitch, storeCore, currentInTable, nextInTable, active, written, stopped, resumed]
  · simp [internalContextSwitch, storeCore, currentInTable, nextInTable, active, written, stopped, resumed]

section Syscalls

variable [PicoSdk]

/-- The new task's pid is taken inside the section, its entry is filled in
outside. -/
theorem taskNew_simulates (priority : TaskingPriority) :
    Simulates (Outside mask) (Outside mask) (fun s => s.maxPid < configMaxTasks)
      (taskingTaskNew priority) (·.maxPid)
      (fun s => { s with maxPid := s.maxPid + 1 }.change s.maxPid fun task => { task with
        pid := s.maxPid
        priority := priority
        currentPriority := priority
        currentlyAssignedCore := 0
        function := 0
        runFrequency := 0
        accounting := { task.accounting with runTicks := 0 }
        stackptr := 0
        stackbase := 0
        taskStatus := .notReady }) := by
  intro kernel s outside room
  refine returns_bind (enterBlocking_simulates kernel s outside trivial) fun kernel inside => ?_
  have maxPid : kernel.currentMaxPid = s.maxPid := congrArg Scheduler.maxPid inside.shows
  have counted : Inside mask { kernel with currentMaxPid := kernel.currentMaxPid + 1 }
      { s with maxPid := s.maxPid + 1 } := by
    obtain ⟨sound, rfl, lock, log⟩ := inside
    exact ⟨sound.of_same rfl rfl rfl rfl rfl, rfl, lock, log⟩
  refine returns_get ?_
  refine returns_bind (returns_of_run (modify_apply _ _) counted)
    fun kernel (inside : Inside mask kernel { s with maxPid := s.maxPid + 1 }) => ?_
  refine returns_bind (exit_simulates kernel _ inside trivial) fun kernel outside => ?_
  rw [maxPid]
  refine returns_bind (storeTask_outside s.maxPid _ kernel _ outside room) fun kernel outside => ?_
  exact returns_pure outside

variable [Malloc] (now : AbsoluteTime)

/-! ## System calls -/

theorem yield_simulates : Simulates (Outside mask) (Outside mask) (Invariant live)
    (internalSyscallYield now) (fun _ => syscallErrnoSuccess) (·.yield now) := by
  intro kernel s outside invariant
  refine returns_bind (getNextTask_simulates now kernel s outside (choosable invariant))
    fun kernel outside => ?_
  refine returns_bind (queueContextSwitch_simulates _ kernel _ outside
    (invariant.inTable (choice_live now invariant))) fun kernel outside => ?_
  exact returns_pure outside

theorem kill_simulates (victim : Pid) : Simulates (Outside mask) (Outside mask)
    (fun s => Invariant live s ∧ victim ∈ live)
    (internalSyscallKill victim now) (fun _ => syscallErrnoSuccess) (·.kill victim now) := by
  rintro kernel s outside ⟨invariant, alive⟩
  have dying := invariant_complete invariant alive
  refine returns_bind (storeTask_outside victim _ kernel s outside (invariant.inTable alive))
    fun kernel outside => ?_
  refine returns_bind (getNextTask_simulates now kernel _ outside (choosable dying))
    fun kernel outside => ?_
  refine returns_bind (dequeueTask_simulates victim kernel _ outside
    (removable (invariant_select now dying) alive)) fun kernel outside => ?_
  refine returns_bind (queueContextSwitch_simulates _ kernel _ outside
    (dying.inTable (choice_live now dying))) fun kernel outside => ?_
  exact returns_pure outside

theorem taskingSleepUntil_simulates (task : TaskPtr) (deadline : AbsoluteTime)
    (read : ItemsAsTasks) :
    Simulates (Outside mask) (Outside mask)
      (fun s => Invariant live s ∧ task ∈ live ∧ (s.postpone task deadline read).Choosable now)
      (internalTaskingSleepUntil task deadline now read)
      (fun s => (s.postpone task deadline read).choice now)
      (fun s => (s.postpone task deadline read).select now) := by
  rintro kernel s outside ⟨invariant, alive, choosable⟩
  have inTable := invariant.inTable alive
  refine returns_bind (enterBlocking_simulates kernel s outside trivial) fun kernel inside => ?_
  refine returns_bind (dequeueTaskLocked_simulates task kernel _ inside (removable invariant alive))
    fun kernel inside => ?_
  refine returns_bind (storeTask_inside task _ kernel _ inside inTable) fun kernel inside => ?_
  have sleepers : ∀ first ∈ (s.dequeue task).sleepers, first < configMaxTasks := by
    intro first member
    have others := ((placed_dequeue invariant.placed alive).mem_sleepers.mp member).1
    exact invariant.inTable (Finset.mem_of_mem_erase others)
  refine returns_bind (queueTaskLocked_simulates task read kernel _ inside ⟨inTable, sleepers⟩)
    fun kernel inside => ?_
  have postponed := placed_postpone deadline read invariant.placed alive
  refine returns_bind (getNextTaskLocked_simulates now kernel _ inside
    ⟨choosable, fun _ member => invariant.inTable (postponed.mem_sleepers.mp member).1⟩)
    fun kernel inside => ?_
  refine returns_bind (exit_simulates kernel _ inside trivial) fun kernel outside => ?_
  exact returns_pure outside

theorem sleepUntil_simulates (task : TaskPtr) (deadline : AbsoluteTime) (read : ItemsAsTasks) :
    Simulates (Outside mask) (Outside mask)
      (fun s => Invariant live s ∧ task ∈ live ∧ (s.postpone task deadline read).Choosable now)
      (internalSyscallSleepUntil task deadline now read) (fun _ => syscallErrnoSuccess)
      (·.sleepUntil task deadline now read) := by
  rintro kernel s outside ready
  obtain ⟨invariant, alive, choosable⟩ := id ready
  have chosen := choosable_live now (placed_postpone deadline read invariant.placed alive) choosable
  refine returns_bind (taskingSleepUntil_simulates now task deadline read kernel s outside ready)
    fun kernel outside => ?_
  refine returns_bind (queueContextSwitch_simulates _ kernel _ outside (invariant.inTable chosen))
    fun kernel outside => ?_
  exact returns_pure outside

theorem die_simulates (task : TaskPtr) : Simulates (Outside mask) (Outside mask)
    (fun s => Invariant live s ∧ task ∈ live) (internalSyscallDie task now)
    (fun _ => syscallErrnoSuccess) (fun s => s.kill (s.pid task) now) := by
  rintro kernel s outside ⟨invariant, alive⟩
  refine returns_bind (loadTask_outside task kernel s outside (invariant.inTable alive))
    fun kernel outside => ?_
  refine returns_bind (kill_simulates now _ kernel s outside
    ⟨invariant, ?_⟩) fun kernel outside => ?_
  · change s.pid task ∈ live
    rw [invariant.pid alive]
    exact alive
  · exact returns_pure outside

theorem createTask_simulates (args : CreateTaskArgs) (read : ItemsAsTasks) :
    Simulates (Outside mask) (Outside mask)
      (fun s => s.maxPid < configMaxTasks ∧ ∀ first ∈ s.sleepers, first < configMaxTasks)
      (internalSyscallCreateTask args read) (fun s => BitVec.ofNat 32 s.maxPid)
      (·.createTask args read) := by
  rintro kernel s outside ⟨room, inTable⟩
  refine returns_bind (taskNew_simulates _ kernel s outside room) fun kernel outside => ?_
  refine returns_bind (storeTask_outside s.maxPid _ kernel _ outside room) fun kernel outside => ?_
  beta_reduce at outside
  rw [change_change] at outside
  refine returns_bind (queueTask_simulates s.maxPid read kernel _ outside ⟨room, inTable⟩)
    fun kernel outside => ?_
  have created : Outside mask kernel (s.createTask args read) := outside
  refine returns_bind (loadTask_outside s.maxPid kernel _ created room) fun kernel outside => ?_
  have pid : (s.createTask args read).pid s.maxPid = s.maxPid := by
    rw [createTask, Scheduler.pid, (enqueue_fields _ s.maxPid read).1, change_table, if_pos rfl]
    rfl
  change Returns (pure (BitVec.ofNat 32 ((s.createTask args read).pid s.maxPid))) kernel _ _
  rw [pid]
  exact returns_pure outside

/-- `gkrtos_internal_syscall`, called for the running task. -/
theorem syscall_simulates (stackptr number : Word) (args : SyscallArgs) (task : TaskPtr) :
    Simulates (Outside mask) (Outside mask)
      (fun s => Invariant live s ∧ s.Legal live (.svc stackptr number args now) ∧ task = s.running)
      (internalSyscall task number args now) (·.answer (.svc stackptr number args now))
      (·.syscall number args now) := by
  rintro kernel s outside ⟨invariant, legal, rfl⟩
  rcases legal with rfl | ⟨rfl, room⟩ | ⟨rfl, alive, notSpin⟩ | ⟨rfl, alive, notSpin⟩ |
    ⟨rfl, alive, notSpin⟩ | unknown
  · exact yield_simulates now kernel s outside invariant
  · exact createTask_simulates args.createTask args.itemsAsTasks kernel s outside
      ⟨room, sleepers_inTable invariant⟩
  · have postponed := invariant_postpone args.milliseconds args.itemsAsTasks invariant alive notSpin
    exact sleepUntil_simulates now s.running args.milliseconds args.itemsAsTasks kernel s outside
      ⟨invariant, alive, postponed.choosable now⟩
  · exact die_simulates now s.running kernel s outside ⟨invariant, alive⟩
  · exact kill_simulates now args.pid kernel s outside ⟨invariant, alive⟩
  · have refused : internalSyscall s.running number args now =
        (pure (-syscallErrnoNoSuchSyscall) : KernelM Word) := internalSyscall_unknown unknown
    have answer : s.answer (.svc stackptr number args now) = -syscallErrnoNoSuchSyscall := by
      rw [Scheduler.answer, if_neg (ne_of_unknown unknown (by decide)), if_pos unknown]
    beta_reduce
    rw [refused, answer, Scheduler.syscall_unknown unknown]
    exact returns_pure outside

/-! ## Exception handlers -/

theorem svcall_simulates (stackptr number : Word) (args : SyscallArgs) :
    Simulates (Outside mask) (Outside mask)
      (fun s => Invariant live s ∧ s.Legal live (.svc stackptr number args now))
      (svcallHandler stackptr number args now) (·.answer (.svc stackptr number args now))
      (·.syscall number args now) := by
  rintro kernel s outside ⟨invariant, legal⟩
  have running : (kernel.cores kernel.cpuid).currentlyRunningPid = s.running :=
    congrArg Scheduler.running outside.shows
  obtain ⟨kernel', run, outside'⟩ := syscall_simulates now stackptr number args s.running kernel s
    outside ⟨invariant, legal, rfl⟩
  refine returns_of_run (by simp [svcallHandler, taskingGetCurrentTask, running, run]; rfl) ?_
  obtain ⟨sound, shows, free, enabled, log⟩ := outside'
  exact ⟨sound.of_same rfl rfl rfl rfl rfl, shows, free, enabled, log⟩

theorem systick_simulates (stackptr : Word) (now' now'' : AbsoluteTime) :
    Simulates (Outside mask) (Outside mask) (Invariant live)
      (systickHandler stackptr now now' now'') (fun _ => stackptr) (·.systick now now' now'') := by
  intro kernel s outside invariant
  have running := Nat.lt_of_lt_of_le invariant.numbered.running invariant.numbered.bound
  refine returns_bind (rescheduleRequired_simulates now now' kernel s outside
    ⟨running, sleepers_inTable invariant⟩) fun kernel outside => ?_
  by_cases required : s.RescheduleRequired now now'
  · simp only [required, decide_true, if_true, Scheduler.systick]
    refine returns_bind (getNextTask_simulates now'' kernel s outside (choosable invariant))
      fun kernel outside => ?_
    refine returns_bind (queueContextSwitch_simulates _ kernel _ outside
      (invariant.inTable (choice_live now'' invariant))) fun kernel outside => ?_
    exact returns_pure outside
  · simp only [required, decide_false, Bool.false_eq_true, if_false, Scheduler.systick]
    exact returns_pure outside

section Pendsv

variable {stackptr : Word} {now now' : AbsoluteTime}

omit [Malloc] in
/-- With the running task in the slot PendSV only disables interrupts. -/
theorem pendsvHandlerC_stay (running : kernel.running < configMaxTasks)
    (same : kernel.queued = (kernel.taskList kernel.running).pid) :
    pendsvHandlerC stackptr now now' kernel = .ok stackptr { kernel with primask := true } := by
  have current : (kernel.cores kernel.cpuid).queuedTask =
      (kernel.taskList (kernel.cores kernel.cpuid).currentlyRunningPid).pid := same
  have inTable : (kernel.cores kernel.cpuid).currentlyRunningPid < configMaxTasks := running
  simp [pendsvHandlerC, saveAndDisableInterrupts_eq, inTable, ← current]

omit [Malloc] in
theorem pendsvHandlerC_switch (running : kernel.running < configMaxTasks)
    (queued : kernel.queued < configMaxTasks)
    (different : kernel.queued ≠ (kernel.taskList kernel.running).pid) (table : TaskPtr → Task)
    (written : table = Function.update kernel.taskList kernel.running
      (stopped stackptr now (kernel.taskList kernel.running))) :
    pendsvHandlerC stackptr now now' kernel = .ok (table kernel.queued).stackptr
      { kernel with
        taskList := Function.update table kernel.queued (resumed now' (table kernel.queued))
        cores := Function.update kernel.cores kernel.cpuid
          { kernel.cores kernel.cpuid with currentlyRunningPid := (table kernel.queued).pid }
        trace := kernel.trace ++ [.dispatched (table kernel.queued).pid] } := by
  have current : ¬ (kernel.cores kernel.cpuid).queuedTask =
      (kernel.taskList (kernel.cores kernel.cpuid).currentlyRunningPid).pid := different
  have inTable : (kernel.cores kernel.cpuid).currentlyRunningPid < configMaxTasks := running
  have switched := @contextSwitch_run { kernel with primask := true } kernel.cpuid kernel.running
    kernel.queued stackptr now now' running queued table written
  simp only [Kernel.running, Kernel.queued] at switched
  simp [pendsvHandlerC, saveAndDisableInterrupts_eq, restoreInterrupts_eq, inTable, current, switched,
    observe]
  exact ⟨rfl, rfl, rfl, rfl⟩

end Pendsv

omit [Malloc] in
theorem pendsv_simulates (stackptr : Word) (now' : AbsoluteTime) :
    ∀ kernel s, Outside mask kernel s → Invariant live s →
      Returns (pendsvHandlerC stackptr now now') kernel (s.answer (.pendsv stackptr now now'))
        (Outside (s.maskAfter mask (.pendsv stackptr now now')) · (s.pendsv stackptr now now')) := by
  rintro kernel s ⟨sound, rfl, free, enabled, log⟩ invariant
  have numbered := invariant.numbered
  have running : kernel.running < configMaxTasks :=
    Nat.lt_of_lt_of_le numbered.running numbered.bound
  have queued : kernel.queued < configMaxTasks := Nat.lt_of_lt_of_le numbered.queued numbered.bound
  by_cases same : (view kernel).queued = (view kernel).pid (view kernel).running
  · simp only [Scheduler.answer, Scheduler.maskAfter, Scheduler.pendsv, same, if_true]
    exact returns_of_run (pendsvHandlerC_stay running same)
      ⟨sound.of_same rfl rfl rfl rfl rfl, rfl, free, rfl, log⟩
  · simp only [Scheduler.answer, Scheduler.maskAfter, Scheduler.pendsv, same, if_false]
    have other : kernel.queued ≠ kernel.running := by
      intro equal
      refine same ?_
      rw [numbered.pids _ numbered.running]
      exact equal
    have run := @pendsvHandlerC_switch kernel _ stackptr now now' running queued same _ rfl
    rw [Function.update_of_ne other] at run
    refine returns_of_run run ⟨sound.of_same rfl rfl rfl rfl rfl, ?_, free, enabled, log⟩
    have other' : (kernel.cores kernel.cpuid).queuedTask ≠
        (kernel.cores kernel.cpuid).currentlyRunningPid := other
    simp [view, Scheduler.contextSwitch, Scheduler.change, Scheduler.pid, Kernel.queued,
      Kernel.running, other']

/-- Every handler run. -/
theorem handle_simulates (action : Action) (outside : Outside mask kernel s)
    (invariant : Invariant live s) (legal : s.Legal live action) :
    Returns (handle action) kernel (s.answer action)
      (Outside (s.maskAfter mask action) · (s.handle action)) := by
  cases action with
  | svc stackptr number args now =>
    exact svcall_simulates now stackptr number args kernel s outside ⟨invariant, legal⟩
  | systick stackptr now now' now'' =>
    exact systick_simulates now stackptr now' now'' kernel s outside invariant
  | takePendsv =>
    obtain ⟨sound, rfl, free, enabled, log⟩ := outside
    exact returns_of_run rfl
      ⟨sound.of_same rfl rfl rfl rfl rfl, rfl, free, enabled, log⟩
  | pendsv stackptr now now' =>
    refine returns_bind (pendsv_simulates now stackptr now' kernel s outside invariant)
      fun kernel outside => returns_of_run rfl ?_
    obtain ⟨sound, shows, free, enabled, log⟩ := outside
    exact ⟨sound.of_same rfl rfl rfl rfl rfl,
      congrArg (fun s : Scheduler => { s with taken := false }) shows, free, enabled, log⟩

end Syscalls

/-! ## Steps -/

/-- What holds of a system between two steps. -/
structure Good (mask : InterruptMask) (system : System) (s : Scheduler) : Prop where
  outside : Outside mask system.kernel s
  invariant : Invariant system.live s

section Good

variable {system : System}

theorem Good.running (good : Good mask system s) : system.kernel.running = s.running :=
  congrArg Scheduler.running good.outside.shows

theorem Good.queued (good : Good mask system s) : system.kernel.queued = s.queued :=
  congrArg Scheduler.queued good.outside.shows

theorem Good.requested (good : Good mask system s) : system.kernel.pendsvPending = s.requested :=
  congrArg Scheduler.requested good.outside.shows

theorem Good.unscheduled (good : Good mask system s) : system.kernel.unscheduled = s.ring :=
  congrArg Scheduler.ring good.outside.shows

theorem Good.scheduled (good : Good mask system s) : system.kernel.scheduled = s.sleepers :=
  congrArg Scheduler.sleepers good.outside.shows

theorem Good.nextRunTime (good : Good mask system s) : system.kernel.nextRunTime = s.deadline :=
  congrArg Scheduler.deadline good.outside.shows

theorem Good.trace (good : Good mask system s) : system.kernel.trace = s.trace :=
  congrArg Scheduler.trace good.outside.shows

theorem caller_iff (good : Good mask system s) : system.Caller ↔ s.Caller system.live := by
  rw [System.Caller, good.running]
  rfl

end Good

theorem legal_iff {system : System} {action : Action} (good : Good mask system s) :
    system.Legal action ↔ s.Legal system.live action := by
  obtain ⟨⟨sound, rfl, free, enabled, log⟩, invariant⟩ := good
  cases action <;> exact Iff.rfl

theorem mayTake_iff {system : System} {action : Action} (good : Good mask system s) :
    system.MayTake action ↔ s.MayTake mask action := by
  obtain ⟨⟨sound, rfl, free, rfl, log⟩, invariant⟩ := good
  cases action with
  | svc stackptr number args now => exact Iff.rfl
  | systick stackptr now now' now'' =>
    have preempts : system.kernel.priority .systick < system.kernel.priority .pendsv := by
      rw [sound.priorities.2]
      exact Nat.lt_of_le_of_lt sound.priorities.1 (by decide)
    exact and_iff_left preempts
  | takePendsv => exact Iff.rfl
  | pendsv stackptr now now' => exact Iff.rfl

theorem permitted_iff {system : System} {action : Action} (good : Good mask system s) :
    system.Permitted action ↔ Permitted mask system.live s action :=
  and_congr (legal_iff good) (mayTake_iff good)

theorem legal_mirrors (mask : InterruptMask) (system : System) (s : Scheduler) (action : Action)
    (good : Good mask system s) (permitted : Permitted mask system.live s action) :
    system.Legal action ∧ system.Legal action :=
  and_self_iff.mpr ((legal_iff good).mpr permitted.1)

theorem permitted_mirrors (mask : InterruptMask) (system : System) (s : Scheduler) (action : Action)
    (good : Good mask system s) (permitted : Permitted mask system.live s action) :
    system.Permitted action ∧ system.Legal action :=
  ⟨(permitted_iff good).mpr permitted, (legal_iff good).mpr permitted.1⟩

/-- The system's record of live tasks is the scheduler's. -/
private theorem liveAfter_eq {system : System} (good : Good mask system s) (action : Action) :
    system.liveAfter (s.answer action) action = s.liveAfter system.live action := by
  have bound := good.invariant.numbered.bound
  obtain ⟨⟨sound, rfl, free, enabled, log⟩, invariant⟩ := good
  cases action with
  | svc stackptr number args now =>
    simp only [System.liveAfter, Scheduler.liveAfter, Scheduler.answer]
    split_ifs
    · rw [BitVec.toNat_ofNat, Nat.mod_eq_of_lt (Nat.lt_of_le_of_lt bound (by decide))]
    · rfl
    · rfl
    · rfl
  | systick stackptr now now' now'' => rfl
  | takePendsv => rfl
  | pendsv stackptr now now' => rfl

/-- A legal step succeeds, and it is the scheduler's step. -/
theorem step_simulates [PicoSdk] [Malloc] {system : System} {action : Action} (good : Good mask system s)
    (legal : system.Legal action) :
    ∃ system', system.step action = some system' ∧
      Good (s.maskAfter mask action) system' (s.step action) ∧
      system'.live = s.liveAfter system.live action := by
  have schedulerLegal := (legal_iff good).mp legal
  have live := liveAfter_eq good action
  obtain ⟨outside, invariant⟩ := good
  have cleared : Outside mask { system.kernel with trace := [], sections := [], listCalls := [] }
      { s with trace := [] } := by
    obtain ⟨sound, rfl, free, enabled, log⟩ := outside
    exact ⟨sound.of_same rfl rfl rfl rfl rfl, rfl, free, enabled, .nil, by simp⟩
  obtain ⟨kernel, run, handled⟩ := handle_simulates action cleared
    (invariant.of_record [] s.requested s.taken) schedulerLegal
  have answer : ({ s with trace := [] } : Scheduler).answer action = s.answer action := by
    cases action <;> rfl
  have mask' : ({ s with trace := [] } : Scheduler).maskAfter mask action = s.maskAfter mask action := by
    cases action <;> rfl
  rw [answer] at run
  rw [mask'] at handled
  refine ⟨⟨kernel, s.liveAfter system.live action⟩, ?_,
    ⟨handled, invariant_step invariant schedulerLegal⟩, rfl⟩
  simp only [System.step, run, live]

/-- There is no other next state. -/
theorem good_step [PicoSdk] [Malloc] {system next : System} {action : Action} (good : Good mask system s)
    (legal : system.Legal action) (stepped : system.step action = some next) :
    Good (s.maskAfter mask action) next (s.step action) ∧
      next.live = s.liveAfter system.live action := by
  obtain ⟨system', stepped', good', live⟩ := step_simulates good legal
  obtain rfl : next = system' := Option.some.inj (stepped.symm.trans stepped')
  exact ⟨good', live⟩

end Gkrtos.KernelRefinement
