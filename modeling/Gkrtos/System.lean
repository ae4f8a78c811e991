import Mathlib.Data.Finset.Basic
import Mathlib.Logic.Relation
import Gkrtos.Syscalls

/-! The kernel as a system that takes one handler after the other: how it is
brought up by `gkrtos_init` and `gkrtos_start` of `gkrtos.c`, which handler runs
can follow, and which of them the exception priorities allow. The tasks enter
only through the system calls they make. -/
namespace Gkrtos

/-! ## `gkrtos.c` -/

/-- The program image when `main` is entered: statics are zero, core 0 runs,
interrupts are enabled. -/
def Kernel.initial : Kernel where
  taskList := fun _ => Task.zero
  cores := fun _ => ⟨0, 0⟩
  scheduledQueue := 0
  unscheduledQueue := 0
  currentMaxPid := 1
  taskingStarted := false
  svcallStackptr := 0
  criticalSection := ⟨false, false⟩
  lists := ListStore.initial
  cpuid := 0
  primask := false
  priority := fun _ => 0
  pendsvPending := false
  pendsvActive := false
  trace := []
  sections := []
  listCalls := []

section Boot

variable [PicoSdk] [Malloc]

/-- `gkrtos_critical_section_init`, for the section the kernel uses. -/
def criticalSectionInit : KernelM Result := do
  modify fun kernel => { kernel with criticalSection := { kernel.criticalSection with held := false } }
  let (criticalSection, primask) := PicoSdk.criticalSectionExit (← get).criticalSection
  modify fun kernel => { kernel with criticalSection, primask }
  return .success

/-- `gkrtos_set_register` on the priority field of an exception. -/
def setPriority (exception : Exception) (value : Nat) : KernelM Unit :=
  modify fun kernel => { kernel with priority := Function.update kernel.priority exception value }

/-- `gkrtos_init_pendsv_handler` -/
def initPendsvHandler : KernelM Result := do
  setPriority .pendsv pendsvPriority
  return .success

/-- `gkrtos_init_svcall_handler` -/
def initSvcallHandler : KernelM Result := do
  setPriority .svcall svcallPriority
  return .success

/-- `gkrtos_init_systick_handler`; the reload value of the timer is not
modelled. -/
def initSystickHandler : KernelM Result := do
  setPriority .systick systickPriority
  return .success

/-- `gkrtos_init`, given the addresses of `gkrtos_internal_spin_task` and of
`spin_task_stack`. -/
def init (spinTask spinTaskStack : Word) : KernelM Result := do
  if (← criticalSectionInit) = .success then
    if (← initPendsvHandler) = .success then
      if (← initSvcallHandler) = .success then
        if (← internalTaskingInit) = .success then
          let spinTaskArgs : CreateTaskArgs := ⟨taskingPriorityUserBase, spinTask, spinTaskStack, 0⟩
          let _ ← internalSyscall (← taskingGetCurrentTask) syscallCreateTask
            { SyscallArgs.zero with createTask := spinTaskArgs } 0
          return .success
  return .error

/-- `gkrtos_start` up to `gkrtos_internal_begin_tasking`, which does not
return. -/
def start (now : AbsoluteTime) : KernelM Unit := do
  if (← initSystickHandler) = .success then
    modify fun kernel => { kernel with taskingStarted := true }
    -- Force the first task to run
    storeCore 0 fun core => { core with queuedTask := 1 }
    storeCore 0 fun core => { core with currentlyRunningPid := 1 }
    storeTask 1 fun task => { task with taskStatus := .running }
    storeTask 1 fun task => { task with
      accounting := { task.accounting with ctxSwitchTime := now } }

/-- The calls to `gkrtos_create_task` that `main` makes between the two. Tasking
has not started, so `gkrtos_syscall` goes to `gkrtos_internal_syscall`. -/
def createTasks : List CreateTaskArgs → KernelM (List Word)
  | [] => return []
  | args :: rest => do
    let pid ← internalSyscall (← taskingGetCurrentTask) syscallCreateTask
      { SyscallArgs.zero with createTask := args } 0
    return pid :: (← createTasks rest)

def launch (spinTask spinTaskStack : Word) (tasks : List CreateTaskArgs) (now : AbsoluteTime) :
    KernelM (List Word) := do
  let _ ← init spinTask spinTaskStack
  let pids ← createTasks tasks
  start now
  return pids

end Boot

/-! ## Handlers one after the other -/

/-- A handler run. PendSV is taken in two steps, since another exception can
come in before its handler disables interrupts. -/
inductive Action where
  | svc (stackptr syscall : Word) (args : SyscallArgs) (now : AbsoluteTime)
  | systick (stackptr : Word) (now now' now'' : AbsoluteTime)
  | takePendsv
  | pendsv (stackptr : Word) (now now' : AbsoluteTime)
  deriving DecidableEq, Repr

/-- The clock readings of a handler run, in the order in which it makes them. -/
def Action.times : Action → List AbsoluteTime
  | .svc _ _ _ now => [now]
  | .systick _ now now' now'' => [now, now', now'']
  | .takePendsv => []
  | .pendsv _ now now' => [now, now']

/-- The system calls that end a task. -/
def Action.Kills : Action → Prop
  | .svc _ syscall _ _ => syscall = syscallKill ∨ syscall = syscallDie
  | _ => False

instance : DecidablePred Action.Kills
  | .svc _ _ _ _ => inferInstanceAs (Decidable (_ ∨ _))
  | .systick _ _ _ _ | .takePendsv | .pendsv _ _ _ => inferInstanceAs (Decidable False)

/-- The handler that switches tasks. -/
def Action.Switches : Action → Prop
  | .pendsv _ _ _ => True
  | _ => False

instance : DecidablePred Action.Switches
  | .pendsv _ _ _ => inferInstanceAs (Decidable True)
  | .svc _ _ _ _ | .systick _ _ _ _ | .takePendsv => inferInstanceAs (Decidable False)

/-- The handlers that no thread code calls. -/
def Action.Interrupts : Action → Prop
  | .svc _ _ _ _ => False
  | _ => True

/-- A sleep lasts until a time before the end of time. -/
def Action.SleepEnds : Action → Prop
  | .svc _ syscall args _ => syscall = syscallSleepUntil →
    1 ≤ args.milliseconds.toNat ∧ args.milliseconds.toNat < 2 ^ 63
  | _ => True

instance : DecidablePred Action.SleepEnds
  | .svc _ _ _ _ => inferInstanceAs (Decidable (_ → _))
  | .systick _ _ _ _ | .takePendsv | .pendsv _ _ _ => inferInstanceAs (Decidable True)

/-- The kernel together with the tasks that were created and not killed. -/
structure System where
  kernel : Kernel
  live : Finset Pid

def Kernel.running (kernel : Kernel) : Pid := (kernel.cores kernel.cpuid).currentlyRunningPid

def Kernel.queued (kernel : Kernel) : Pid := (kernel.cores kernel.cpuid).queuedTask

/-- The kernel with an empty record. -/
def Kernel.unrecorded (kernel : Kernel) : Kernel :=
  { kernel with trace := [], sections := [], listCalls := [] }

section Steps

variable [PicoSdk] [Malloc]

def handle : Action → KernelM Word
  | .svc stackptr syscall args now => svcallHandler stackptr syscall args now
  | .systick stackptr now now' now'' => systickHandler stackptr now now' now''
  | .takePendsv => do
    modify fun kernel => { kernel with pendsvPending := false, pendsvActive := true }
    return 0
  | .pendsv stackptr now now' => do
    let newSp ← pendsvHandlerC stackptr now now'
    modify fun kernel => { kernel with pendsvActive := false }
    return newSp

/-- The tasks alive after a handler that returned `result`. -/
def System.liveAfter (system : System) (result : Word) : Action → Finset Pid
  | .svc _ syscall args _ =>
    if syscall = syscallCreateTask then insert result.toNat system.live
    else if syscall = syscallKill then system.live.erase args.pid
    else if syscall = syscallDie then system.live.erase system.kernel.running
    else system.live
  | _ => system.live

/-- A step records the events of its own handler only. A handler that ends in a
fault has no next state. -/
def System.step (system : System) (action : Action) : Option System :=
  match handle action { system.kernel with trace := [], sections := [], listCalls := [] } with
  | .ok result kernel => some ⟨kernel, system.liveAfter result action⟩
  | .error _ _ => none

theorem System.step_ok {system next : System} {action : Action}
    (stepped : system.step action = some next) :
    ∃ result, handle action system.kernel.unrecorded = .ok result next.kernel ∧
      next.live = system.liveAfter result action := by
  unfold System.step at stepped
  split at stepped
  case h_1 result kernel run =>
    cases stepped
    exact ⟨result, run, rfl⟩
  case h_2 => cases stepped

/-- The kernel has just been started, with fewer than 128 pids handed out. -/
def System.Started (system : System) : Prop :=
  ∃ spinTask spinTaskStack tasks now pids, tasks.length + 1 < configMaxTasks ∧
    launch spinTask spinTaskStack tasks now Kernel.initial = .ok pids system.kernel ∧
      system.live = insert 1 (pids.map BitVec.toNat).toFinset

/-- The kernel has just been started, with this reading of the clock. -/
def System.StartedAt (start : AbsoluteTime) (system : System) : Prop :=
  ∃ spinTask spinTaskStack tasks pids, tasks.length + 1 < configMaxTasks ∧
    launch spinTask spinTaskStack tasks start Kernel.initial = .ok pids system.kernel ∧
      system.live = insert 1 (pids.map BitVec.toNat).toFinset

/-- The kernel has just been started, with these tasks. -/
def System.StartedWith (tasks : List CreateTaskArgs) (now : AbsoluteTime)
    (system : System) : Prop :=
  ∃ spinTask spinTaskStack pids, tasks.length + 1 < configMaxTasks ∧
    launch spinTask spinTaskStack tasks now Kernel.initial = .ok pids system.kernel ∧
      system.live = insert 1 (pids.map BitVec.toNat).toFinset

theorem System.started_iff {system : System} :
    system.Started ↔ ∃ start, system.StartedAt start := by
  constructor
  · rintro ⟨spinTask, spinTaskStack, tasks, now, pids, launched⟩
    exact ⟨now, spinTask, spinTaskStack, tasks, pids, launched⟩
  · rintro ⟨now, spinTask, spinTaskStack, tasks, pids, launched⟩
    exact ⟨spinTask, spinTaskStack, tasks, now, pids, launched⟩

/-! ## Which steps can be taken -/

/-- Thread code of a task that has not been killed, other than the spin task. -/
def System.Caller (system : System) : Prop :=
  system.kernel.running ∈ system.live ∧ system.kernel.running ≠ 1

/-- System calls as tasks make them, with fewer than 128 pids handed out. The
spin task neither sleeps nor dies. A killed task that has not been switched out
may still yield and create tasks; its other calls would dereference NULL. A
number that is no system call is refused. -/
def System.Legal (system : System) : Action → Prop
  | .svc _ syscall args _ =>
    syscall = syscallYield ∨
    syscall = syscallCreateTask ∧ system.kernel.currentMaxPid < configMaxTasks ∨
    syscall = syscallSleepUntil ∧ system.Caller ∨
    syscall = syscallDie ∧ system.Caller ∨
    syscall = syscallKill ∧ args.pid ∈ system.live ∧ args.pid ≠ 1 ∨
    syscallTaskNextTick < syscall
  | _ => True

/-- Which exceptions can be taken: none while interrupts are disabled, a system
call only while thread code runs, with no PendSV to be taken first, and SysTick
also before a PendSV or in its first instructions. -/
def System.MayTake (system : System) : Action → Prop
  | .svc _ _ _ _ => system.kernel.primask = false ∧ system.kernel.pendsvPending = false ∧
    system.kernel.pendsvActive = false
  | .systick _ _ _ _ => system.kernel.primask = false ∧
    system.kernel.priority .systick < system.kernel.priority .pendsv
  | .takePendsv => system.kernel.primask = false ∧ system.kernel.pendsvPending = true ∧
    system.kernel.pendsvActive = false
  | .pendsv _ _ _ => system.kernel.pendsvActive = true

/-- Steps of tasks that keep to the rules and of hardware that keeps to the
priorities. -/
def System.Permitted (system : System) (action : Action) : Prop :=
  system.Legal action ∧ system.MayTake action

/-- One step under the restrictions a property is stated for. -/
def System.Step (allowed : System → Action → Prop) (system system' : System) : Prop :=
  ∃ action, allowed system action ∧ system.step action = some system'

/-- Some run of such steps from a start of the kernel ends here. -/
def System.Reachable (allowed : System → Action → Prop) (system : System) : Prop :=
  ∃ started : System, started.Started ∧ Relation.ReflTransGen (System.Step allowed) started system

theorem System.Reachable.imp {allowed allowed' : System → Action → Prop} {system : System}
    (weaker : ∀ system action, allowed system action → allowed' system action)
    (reachable : system.Reachable allowed) : system.Reachable allowed' := by
  obtain ⟨started, isStarted, run⟩ := reachable
  refine ⟨started, isStarted, Relation.ReflTransGen.mono ?_ _ _ run⟩
  rintro system system' ⟨action, isAllowed, stepped⟩
  exact ⟨action, weaker system action isAllowed, stepped⟩

theorem System.Reachable.step {allowed : System → Action → Prop} {system next : System}
    {action : Action} (reachable : system.Reachable allowed) (isAllowed : allowed system action)
    (stepped : system.step action = some next) : next.Reachable allowed := by
  obtain ⟨started, isStarted, run⟩ := reachable
  exact ⟨started, isStarted, run.tail ⟨action, isAllowed, stepped⟩⟩

/-- The run that takes these steps in turn. -/
def System.Runs (allowed : System → Action → Prop) : List Action → System → System → Prop
  | [], system, final => system = final
  | action :: rest, system, final => allowed system action ∧
    ∃ next, system.step action = some next ∧ System.Runs allowed rest next final

/-- It starts at a start of the kernel. -/
def System.ReachedBy (allowed : System → Action → Prop) (actions : List Action)
    (system : System) : Prop :=
  ∃ started : System, started.Started ∧ System.Runs allowed actions started system

variable {allowed : System → Action → Prop} {actions : List Action} {system final : System}

theorem System.Runs.imp {allowed' : System → Action → Prop}
    (weaker : ∀ system action, allowed system action → allowed' system action)
    (run : System.Runs allowed actions system final) :
    System.Runs allowed' actions system final := by
  induction actions generalizing system with
  | nil => exact run
  | cons action rest ih =>
    obtain ⟨isAllowed, next, stepped, run⟩ := run
    exact ⟨weaker system action isAllowed, next, stepped, ih run⟩

theorem System.Runs.steps (run : System.Runs allowed actions system final) :
    Relation.ReflTransGen (System.Step allowed) system final := by
  induction actions generalizing system with
  | nil =>
    obtain rfl : system = final := run
    exact .refl
  | cons action rest ih =>
    obtain ⟨isAllowed, next, stepped, run⟩ := run
    exact .head ⟨action, isAllowed, stepped⟩ (ih run)

theorem System.ReachedBy.reachable (reached : System.ReachedBy allowed actions system) :
    system.Reachable allowed := by
  obtain ⟨started, isStarted, run⟩ := reached
  exact ⟨started, isStarted, run.steps⟩

end Steps

end Gkrtos
