import Gkrtos.Tasking

/-! The system calls of `syscalls/syscalls_impl.c` and `syscalls/syscalls.c`,
and the C handlers of the three exceptions from `interrupts/`. The `args`
pointer of a system call is modelled by what it points at, read at each of the
types the dispatcher casts it to. -/
namespace Gkrtos

open PicoSdk

/-! ## `syscalls.h` -/

def syscallKill : Word := 0
def syscallYield : Word := 1
def syscallSleepUntil : Word := 2
def syscallDie : Word := 3
def syscallCreateTask : Word := 4
def syscallTaskNextTick : Word := 5

/-- Numbers beyond the system calls are none of them. -/
theorem ne_of_unknown {number known : Word} (unknown : syscallTaskNextTick < number)
    (least : known ≤ syscallTaskNextTick) : number ≠ known := by
  rintro rfl
  exact BitVec.not_le.mpr unknown least

def syscallErrnoSuccess : Word := 0
def syscallErrnoPidDoesNotExist : Word := 2
def syscallErrnoMaxReached : Word := 4
def syscallErrnoNoSuchSyscall : Word := 5

/-- `struct gkrtos_syscall_create_task_args` -/
structure CreateTaskArgs where
  priority : TaskingPriority
  function : Word
  stackBase : Word
  runFrequency : Word
  deriving DecidableEq, Repr

/-- The memory a system call reads through pointers of another type: what the
`args` pointer points at, and what `queue_sort` reads if the call gets there. -/
structure SyscallArgs where
  pid : Pid
  milliseconds : AbsoluteTime
  createTask : CreateTaskArgs
  itemsAsTasks : ItemsAsTasks
  deriving DecidableEq, Repr

/-- Arguments for the calls that read none of them. -/
def SyscallArgs.zero : SyscallArgs := ⟨0, 0, ⟨0, 0, 0, 0⟩, .zero⟩

section Syscalls

variable [PicoSdk] [Malloc]

/-! ## `syscalls_impl.c` -/

/-- The stack pointer `gkrtos_internal_stack_init` of `asm.S` returns for a
stack base: two frames of eight words are laid out below it. -/
def internalStackInit (stackBase : Word) : Word := stackBase - 64

/-- `gkrtos_internal_syscall_kill` -/
def internalSyscallKill (pid : Pid) (now : AbsoluteTime) : KernelM Word := do
  let dyingTask := pid
  storeTask dyingTask fun task => { task with taskStatus := .complete }
  -- Queue up the next task to start (since we are killing the current task)
  let nextTask ← internalTaskingGetNextTask now
  -- Dequeueing is delayed so that the next task is the correct one
  let _ ← taskingDequeueTask dyingTask
  let _ ← internalQueueContextSwitch nextTask
  return syscallErrnoSuccess

/-- `gkrtos_internal_syscall_die` -/
def internalSyscallDie (task : TaskPtr) (now : AbsoluteTime) : KernelM Word := do
  let _ ← internalSyscallKill (← loadTask task).pid now
  return syscallErrnoSuccess

/-- `gkrtos_internal_syscall_yield` -/
def internalSyscallYield (now : AbsoluteTime) : KernelM Word := do
  let nextTask ← internalTaskingGetNextTask now
  let _ ← internalQueueContextSwitch nextTask
  return syscallErrnoSuccess

/-- `gkrtos_internal_syscall_sleep_until` -/
def internalSyscallSleepUntil (task : TaskPtr) (milliseconds now : AbsoluteTime)
    (read : ItemsAsTasks) : KernelM Word := do
  let nextTask ← internalTaskingSleepUntil task milliseconds now read
  let _ ← internalQueueContextSwitch nextTask
  return syscallErrnoSuccess

/-- `gkrtos_internal_syscall_create_task` -/
def internalSyscallCreateTask (args : CreateTaskArgs) (read : ItemsAsTasks) : KernelM Word := do
  let newTask ← taskingTaskNew (taskingPriorityUser args.priority)
  storeTask newTask fun task => { task with
    function := args.function
    stackptr := internalStackInit args.stackBase
    stackbase := args.stackBase
    taskStatus := .sleeping
    runFrequency := args.runFrequency }
  let _ ← taskingQueueTask newTask read
  return BitVec.ofNat 32 (← loadTask newTask).pid

/-- `gkrtos_internal_syscall_task_next_tick` -/
def internalSyscallTaskNextTick (pid : Pid) (now : AbsoluteTime) (read : ItemsAsTasks) :
    KernelM Word := do
  let _ ← taskingScheduleNextTickTask pid now read
  return syscallErrnoSuccess

/-- `gkrtos_internal_syscall` -/
def internalSyscall (task : TaskPtr) (syscall : Word) (args : SyscallArgs) (now : AbsoluteTime) :
    KernelM Word :=
  if syscall = syscallDie then internalSyscallDie task now
  else if syscall = syscallYield then internalSyscallYield now
  else if syscall = syscallKill then internalSyscallKill args.pid now
  else if syscall = syscallSleepUntil then
    internalSyscallSleepUntil task args.milliseconds now args.itemsAsTasks
  else if syscall = syscallCreateTask then
    internalSyscallCreateTask args.createTask args.itemsAsTasks
  else if syscall = syscallTaskNextTick then
    internalSyscallTaskNextTick args.pid now args.itemsAsTasks
  else pure (-syscallErrnoNoSuchSyscall)

theorem internalSyscall_unknown {task : TaskPtr} {number : Word} {args : SyscallArgs}
    {now : AbsoluteTime} (unknown : syscallTaskNextTick < number) :
    internalSyscall task number args now = pure (-syscallErrnoNoSuchSyscall) := by
  have beyond {known : Word} : known ≤ syscallTaskNextTick → number ≠ known := ne_of_unknown unknown
  rw [internalSyscall, if_neg (beyond (by decide)), if_neg (beyond (by decide)),
    if_neg (beyond (by decide)), if_neg (beyond (by decide)), if_neg (beyond (by decide)),
    if_neg (beyond (by decide))]

/-- `gkrtos_syscall`. The trapping path, `gkrtos_trigger_svcall`, is a
parameter here. -/
def syscall (triggerSvcall : Word → SyscallArgs → AbsoluteTime → KernelM Word) (syscall : Word)
    (args : SyscallArgs) (now : AbsoluteTime) : KernelM Word := do
  if !(← get).taskingStarted then
    internalSyscall (← taskingGetCurrentTask) syscall args now
  else triggerSvcall syscall args now

/-! ## Exception handlers -/

/-- `gkrtos_svcall_handler` -/
def svcallHandler (stackptr syscallNumber : Word) (args : SyscallArgs) (now : AbsoluteTime) :
    KernelM Word := do
  let tr ← internalSyscall (← taskingGetCurrentTask) syscallNumber args now
  modify fun kernel => { kernel with svcallStackptr := stackptr }
  return tr

/-- `gkrtos_systick_handler` -/
def systickHandler (stackptr : Word) (now now' now'' : AbsoluteTime) : KernelM Word := do
  if ← taskingRescheduleRequired now now' then
    let nextTask ← internalTaskingGetNextTask now''
    let _ ← internalQueueContextSwitch nextTask
  return stackptr

/-- `gkrtos_pendsv_handler_c` -/
def pendsvHandlerC (stackptr : Word) (now now' : AbsoluteTime) : KernelM Word := do
  let (interrupts, masked) := saveAndDisableInterrupts (← get).primask
  modify fun kernel => { kernel with primask := masked }
  let coreId := (← get).cpuid
  let currentCore := (← get).cores coreId
  let currentTask : TaskPtr := currentCore.currentlyRunningPid
  let nextTask : TaskPtr := currentCore.queuedTask
  if currentCore.queuedTask = (← loadTask currentTask).pid then
    -- Looks like a new task was not queued. Just pop back to the former task.
    return stackptr
  else
    let newSp ← internalContextSwitch coreId currentTask nextTask stackptr now now'
    observe (.dispatched ((← get).cores coreId).currentlyRunningPid)
    modify fun kernel => { kernel with primask := restoreInterrupts interrupts }
    return newSp

end Syscalls

end Gkrtos
