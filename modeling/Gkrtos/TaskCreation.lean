import Gkrtos.CriticalSections
import Gkrtos.QueueIntegrity
import Gkrtos.SyscallResults

/-! Creating a task, in any sequence of system calls with any arguments, before
and after tasking is started. While the counter of pids is inside the task table,
a new task gets a pid no other task got, an entry of its own and a place in one
of the queues. The counter is not compared with the size of the table: once 127
pids are handed out, the next creation writes behind the table, and the error
number for that case is never returned. -/
namespace Gkrtos.TaskCreation
open Stateful ListRefinement KernelRefinement CriticalSections QueueIntegrity Scheduler

variable {kernel kernel' : Kernel} {pids : List Word} {stackptr value : Word}
variable {args : SyscallArgs} {now : AbsoluteTime}

/-! ## Sequences of calls -/

section Calls

variable [PicoSdk] [Malloc]

/-- Some sequence of system calls, interleaved with interrupts, ends in this
kernel state, and its creations of tasks returned these pids. The first of them
is the one of `gkrtos_init`. -/
inductive Reaches : Kernel → List Word → Prop where
  | booted {kernel : Kernel} {spinTask spinTaskStack : Word}
      (run : init spinTask spinTaskStack Kernel.initial = .ok .success kernel) : Reaches kernel [1]
  | created {kernel kernel' : Kernel} {pids : List Word} {stackptr value : Word}
      {args : SyscallArgs} {now : AbsoluteTime} (before : Reaches kernel pids)
      (run : syscall (svcallHandler stackptr) syscallCreateTask args now kernel.unrecorded =
        .ok value kernel') : Reaches kernel' (pids ++ [value])
  | called {kernel kernel' : Kernel} {pids : List Word} {stackptr number value : Word}
      {args : SyscallArgs} {now : AbsoluteTime} (before : Reaches kernel pids)
      (other : number ≠ syscallCreateTask)
      (run : syscall (svcallHandler stackptr) number args now kernel.unrecorded =
        .ok value kernel') : Reaches kernel' pids
  | started {kernel kernel' : Kernel} {pids : List Word} {now : AbsoluteTime}
      (before : Reaches kernel pids) (run : start now kernel = .ok () kernel') :
      Reaches kernel' pids
  | interrupted {kernel kernel' : Kernel} {pids : List Word} {action : Action} {result : Word}
      (before : Reaches kernel pids) (interrupt : action.Interrupts)
      (run : handle action kernel.unrecorded = .ok result kernel') : Reaches kernel' pids

end Calls

/-- The new task has a pid of its own, and only its entry of the table and its
place in a queue are new. -/
structure TakesPid (pids : List Word) (args : CreateTaskArgs) (kernel : Kernel) (value : Word)
    (kernel' : Kernel) : Prop where
  fresh : value ∉ pids
  positive : 1 ≤ value.toNat
  inTable : value.toNat < configMaxTasks
  record : kernel'.taskList value.toNat = newborn value.toNat args (kernel.taskList value.toNat)
  others : ∀ task, task ≠ value.toNat → kernel'.taskList task = kernel.taskList task
  queued : Inserted value.toNat kernel.unscheduled kernel'.unscheduled ∧
      kernel'.scheduled = kernel.scheduled ∨
    Inserted value.toNat kernel.scheduled kernel'.scheduled ∧
      kernel'.unscheduled = kernel.unscheduled

/-- All pids are in use, which is reported, and nothing has changed. -/
structure RefusesPid (pids : List Word) (kernel : Kernel) (value : Word) (kernel' : Kernel) :
    Prop where
  full : ∀ pid, 1 ≤ pid → pid < configMaxTasks → BitVec.ofNat 32 pid ∈ pids
  error : value = syscallErrnoMaxReached ∨ value = -syscallErrnoMaxReached
  taskList : kernel'.taskList = kernel.taskList
  currentMaxPid : kernel'.currentMaxPid = kernel.currentMaxPid
  scheduled : kernel'.scheduled = kernel.scheduled
  unscheduled : kernel'.unscheduled = kernel.unscheduled

/-- The creation of a task stays inside the task table. -/
def CreatesProperly [PicoSdk] [Malloc] (pids : List Word) (kernel : Kernel) (stackptr : Word)
    (args : SyscallArgs) (now : AbsoluteTime) : Prop :=
  ∃ value kernel', syscall (svcallHandler stackptr) syscallCreateTask args now kernel.unrecorded =
      .ok value kernel' ∧
    (TakesPid pids args.createTask kernel value kernel' ∨ RefusesPid pids kernel value kernel')

/-! ## What is kept -/

/-- Whatever was called: the queues are sound, the section is free, and the pids
were counted from 1. -/
structure Sturdy (pids : List Word) (kernel : Kernel) : Prop where
  steady : Steady (pids.length + 1) kernel
  free : kernel.criticalSection.held = false
  numbered : ∀ pid ∈ pids, 1 ≤ pid.toNat ∧ pid.toNat ≤ pids.length

theorem Sturdy.outside (sturdy : Sturdy pids kernel) :
    Outside kernel.primask kernel.unrecorded (view kernel.unrecorded) := by
  have sound := sturdy.steady.sound
  exact ⟨sound.of_same rfl rfl rfl rfl rfl,
    rfl, sturdy.free, rfl, .nil, fun _ member => absurd member List.not_mem_nil⟩

theorem Sturdy.unrecorded (sturdy : Sturdy pids kernel) :
    Steady (pids.length + 1) kernel.unrecorded :=
  steady_of_layout (by rfl) sturdy.steady

theorem Sturdy.unused (sturdy : Sturdy pids kernel) : Free kernel.unrecorded :=
  ⟨sturdy.free, .nil⟩

section Steps

variable [PicoSdk]

theorem enqueue_inserts (s : Scheduler) (task : TaskPtr) (read : ItemsAsTasks) :
    Inserted task s.ring (s.enqueue task read).ring ∧ (s.enqueue task read).sleepers = s.sleepers ∨
      Inserted task s.sleepers (s.enqueue task read).sleepers ∧
        (s.enqueue task read).ring = s.ring := by
  by_cases awake : s.deadline task = nilTime
  · rw [enqueue_awake awake]
    exact .inl ⟨inserted_insertSecond task s.ring, rfl⟩
  by_cases goesFirst : s.GoesFirst task
  · rw [enqueue_first awake goesFirst]
    exact .inr ⟨inserted_head task s.sleepers, rfl⟩
  · rw [enqueue_behind awake goesFirst]
    exact .inr ⟨inserted_insertBehind _ task s.sleepers, rfl⟩

theorem createTask_inserts (s : Scheduler) (args : CreateTaskArgs) (read : ItemsAsTasks) :
    Inserted s.maxPid s.ring (s.createTask args read).ring ∧
        (s.createTask args read).sleepers = s.sleepers ∨
      Inserted s.maxPid s.sleepers (s.createTask args read).sleepers ∧
        (s.createTask args read).ring = s.ring :=
  enqueue_inserts ({ s with maxPid := s.maxPid + 1 }.change s.maxPid (newborn s.maxPid args))
    s.maxPid read

variable [Malloc]

/-- Before and after tasking is started a system call is the same function; the
trap notes its stack pointer. -/
theorem syscall_ok {number : Word} : syscall (svcallHandler stackptr) number args now kernel =
      .ok value kernel' ↔
    ∃ between, internalSyscall kernel.running number args now kernel = .ok value between ∧
      kernel' = if kernel.taskingStarted then { between with svcallStackptr := stackptr }
        else between := by
  cases started : kernel.taskingStarted with
  | false =>
    have direct : syscall (svcallHandler stackptr) number args now kernel =
        internalSyscall kernel.running number args now kernel := by
      simp [Gkrtos.syscall, started, taskingGetCurrentTask, Kernel.running]
    rw [direct]
    constructor
    · exact fun run => ⟨kernel', run, rfl⟩
    · rintro ⟨between, run, rfl⟩
      exact run
  | true =>
    have trap : syscall (svcallHandler stackptr) number args now kernel =
        svcallHandler stackptr number args now kernel := by
      simp [Gkrtos.syscall, started]
    rw [trap]
    constructor
    · intro run
      obtain ⟨current, _, loaded, call⟩ := bind_ok.mp run
      cases (loaded : EStateM.Result.ok kernel.running kernel = _)
      obtain ⟨result, between, called, noted⟩ := bind_ok.mp call
      cases noted
      exact ⟨between, called, rfl⟩
    · rintro ⟨between, run, rfl⟩
      have called : internalSyscall (kernel.cores kernel.cpuid).currentlyRunningPid number args now
          kernel = .ok value between := run
      simp [svcallHandler, taskingGetCurrentTask, called]

omit [Malloc] in
/-- The index of a new task is the counter. -/
theorem taskNew_counts {priority : TaskingPriority} {task : TaskPtr}
    (run : taskingTaskNew priority kernel = .ok task kernel') : task = kernel.currentMaxPid := by
  have beside : BesideSection (fun _ => True) Kernel.currentMaxPid :=
    ⟨fun _ _ _ _ => rfl, trivial⟩
  obtain ⟨entered, inside, enter, counting⟩ := bind_ok.mp run
  have kept : inside.currentMaxPid = kernel.currentMaxPid := (keeps_enter beside).ok enter
  obtain ⟨found, _, got, increment⟩ := bind_ok.mp counting
  obtain ⟨rfl, rfl⟩ := get_ok got
  obtain ⟨_, _, -, leaving⟩ := bind_ok.mp increment
  obtain ⟨_, _, -, filling⟩ := bind_ok.mp leaving
  obtain ⟨_, _, -, returning⟩ := bind_ok.mp filling
  injection returning with result
  exact result.symm.trans kept

/-- A creation that returns had room in the table. -/
theorem Sturdy.room (sturdy : Sturdy pids kernel)
    (run : syscall (svcallHandler stackptr) syscallCreateTask args now kernel.unrecorded =
      .ok value kernel') : pids.length + 1 < configMaxTasks := by
  obtain ⟨between, called, -⟩ := syscall_ok.mp run
  have create : internalSyscallCreateTask args.createTask args.itemsAsTasks kernel.unrecorded =
      .ok value between := called
  obtain ⟨index, _, new, -⟩ := bind_ok.mp create
  have inside := (taskingTaskNew_ok new).1
  rw [taskNew_counts new, sturdy.unrecorded.counted] at inside
  exact inside

omit [PicoSdk] [Malloc] in
/-- Where the trap notes its stack pointer plays no part. -/
theorem sturdy_noted (started : Bool) (stackptr : Word) (sturdy : Sturdy pids kernel) :
    Sturdy pids (if started then { kernel with svcallStackptr := stackptr } else kernel) := by
  split
  · exact ⟨steady_of_layout (by rfl) sturdy.steady, sturdy.free, sturdy.numbered⟩
  · exact sturdy

omit [PicoSdk] [Malloc] in
theorem takesPid_noted {args : CreateTaskArgs} (started : Bool) (stackptr : Word)
    (takes : TakesPid pids args kernel value kernel') : TakesPid pids args kernel value
      (if started then { kernel' with svcallStackptr := stackptr } else kernel') := by
  split
  · exact ⟨takes.fresh, takes.positive, takes.inTable, takes.record, takes.others, takes.queued⟩
  · exact takes

omit [PicoSdk] [Malloc] in
/-- Handing out the next number keeps the numbers in range. -/
theorem numbered_next {pid : Word} (numbered : ∀ pid ∈ pids, 1 ≤ pid.toNat ∧ pid.toNat ≤ pids.length)
    (next : pid.toNat = pids.length + 1) :
    ∀ other ∈ pids ++ [pid], 1 ≤ other.toNat ∧ other.toNat ≤ (pids ++ [pid]).length := by
  intro other member
  rw [List.length_append, List.length_singleton]
  cases List.mem_append.mp member with
  | inl old =>
    have bounds := numbered other old
    omega
  | inr new =>
    rw [List.mem_singleton.mp new, next]
    omega

/-- With room in the table a new task is created as it should be. -/
theorem creates (sturdy : Sturdy pids kernel) (room : pids.length + 1 < configMaxTasks)
    (stackptr : Word) (args : SyscallArgs) (now : AbsoluteTime) :
    ∃ value kernel', syscall (svcallHandler stackptr) syscallCreateTask args now kernel.unrecorded =
        .ok value kernel' ∧ Sturdy (pids ++ [value]) kernel' ∧
      TakesPid pids args.createTask kernel value kernel' := by
  have counted : kernel.currentMaxPid = pids.length + 1 := sturdy.steady.counted
  have inside : kernel.currentMaxPid < configMaxTasks := counted.symm ▸ room
  obtain ⟨between, run, created⟩ := createTask_simulates args.createTask args.itemsAsTasks
    kernel.unrecorded _ sturdy.outside ⟨inside, sturdy.steady.sleepers⟩
  have shows : view between =
      (view kernel.unrecorded).createTask args.createTask args.itemsAsTasks := created.shows
  have table : between.taskList = Function.update kernel.taskList kernel.currentMaxPid
      (newborn kernel.currentMaxPid args.createTask (kernel.taskList kernel.currentMaxPid)) :=
    (congrArg Scheduler.table shows).trans (enqueue_fields _ _ _).1
  have maxPid : between.currentMaxPid = kernel.currentMaxPid + 1 :=
    (congrArg Scheduler.maxPid shows).trans (createTask_fields _ _ _).1
  have queued : Inserted kernel.currentMaxPid kernel.unscheduled between.unscheduled ∧
        between.scheduled = kernel.scheduled ∨
      Inserted kernel.currentMaxPid kernel.scheduled between.scheduled ∧
        between.unscheduled = kernel.unscheduled := by
    have ring : between.unscheduled = _ := congrArg Scheduler.ring shows
    have sleepers : between.scheduled = _ := congrArg Scheduler.sleepers shows
    rw [ring, sleepers]
    exact createTask_inserts (view kernel.unrecorded) args.createTask args.itemsAsTasks
  have number : (BitVec.ofNat 32 kernel.currentMaxPid).toNat = kernel.currentMaxPid := by
    rw [BitVec.toNat_ofNat, Nat.mod_eq_of_lt (Nat.lt_trans inside (by decide))]
  have numbered := numbered_next sturdy.numbered (number.trans counted)
  have sleepers : ∀ task ∈ between.scheduled, task < configMaxTasks := by
    intro task member
    rcases queued with ⟨-, same⟩ | ⟨inserted, -⟩
    · exact sturdy.steady.sleepers task (same ▸ member)
    · cases inserted.mem member with
      | inl new => exact new ▸ inside
      | inr old => exact sturdy.steady.sleepers task old
  refine ⟨_, _, syscall_ok.mpr ⟨between, run, rfl⟩, sturdy_noted _ _ ?_, takesPid_noted _ _ ?_⟩
  · refine ⟨⟨created.sound, sleepers, ?_⟩, created.free, numbered⟩
    rw [maxPid, counted, List.length_append, List.length_singleton]
  · change TakesPid pids args.createTask kernel (BitVec.ofNat 32 kernel.currentMaxPid) between
    refine ⟨?_, ?_, ?_, ?_, ?_, ?_⟩
    · intro used
      have bound := (sturdy.numbered _ used).2
      rw [number, counted] at bound
      exact Nat.not_succ_le_self _ bound
    · rw [number, counted]
      exact Nat.succ_pos _
    · exact number.symm ▸ inside
    · rw [number, table, Function.update_self]
    · intro task different
      rw [number] at different
      rw [table, Function.update_of_ne different]
    · rw [number]
      exact queued

/-! ## Every sequence of calls -/

/-- A system call that returns is not the one that waits for itself. -/
theorem sturdy_called {number : Word} (sturdy : Sturdy pids kernel)
    (other : number ≠ syscallCreateTask)
    (run : syscall (svcallHandler stackptr) number args now kernel.unrecorded = .ok value kernel') :
    Sturdy pids kernel' := by
  obtain ⟨between, called, rfl⟩ := syscall_ok.mp run
  have steady := ((steadies_syscall _ args now other _).ok sturdy.unrecorded called).2
  have returns : number ≠ syscallTaskNextTick := by
    rintro rfl
    obtain ⟨blocked, blocks⟩ :=
      taskNextTick_blocks kernel.unrecorded sturdy.free kernel.unrecorded.running args now
    rw [blocks] at called
    cases called
  have free := ((syscall_leads _ args now returns).ok sturdy.unused called).2
  exact sturdy_noted _ _ ⟨steady, free.1, sturdy.numbered⟩

omit [PicoSdk] [Malloc] in
theorem sturdy_started (sturdy : Sturdy pids kernel) (run : start now kernel = .ok () kernel') :
    Sturdy pids kernel' := by
  obtain ⟨sound, sleepers, counted⟩ := sturdy.steady
  have core := sound.core
  simp [start, initSystickHandler, setPriority, storeCore, storeTask, configMaxTasks] at run
  subst run
  refine ⟨⟨⟨sound.heap, sound.scheduled, sound.unscheduled, sound.apart, core, ?_⟩, sleepers, counted⟩,
    sturdy.free, sturdy.numbered⟩
  simp [sound.priorities.2]

/-- The induction is on the sequence; each call starts sturdy. -/
theorem reaches_sturdy (reaches : Reaches kernel pids) : Sturdy pids kernel := by
  induction reaches with
  | @booted kernel spinTask spinTaskStack run =>
    obtain ⟨kernel', run', outside⟩ := init_returns spinTask spinTaskStack
    cases run.symm.trans run'
    obtain ⟨sound, shows, free, -, -⟩ := outside
    have sleepers : kernel.scheduled = [] :=
      (congrArg Scheduler.sleepers shows).trans (createTask_sleepers noTasks_numbered)
    have counted : kernel.currentMaxPid = 2 :=
      (congrArg Scheduler.maxPid shows).trans (createTask_fields _ _ _).1
    refine ⟨⟨sound, ?_, counted⟩, free, ?_⟩
    · rw [sleepers]
      exact fun task member => absurd member List.not_mem_nil
    · intro pid member
      rw [List.mem_singleton.mp member]
      decide
  | @created kernel kernel' pids stackptr value args now before run ih =>
    obtain ⟨value', kernel'', run', sturdy, -⟩ := creates ih (ih.room run) stackptr args now
    cases run.symm.trans run'
    exact sturdy
  | called before other run ih => exact sturdy_called ih other run
  | started before run ih => exact sturdy_started ih run
  | @interrupted kernel kernel' pids action result before interrupt run ih =>
    have steady := ((steadies_interrupt interrupt _).ok ih.unrecorded run).2
    have other : ¬ SchedulesNextTick action := by
      cases action with
      | svc stackptr number args now => exact absurd interrupt id
      | systick stackptr now now' now'' => exact id
      | takePendsv => exact id
      | pendsv stackptr now now' => exact id
    have free := ((handle_leads other).ok ih.unused run).2
    exact ⟨steady, free.1, ih.numbered⟩

/-- In every sequence of calls, a creation is as it should be exactly as long as
fewer than 127 pids have been handed out. -/
theorem creates_properly_iff (reaches : Reaches kernel pids) (stackptr : Word) (args : SyscallArgs)
    (now : AbsoluteTime) :
    CreatesProperly pids kernel stackptr args now ↔ pids.length + 1 < configMaxTasks := by
  have sturdy := reaches_sturdy reaches
  constructor
  · rintro ⟨value, kernel', run, -⟩
    exact sturdy.room run
  · intro room
    obtain ⟨value, kernel', run, -, takes⟩ := creates sturdy room stackptr args now
    exact ⟨value, kernel', run, .inl takes⟩

/-- More pids can be handed out, up to the size of the table. -/
theorem reaches_more (reaches : Reaches kernel pids) (stackptr : Word) (args : SyscallArgs)
    (now : AbsoluteTime) (count : Nat) (room : pids.length + count < configMaxTasks) :
    ∃ kernel' pids', Reaches kernel' pids' ∧ pids'.length = pids.length + count := by
  induction count with
  | zero => exact ⟨kernel, pids, reaches, rfl⟩
  | succ count ih =>
    obtain ⟨between, taken, reached, length⟩ := ih (Nat.lt_of_succ_lt room)
    obtain ⟨value, kernel', run, -, -⟩ :=
      creates (reaches_sturdy reached) (length ▸ room) stackptr args now
    exact ⟨kernel', taken ++ [value], .created reached run, by rw [List.length_append, length]; rfl⟩

end Steps

section Example

attribute [local instance] PicoSdk.reference Malloc.reference

/-- What `main` passes for its first task. -/
private def firstArgs : SyscallArgs := ⟨0, 0, ⟨4, 0x10000601, 0x20002000, 50⟩, .zero⟩

/-- Tasks are created from the start on, until one entry of the table is left. -/
private theorem one_left :
    ∃ kernel pids, Reaches kernel pids ∧ pids.length + 2 = configMaxTasks := by
  obtain ⟨booted, boot, outside⟩ := init_returns 0x10000101 0x20001000
  obtain ⟨running, run, -⟩ := start_returns 0 outside
  have reaches : Reaches running [1] := .started (.booted boot) run
  obtain ⟨kernel, pids, reached, length⟩ :=
    reaches_more reaches 0x20000f00 firstArgs 100 125 (by decide)
  exact ⟨kernel, pids, reached, by rw [length]; rfl⟩

theorem creates_properly_iff_example : ∃ kernel pids, Reaches kernel pids ∧
    pids.length + 2 = configMaxTasks ∧ CreatesProperly pids kernel 0x20000f00 firstArgs 200 := by
  obtain ⟨kernel, pids, reaches, left⟩ := one_left
  refine ⟨kernel, pids, reaches, left, ?_⟩
  exact (creates_properly_iff reaches 0x20000f00 firstArgs 200).mpr (left ▸ Nat.lt_succ_self _)

/-- After the spin task, 127 more tasks are created; the last of them gets the
pid 128. -/
theorem table_overrun : ∃ kernel pids, Reaches kernel pids ∧ pids.length = 127 ∧
    ¬ CreatesProperly pids kernel 0 .zero 0 := by
  obtain ⟨booted, boot, -⟩ := init_returns 0 0
  have first : Reaches booted [1] := .booted boot
  obtain ⟨kernel, pids, reaches, length⟩ := reaches_more first 0 .zero 0 126 (by decide)
  refine ⟨kernel, pids, reaches, length, ?_⟩
  rintro ⟨value, kernel', run, -⟩
  have room := (reaches_sturdy reaches).room run
  rw [length] at room
  exact absurd room (by decide)

end Example

end Gkrtos.TaskCreation
