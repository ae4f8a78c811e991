import Mathlib.Order.BooleanAlgebra.Set
import Gkrtos.StackInit
import Gkrtos.TrapPath

/-! What `isr_svcall` leaves of the task that made the system call. The C handler
may use the whole of the kernel's memory; for CREATE_TASK it calls
`gkrtos_internal_stack_init`, which writes the first frame of the new task and
moves the process stack pointer there. The caller's registers, its stack pointer
and its stack come back, with the result in the stacked `r0`. -/
namespace Gkrtos

open Armv6m Stateful

/-! ## The compiled handler -/

/-- Compiled code of `gkrtos_svcall_handler`. For CREATE_TASK it runs up to its
call of `gkrtos_internal_stack_init`, and goes on when that has returned; its own
frame on the main stack is known from the state it was called in. -/
structure SvcallCode where
  /-- How many words of the main stack it needs. -/
  stackWords : Nat
  handler : Machine → Machine
  toStackInit : Machine → Machine
  fromStackInit : Machine → Machine → Machine

/-- The handler, from its first instruction to its return. -/
def runSvcallHandler (layout : Layout) (code : SvcallCode) (machine : Machine) :
    Option Machine := do
  if machine.cpu.reg .r1 = syscallCreateTask then
    let calling := code.toStackInit machine
    let cpu ← runAt layout.stackInit stackInit calling.cpu
    return code.fromStackInit machine { calling with cpu }
  else return code.handler machine

/-- The word a stack pointer points at, and `count` words below it. -/
def FreeBelow (count : Nat) (sp : Cell) : Set Cell := Span (sp - BitVec.ofNat 30 count) (count + 1)

theorem top_mem_freeBelow (count : Nat) (sp : Cell) : sp ∈ FreeBelow count sp := by
  simp only [FreeBelow, Span, Set.mem_ofPred_eq]
  have distance : sp - (sp - BitVec.ofNat 30 count) = BitVec.ofNat 30 count := sub_sub_cancel _ _
  rw [distance, BitVec.toNat_ofNat]
  exact Nat.lt_succ_of_le (Nat.mod_le _ _)

/-- `isr_svcall` up to its exception return. -/
def isrSvcall (layout : Layout) (code : SvcallCode) (machine : Machine) : Option Machine := do
  let called ← runAt layout.isrSvcall (isrSvcallEntry layout) machine.cpu
  let returned ← runSvcallHandler layout code { machine with cpu := called }
  let cpu ← runAt (layout.isrSvcall + codeSize (isrSvcallEntry layout)) (isrSvcallRestore layout)
    returned.cpu
  return { returned with cpu }

/-- The C code calls `gkrtos_internal_stack_init`, with room for five words on the
main stack. Outside of the kernel's memory it has written nothing. -/
structure CallsStackInit (layout : Layout) (kernelWords : Set Cell) (stackBase : Word)
    (before calling : Machine) : Prop where
  pc : calling.cpu.pc = layout.stackInit
  stackBase : calling.cpu.reg .r0 = stackBase
  code : (calling.cpu.reg .lr).getLsbD 0 = true
  ordinary : (calling.cpu.reg .lr).extractLsb' 28 4 ≠ 0xF
  ipsr : calling.cpu.ipsr = before.cpu.ipsr
  room : Span (calling.cpu.msp - 5) 5 ⊆ kernelWords \ {before.cpu.msp}
  memory : ∀ cell ∈ insert before.cpu.msp kernelWordsᶜ,
    calling.cpu.memory cell = before.cpu.memory cell

/-- The function has returned as the C code expects of it: the rest of the
kernel's memory is as it was. -/
structure StackInitReturned (kernelWords : Set Cell) (stackBase : Word)
    (calling returned : Machine) : Prop where
  pointer : returned.cpu.reg .r0 = internalStackInit stackBase
  call : CallReturns (kernelWords \ Span (calling.cpu.msp - 5) 5) calling.cpu returned.cpu
  kernel : returned.kernel = calling.kernel

section Call

variable {layout : Layout} {kernelWords callerStack : Set Cell} {code : SvcallCode}
variable {readArgs : Memory → Value → SyscallArgs} {now : AbsoluteTime}
variable {machine calling : Machine} {cpu called : Cpu} {stackBase value : Word} {kernel : Kernel}
variable {base cell : Cell}

/-- The first frame of the new task lies in the memory of neither the kernel nor
the caller. -/
def NewFrameApart (kernelWords callerStack : Set Cell) (stackBase : Word) : Prop :=
  ∀ base, stackBase = address base →
    Disjoint (Span (base - 16) 16) kernelWords ∧ Disjoint (Span (base - 16) 16) callerStack

/-- `gkrtos_internal_stack_init` writes to the new frame and uses five words of
the main stack. -/
theorem stackInit_call (calls : CallsStackInit layout kernelWords (address base) machine calling)
    (handler : machine.cpu.ipsr ≠ 0) (fresh : Disjoint (Span (base - 16) 16) kernelWords) :
    ∃ cpu, runAt layout.stackInit stackInit calling.cpu = some cpu ∧
      StackInitReturned kernelWords (address base) calling { calling with cpu } ∧
      ∀ cell, cell ∉ Span (calling.cpu.msp - 5) 5 → cell ∉ Span (base - 16) 16 →
        cpu.memory cell = calling.cpu.memory cell := by
  have main : calling.cpu.OnMainStack := by
    apply Cpu.onMainStack
    rw [calls.ipsr]
    exact handler
  have pushed : Span (calling.cpu.msp - 5) 5 ⊆ kernelWords := fun cell inside => (calls.room inside).1
  have apart : Disjoint (Span (calling.cpu.msp - 5) 5) (Span (base - 16) 16) :=
    fresh.symm.mono_left pushed
  obtain ⟨cpu, run, initialises⟩ := stackInit_exec main calls.stackBase apart calls.code calls.ordinary
  have prepares := initialises.prepares calls.stackBase
  refine ⟨cpu, (if_pos calls.pc).trans run, ?_, prepares.memory⟩
  constructor
  case pointer =>
    rw [← calls.stackBase]
    exact prepares.pointer
  case call =>
    constructor
    case pc => exact prepares.pc
    case saved => exact prepares.saved
    case msp => exact prepares.msp
    case ipsr => exact prepares.ipsr
    case memory =>
      rintro cell ⟨inside, above⟩
      exact prepares.memory cell above fun stored => Set.disjoint_left.mp fresh stored inside
  case kernel => rfl

/-- Neither the link on the main stack nor the caller's stack is written by
`gkrtos_internal_stack_init`. -/
theorem stackInit_call_kept {memory : Memory}
    (calls : CallsStackInit layout kernelWords (address base) machine calling)
    (link : machine.cpu.msp ∈ kernelWords) (apart : Disjoint callerStack kernelWords)
    (ownFrame : Disjoint (Span (base - 16) 16) kernelWords)
    (otherFrame : Disjoint (Span (base - 16) 16) callerStack)
    (elsewhere : ∀ cell, cell ∉ Span (calling.cpu.msp - 5) 5 → cell ∉ Span (base - 16) 16 →
      memory cell = calling.cpu.memory cell) :
    ∀ cell ∈ insert machine.cpu.msp callerStack, memory cell = machine.cpu.memory cell := by
  have ownWords : callerStack ⊆ kernelWordsᶜ := fun cell inside => Set.disjoint_left.mp apart inside
  intro cell inside
  rw [← calls.memory cell (Set.insert_subset_insert ownWords inside)]
  apply elsewhere
  · intro pushed
    obtain ⟨kernelWord, notLink⟩ := calls.room pushed
    obtain (same | task) := inside
    · exact notLink same
    · exact Set.disjoint_left.mp apart task kernelWord
  · intro stored
    obtain (same | task) := inside
    · rw [same] at stored
      exact Set.disjoint_left.mp ownFrame stored link
    · exact Set.disjoint_left.mp otherFrame stored task

/-! ## Around the handler -/

/-- SVCall has been taken from a task that has 32 free bytes below its stack
pointer and the hardware frame above. Its stack lies apart from the kernel's
memory. -/
structure TakesSvcall (layout : Layout) (kernelWords callerStack : Set Cell) (code : SvcallCode)
    (cpu : Cpu) : Prop where
  handler : cpu.ipsr ≠ 0
  pc : cpu.pc = layout.isrSvcall
  room : Span (cpu.psp - 8) 16 ⊆ callerStack
  apart : Disjoint callerStack kernelWords
  mainStack : FreeBelow code.stackWords (cpu.msp - 1) ⊆ kernelWords
  svcallStackptr : layout.svcallStackptr ∈ kernelWords \ {cpu.msp - 1}

/-- The processor right before the exception return, which will find EXC_RETURN
on the main stack, the frame on the process stack and the result in it. -/
structure Undisturbed (callerStack : Set Cell) (value : Word) (before after : Cpu) : Prop where
  registers : ∀ register ∈ calleeSaved, after.reg register = before.reg register
  psp : after.psp = before.psp
  result : after.memory before.psp = value
  stack : ∀ cell ∈ callerStack, cell ≠ before.psp → cell ∉ Span (before.psp - 8) 8 →
    after.memory cell = before.memory cell
  excReturn : after.memory after.msp = before.reg .lr

/-- The handler is called with the stack as it was, apart from the context below
the stack pointer. -/
structure SavedCaller (layout : Layout) (callerStack : Set Cell) (before called : Cpu) : Prop where
  stackptr : called.reg .r0 = address (before.psp - 8)
  returnAddress : called.reg .lr = (layout.isrSvcall + codeSize (isrSvcallEntry layout)) ||| 1
  msp : called.msp = before.msp - 1
  ipsr : called.ipsr = before.ipsr
  saved : Holds called.memory (before.psp - 8) (context before)
  stack : ∀ cell ∈ callerStack, cell ∉ Span (before.psp - 8) 8 →
    called.memory cell = before.memory cell
  excReturn : called.memory called.msp = before.reg .lr

theorem context_below (room : Span (cpu.psp - 8) 16 ⊆ callerStack) :
    Span (cpu.psp - 8) 8 ⊆ callerStack := by
  intro cell inside
  apply room
  simp only [Span, Set.mem_ofPred_eq] at inside ⊢
  omega

theorem result_inside (room : Span (cpu.psp - 8) 16 ⊆ callerStack) : cpu.psp ∈ callerStack := by
  apply room
  simp only [Span, Set.mem_ofPred_eq]
  bv_omega

theorem result_above : cpu.psp ∉ Span (cpu.psp - 8) 8 := by
  simp only [Span, Set.mem_ofPred_eq]
  bv_omega

theorem isrSvcallEntry_saves (taken : TakesSvcall layout kernelWords callerStack code cpu) :
    ∃ called, runAt layout.isrSvcall (isrSvcallEntry layout) cpu = some called ∧
      SavedCaller layout callerStack cpu called := by
  obtain ⟨saved, called, run, pushes, reaches⟩ := @isrSvcallEntry_exec layout _ taken.handler
  have notTask : cpu.msp - 1 ∉ callerStack :=
    fun inside => Set.disjoint_left.mp taken.apart inside (taken.mainStack (top_mem_freeBelow _ _))
  refine ⟨called, (if_pos taken.pc).trans run, ?_⟩
  constructor
  case stackptr => rw [reaches.stackptr, pushes.psp]
  case returnAddress =>
    have returns : saved.pc + 8 = layout.isrSvcall + 32 := by
      rw [pushes.pc, taken.pc]
      bv_omega
    rw [reaches.returnAddress, returns, isrSvcallEntry_size]
  case msp => exact reaches.msp.trans pushes.msp
  case ipsr => exact reaches.ipsr.trans pushes.ipsr
  case saved =>
    rw [reaches.memory]
    exact pushes.saved
  case stack =>
    intro cell inside above
    have notLink : cell ≠ cpu.msp - 1 := by
      rintro rfl
      exact notTask inside
    rw [reaches.memory, pushes.elsewhere above notLink]
  case excReturn =>
    rw [reaches.memory, reaches.msp, pushes.msp]
    exact pushes.link fun inside => notTask (context_below taken.room inside)

/-- What the handler left alone is all that the way back needs. -/
theorem isrSvcallRestore_undisturbed (taken : TakesSvcall layout kernelWords callerStack code cpu)
    (saves : SavedCaller layout callerStack cpu called) {returned : Machine}
    (answer : Called layout callerStack value kernel { machine with cpu := called } returned)
    (stackptr : kernel.svcallStackptr = address (cpu.psp - 8)) :
    ∃ restored, runAt (layout.isrSvcall + codeSize (isrSvcallEntry layout)) (isrSvcallRestore layout)
      returned.cpu = some restored ∧ Undisturbed callerStack value cpu restored := by
  have kept := answer.returned.memory
  obtain ⟨restored, restore, restores⟩ :=
    isrSvcallRestore_exec (answer.svcallStackptr.trans stackptr)
  have place : cpu.psp - 8 + 8 = cpu.psp := BitVec.sub_add_cancel _ _
  have unwritten : ∀ cell ≠ cpu.psp, restored.memory cell = returned.cpu.memory cell := by
    intro cell different
    rw [restores.memory, place]
    exact Function.update_of_ne different _ _
  have start : returned.cpu.pc = layout.isrSvcall + codeSize (isrSvcallEntry layout) := by
    have link : called.reg .lr = _ := saves.returnAddress
    rw [answer.returned.pc, link]
    exact setLowest_clear (isrSvcallEntry_even layout)
  refine ⟨restored, (if_pos start).trans restore, ?_⟩
  constructor
  case registers =>
    intro register isSaved
    have saved : Holds restored.memory (cpu.psp - 8) (context cpu) := by
      apply saves.saved.congr context_length
      intro cell inside
      have different : cell ≠ cpu.psp := by
        rintro rfl
        exact result_above inside
      rw [unwritten cell different]
      exact kept cell (.inr (context_below taken.room inside))
    have loaded : loadAll restored.memory (cpu.psp - 8) 8 = context cpu := saved
    have isContext : register ∈ contextRegs := by
      cases register <;> revert isSaved <;> decide
    exact context_eq_iff.mp (restores.restored.trans loaded) register isContext
  case psp => exact restores.psp.trans place
  case result =>
    rw [restores.memory, place, Function.update_self]
    exact answer.result
  case stack =>
    intro cell inside different above
    rw [unwritten cell different, kept cell (.inr inside)]
    exact saves.stack cell inside above
  case excReturn =>
    have msp : restored.msp = called.msp := restores.msp.trans answer.returned.msp
    have different : called.msp ≠ cpu.psp := by
      rw [saves.msp]
      intro same
      have inside := result_inside taken.room
      rw [← same] at inside
      exact Set.disjoint_left.mp taken.apart inside (taken.mainStack (top_mem_freeBelow _ _))
    rw [msp, unwritten _ different, ← saves.excReturn]
    exact kept _ (.inl rfl)

/-! ## The C code -/

section Handler

variable [PicoSdk] [Malloc]

/-- `args->stack_base` of the call. -/
def newStackBase (readArgs : Memory → Value → SyscallArgs) (cpu : Cpu) : Word :=
  (readArgs cpu.memory (cpu.reg .r2)).createTask.stackBase

/-- A call of the handler that returns `value`. The words of the kernel include
the variable for the stack pointer and enough of the main stack. -/
structure Handles (layout : Layout) (kernelWords : Set Cell) (code : SvcallCode)
    (readArgs : Memory → Value → SyscallArgs) (now : AbsoluteTime) (machine : Machine)
    (value : Word) (kernel : Kernel) : Prop where
  svcallStackptr : layout.svcallStackptr ∈ kernelWords \ {machine.cpu.msp}
  mainStack : FreeBelow code.stackWords machine.cpu.msp ⊆ kernelWords
  handled : svcallCall readArgs now machine.cpu machine.kernel = .ok value kernel

/-- The compiled code does what the C function does, keeps to the procedure call
standard and writes to the kernel's memory only. CREATE_TASK reads some of its
arguments after the call, when they may have changed. -/
structure CompilesSvcall (layout : Layout) (kernelWords : Set Cell)
    (readArgs : Memory → Value → SyscallArgs) (now : AbsoluteTime) (code : SvcallCode) : Prop where
  handler : ∀ machine value kernel, Handles layout kernelWords code readArgs now machine value kernel →
    machine.cpu.reg .r1 ≠ syscallCreateTask →
      Called layout kernelWordsᶜ value kernel machine (code.handler machine)
  toStackInit : ∀ machine value kernel,
    Handles layout kernelWords code readArgs now machine value kernel →
    machine.cpu.reg .r1 = syscallCreateTask →
      CallsStackInit layout kernelWords (newStackBase readArgs machine.cpu) machine
        (code.toStackInit machine)
  fromStackInit : ∀ machine value kernel returned,
    Handles layout kernelWords code readArgs now machine value kernel →
    machine.cpu.reg .r1 = syscallCreateTask →
    StackInitReturned kernelWords (newStackBase readArgs machine.cpu) (code.toStackInit machine)
      returned →
    ∃ kernel', kernel'.svcallStackptr = kernel.svcallStackptr ∧
      (readArgs returned.cpu.memory (machine.cpu.reg .r2) =
        readArgs machine.cpu.memory (machine.cpu.reg .r2) → kernel' = kernel) ∧
      Called layout kernelWordsᶜ value kernel'
        { machine with cpu := { machine.cpu with memory := returned.cpu.memory } }
        (code.fromStackInit machine returned)

/-- The handler returns like any C function, with the stack of the caller as it
was, unless it is given a stack base that is no multiple of four. -/
theorem runSvcallHandler_called (compiled : CompilesSvcall layout kernelWords readArgs now code)
    (handles : Handles layout kernelWords code readArgs now machine value kernel)
    (handler : machine.cpu.ipsr ≠ 0) (apart : Disjoint callerStack kernelWords)
    (fresh : machine.cpu.reg .r1 = syscallCreateTask →
      NewFrameApart kernelWords callerStack (newStackBase readArgs machine.cpu))
    (aligned : machine.cpu.reg .r1 = syscallCreateTask →
      ∃ base, newStackBase readArgs machine.cpu = address base) :
    ∃ returned kernel', runSvcallHandler layout code machine = some returned ∧
      kernel'.svcallStackptr = kernel.svcallStackptr ∧
      Called layout callerStack value kernel' machine returned := by
  have ownWords : callerStack ⊆ kernelWordsᶜ := fun cell inside => Set.disjoint_left.mp apart inside
  by_cases create : machine.cpu.reg .r1 = syscallCreateTask
  · obtain ⟨base, stackBase⟩ := aligned create
    obtain ⟨ownFrame, otherFrame⟩ := fresh create base stackBase
    have calls := compiled.toStackInit machine value kernel handles create
    rw [stackBase] at calls
    obtain ⟨cpu, run, returned, elsewhere⟩ := stackInit_call calls handler ownFrame
    rw [← stackBase] at returned
    obtain ⟨kernel', stackptr, -, answer⟩ :=
      compiled.fromStackInit machine value kernel _ handles create returned
    have unwritten := stackInit_call_kept calls (handles.mainStack (top_mem_freeBelow _ _)) apart
      ownFrame otherFrame elsewhere
    refine ⟨code.fromStackInit machine { code.toStackInit machine with cpu }, kernel', ?_, stackptr,
      (answer.mono ownWords).of_memory unwritten⟩
    rw [runSvcallHandler, if_pos create]
    simp only [run, Option.bind_eq_bind, Option.bind_some]
    rfl
  · have answer := compiled.handler machine value kernel handles create
    refine ⟨code.handler machine, kernel, ?_, rfl, answer.mono ownWords⟩
    rw [runSvcallHandler, if_neg create]
    rfl

/-- CREATE_TASK comes back only from a stack base that is a multiple of four. -/
theorem runSvcallHandler_aligned (compiled : CompilesSvcall layout kernelWords readArgs now code)
    (handles : Handles layout kernelWords code readArgs now machine value kernel) {returned : Machine}
    (run : runSvcallHandler layout code machine = some returned)
    (create : machine.cpu.reg .r1 = syscallCreateTask) :
    ∃ base, newStackBase readArgs machine.cpu = address base := by
  have calls := compiled.toStackInit machine value kernel handles create
  rw [runSvcallHandler, if_pos create] at run
  obtain ⟨cpu, run, -⟩ := Option.bind_eq_some_iff.mp run
  obtain ⟨base, pointer⟩ := stackInit_aligned (runAt_eq_some.mp run).2
  exact ⟨base, calls.stackBase.symm.trans pointer⟩

/-- The handler stores its first argument. -/
theorem svcallHandler_stackptr {stackptr number : Word} {args : SyscallArgs} {before : Kernel}
    (run : svcallHandler stackptr number args now before = .ok value kernel) :
    kernel.svcallStackptr = stackptr := by
  obtain ⟨task, middle, -, run⟩ := bind_ok.mp run
  obtain ⟨result, called, -, run⟩ := bind_ok.mp run
  cases run
  rfl

/-- The number of the system call and its arguments are whatever the stacked
registers say. Only a stack base that is no multiple of four stops the call. -/
theorem svcall_undisturbed (compiled : CompilesSvcall layout kernelWords readArgs now code)
    (taken : TakesSvcall layout kernelWords callerStack code machine.cpu)
    (entered : runAt layout.isrSvcall (isrSvcallEntry layout) machine.cpu = some called)
    (handled : svcallCall readArgs now called machine.kernel = .ok value kernel)
    (fresh : called.reg .r1 = syscallCreateTask →
      NewFrameApart kernelWords callerStack (newStackBase readArgs called)) :
    (∀ after, isrSvcall layout code machine = some after →
      Undisturbed callerStack value machine.cpu after.cpu) ∧
    ((called.reg .r1 = syscallCreateTask →
      ∃ base, newStackBase readArgs called = address base) →
        ∃ after, isrSvcall layout code machine = some after) := by
  obtain ⟨reached, reach, saves⟩ := isrSvcallEntry_saves taken
  obtain rfl : called = reached := Option.some.inj (entered.symm.trans reach)
  let request : Machine := { machine with cpu := called }
  have handler : request.cpu.ipsr ≠ 0 := by
    show called.ipsr ≠ 0
    rw [saves.ipsr]
    exact taken.handler
  have handles : Handles layout kernelWords code readArgs now request value kernel := by
    constructor
    case svcallStackptr =>
      show layout.svcallStackptr ∈ kernelWords \ {called.msp}
      rw [saves.msp]
      exact taken.svcallStackptr
    case mainStack =>
      show FreeBelow code.stackWords called.msp ⊆ kernelWords
      rw [saves.msp]
      exact taken.mainStack
    case handled => exact handled
  have stackptr : kernel.svcallStackptr = address (machine.cpu.psp - 8) := by
    rw [← saves.stackptr]
    exact svcallHandler_stackptr handled
  have completes : (called.reg .r1 = syscallCreateTask →
      ∃ base, newStackBase readArgs called = address base) →
      ∃ after, isrSvcall layout code machine = some after ∧
        Undisturbed callerStack value machine.cpu after.cpu := by
    intro aligned
    obtain ⟨returned, kernel', run, same, answer⟩ :=
      runSvcallHandler_called compiled handles handler taken.apart fresh aligned
    obtain ⟨restored, restore, undisturbed⟩ :=
      isrSvcallRestore_undisturbed taken saves answer (same.trans stackptr)
    refine ⟨{ returned with cpu := restored }, ?_, undisturbed⟩
    rw [isrSvcall]
    simp only [entered, request, run, restore, Option.bind_eq_bind, Option.bind_some]
    rfl
  constructor
  · intro after run
    have aligned : called.reg .r1 = syscallCreateTask →
        ∃ base, newStackBase readArgs called = address base := by
      rw [isrSvcall] at run
      simp only [entered, Option.bind_eq_bind, Option.bind_some] at run
      obtain ⟨returned, handlerRun, -⟩ := Option.bind_eq_some_iff.mp run
      exact runSvcallHandler_aligned compiled handles handlerRun
    obtain ⟨final, complete, undisturbed⟩ := completes aligned
    obtain rfl : after = final := Option.some.inj (run.symm.trans complete)
    exact undisturbed
  · intro aligned
    obtain ⟨after, complete, -⟩ := completes aligned
    exact ⟨after, complete⟩

end Handler

end Call

section Example

attribute [local instance] PicoSdk.reference Malloc.reference

/-- Code that keeps to its contract. For CREATE_TASK it keeps its first argument in a
frame of 17 words, of which it uses no other, while it calls. -/
private def referenceSvcall (layout : Layout) (readArgs : Memory → Value → SyscallArgs)
    (now : AbsoluteTime) : SvcallCode where
  stackWords := 22
  handler := referenceCode layout (svcallCall readArgs now)
  toStackInit machine := { machine with
    cpu := { (machine.cpu.set .r0 (newStackBase readArgs machine.cpu)).set .lr 0x10000403 with
      pc := layout.stackInit
      msp := machine.cpu.msp - 17
      memory := Function.update machine.cpu.memory (machine.cpu.msp - 2) (machine.cpu.reg .r0) } }
  fromStackInit machine returned :=
    let done := referenceCode layout (fun _ => svcallCall readArgs now machine.cpu)
      { machine with cpu := { machine.cpu with memory := returned.cpu.memory } }
    let stackptr := returned.cpu.memory (machine.cpu.msp - 2)
    { cpu := { done.cpu with
        memory := Function.update done.cpu.memory layout.svcallStackptr stackptr }
      kernel := { done.kernel with svcallStackptr := stackptr } }

/-- It finds the argument again when the call has returned as it should. -/
private theorem referenceSvcall_found {layout : Layout} {kernelWords : Set Cell}
    {readArgs : Memory → Value → SyscallArgs} {now : AbsoluteTime} {machine returned : Machine}
    {stackBase : Word} (mainStack : FreeBelow 22 machine.cpu.msp ⊆ kernelWords)
    (kept : StackInitReturned kernelWords stackBase
      ((referenceSvcall layout readArgs now).toStackInit machine) returned) :
    returned.cpu.memory (machine.cpu.msp - 2) = machine.cpu.reg .r0 := by
  have inKernel : machine.cpu.msp - 2 ∈ kernelWords := by
    apply mainStack
    simp only [FreeBelow, Span, Set.mem_ofPred_eq]
    bv_omega
  have above : machine.cpu.msp - 2 ∉ Span (machine.cpu.msp - 17 - 5) 5 := by
    simp only [Span, Set.mem_ofPred_eq]
    bv_omega
  have same := kept.call.memory (machine.cpu.msp - 2) ⟨inKernel, above⟩
  exact same.trans (Function.update_self _ _ _)

/-- Storing the stack pointer that is there already changes nothing. -/
private theorem called_store {layout : Layout} {taskStacks : Set Cell} {value : Word} {kernel : Kernel}
    {before after : Machine} (called : Called layout taskStacks value kernel before after) :
    Called layout taskStacks value kernel before
      { cpu := { after.cpu with
          memory := Function.update after.cpu.memory layout.svcallStackptr kernel.svcallStackptr }
        kernel := { after.kernel with svcallStackptr := kernel.svcallStackptr } } := by
  have memory : Function.update after.cpu.memory layout.svcallStackptr kernel.svcallStackptr =
      after.cpu.memory := by
    rw [← called.svcallStackptr, Function.update_eq_self]
  have globals : ({ after.kernel with svcallStackptr := kernel.svcallStackptr } : Kernel) =
      after.kernel := by
    rw [called.globals]
  rw [memory, globals]
  exact called

private theorem referenceSvcall_compiles (layout : Layout) (kernelWords : Set Cell)
    (readArgs : Memory → Value → SyscallArgs) (now : AbsoluteTime) :
    CompilesSvcall layout kernelWords readArgs now (referenceSvcall layout readArgs now) := by
  have away {msp : Cell} (inKernel : layout.svcallStackptr ∈ kernelWords \ {msp}) :
      layout.svcallStackptr ∉ insert msp kernelWordsᶜ := by
    rintro (same | outside)
    · exact inKernel.2 same
    · exact outside inKernel.1
  constructor
  case handler =>
    intro machine value kernel handles _
    exact referenceCode_compiles layout kernelWordsᶜ _ machine value kernel
      (away handles.svcallStackptr) handles.handled
  case toStackInit =>
    intro machine value kernel handles _
    have room : FreeBelow 22 machine.cpu.msp ⊆ kernelWords := handles.mainStack
    constructor
    case room =>
      intro cell inside
      have below : (cell - (machine.cpu.msp - 17 - 5)).toNat < 5 := inside
      constructor
      · apply room
        simp only [FreeBelow, Span, Set.mem_ofPred_eq]
        bv_omega
      · rintro rfl
        bv_omega
    case stackBase => simp [referenceSvcall]
    case code => simp [referenceSvcall]
    case ordinary => simp [referenceSvcall]
    case pc => rfl
    case ipsr => rfl
    case memory =>
      intro cell inside
      apply Function.update_of_ne
      rintro rfl
      obtain (same | outside) := inside
      · bv_omega
      · apply outside
        apply room
        simp only [FreeBelow, Span, Set.mem_ofPred_eq]
        bv_omega
  case fromStackInit =>
    intro machine value kernel returned handles _ kept
    refine ⟨kernel, rfl, fun _ => rfl, ?_⟩
    have done := referenceCode_compiles layout kernelWordsᶜ (fun _ => svcallCall readArgs now machine.cpu)
      { machine with cpu := { machine.cpu with memory := returned.cpu.memory } } value kernel
      (away handles.svcallStackptr) handles.handled
    have stored := called_store done
    rw [svcallHandler_stackptr handles.handled, ← referenceSvcall_found handles.mainStack kept] at stored
    exact stored

/-- The kernel right after its start. -/
@[irreducible] private def launchedKernel : Kernel :=
  match launch 0 0 [] 0 Kernel.initial with
  | .ok _ kernel => kernel
  | .error _ kernel => kernel

private def linked : Layout := Layout.reference 0x8000000

/-- `isr_svcall` is entered from a task that calls CREATE_TASK. -/
private def creatingTask : Cpu where
  reg register := if register = .lr then 0xFFFFFFFD else 0
  pc := 0x10000100
  flags := 0
  ipsr := svcallException
  msp := 0x8000100
  psp := 0x8001000
  spsel := false
  memory cell := if cell = 0x8001000 then syscallCreateTask else 0

private def kernelMemory : Set Cell := Span 0x8000000 0x200

private def ownStack : Set Cell := Span (creatingTask.psp - 8) 16

private theorem spans_disjoint {first second : Cell} {count count' : Nat}
    (below : first.toNat + count ≤ second.toNat) (fits : second.toNat + count' ≤ 2 ^ 30) :
    Disjoint (Span first count) (Span second count') := by
  apply Set.disjoint_left.mpr
  intro cell inside other
  simp only [Span, Set.mem_ofPred_eq] at inside other
  bv_omega

section Creation

variable (args : SyscallArgs)

private def createCode : SvcallCode := referenceSvcall linked (fun _ _ => args) 100

private theorem creatingTask_takes :
    TakesSvcall linked kernelMemory ownStack (createCode args) creatingTask := by
  constructor
  case handler => decide
  case pc => rfl
  case room => exact subset_rfl
  case apart => exact (spans_disjoint (by decide) (by decide)).symm
  case mainStack =>
    intro cell inside
    have near : (cell - (0x8000100 - 1 - 22)).toNat < 23 := inside
    show (cell - 0x8000000).toNat < 0x200
    bv_omega
  case svcallStackptr =>
    constructor
    · show (0x8000000 - 0x8000000 : Cell).toNat < 0x200
      decide
    · intro same
      exact absurd same (by decide)

/-- The C function creates the task with pid 2. -/
private theorem creation_handled
    (computed : (match directPath syscallCreateTask args 100 launchedKernel with
      | .ok value _ => value == 2
      | .error _ _ => false) = true) :
    ∃ called kernel, runAt linked.isrSvcall (isrSvcallEntry linked) creatingTask = some called ∧
      called.reg .r1 = syscallCreateTask ∧
      svcallCall (fun _ _ => args) 100 called launchedKernel = .ok 2 kernel := by
  obtain ⟨saved, called, run, pushes, reaches⟩ :=
    @isrSvcallEntry_exec linked _ (creatingTask_takes args).handler
  have number : called.reg .r1 = syscallCreateTask := by
    have notLink : creatingTask.psp ≠ creatingTask.msp - 1 := by decide
    rw [reaches.number, pushes.psp, pushes.elsewhere result_above notLink]
    rfl
  cases direct : directPath syscallCreateTask args 100 launchedKernel with
  | ok value kernel =>
    rw [direct] at computed
    rw [eq_of_beq computed] at direct
    refine ⟨called, { kernel with svcallStackptr := called.reg .r0 }, (if_pos rfl).trans run, number, ?_⟩
    rw [svcallCall, number]
    exact svcallHandler_ok direct
  | error fault kernel =>
    rw [direct] at computed
    cases computed

end Creation

/-- The stack base lies right above the kernel's memory. -/
private def createArgs : SyscallArgs :=
  { SyscallArgs.zero with createTask := ⟨0, 0x10000601, 0x20044000, 1⟩ }

theorem svcall_undisturbed_example : ∃ after,
    isrSvcall linked (createCode createArgs) ⟨creatingTask, launchedKernel⟩ = some after ∧
      Undisturbed ownStack 2 creatingTask after.cpu := by
  let machine : Machine := ⟨creatingTask, launchedKernel⟩
  obtain ⟨called, kernel, entered, number, handled⟩ := creation_handled createArgs (by decide +kernel)
  have place {base : Cell} (stackBase : createArgs.createTask.stackBase = address base) :
      base = 0x8011000 :=
    address_injective stackBase.symm
  have fresh : NewFrameApart kernelMemory ownStack createArgs.createTask.stackBase := by
    intro base stackBase
    rw [place stackBase]
    constructor
    · exact (spans_disjoint (by decide) (by decide)).symm
    · exact (spans_disjoint (by decide) (by decide)).symm
  have compiled := referenceSvcall_compiles linked kernelMemory (fun _ _ => createArgs) 100
  obtain ⟨undisturbed, completes⟩ := @svcall_undisturbed _ _ _ _ _ _ machine _ _ _ _ _
    compiled (creatingTask_takes createArgs) entered handled fun _ => fresh
  obtain ⟨after, complete⟩ := completes fun _ => ⟨0x8011000, rfl⟩
  exact ⟨after, complete, undisturbed after complete⟩

/-- The new frame covers the words of the main stack that the compiled code leaves free
and the one where it keeps the stack pointer of the caller. -/
private def overlaidArgs : SyscallArgs :=
  { SyscallArgs.zero with createTask := ⟨0, 0x10000601, 0x200003F8, 1⟩ }

private theorem overlaid_psp :
    (isrSvcall linked (createCode overlaidArgs) ⟨creatingTask, launchedKernel⟩).map
      (fun after => after.cpu.psp) = some 0x400008 := by
  decide +kernel

/-- The stacked xPSR of the new task is taken for the caller's stack pointer. -/
theorem svcall_disturbed : ∃ (layout : Layout) (kernelWords callerStack : Set Cell)
    (readArgs : Memory → Value → SyscallArgs) (now : AbsoluteTime) (code : SvcallCode)
    (machine after : Machine) (called : Cpu) (value : Word) (kernel : Kernel),
    CompilesSvcall layout kernelWords readArgs now code ∧
      TakesSvcall layout kernelWords callerStack code machine.cpu ∧
      runAt layout.isrSvcall (isrSvcallEntry layout) machine.cpu = some called ∧
      svcallCall readArgs now called machine.kernel = .ok value kernel ∧
      called.reg .r1 = syscallCreateTask ∧
      (∀ base, newStackBase readArgs called = address base →
        Disjoint (Span (base - 16) 16) callerStack) ∧
      isrSvcall layout code machine = some after ∧
      ¬ Undisturbed callerStack value machine.cpu after.cpu := by
  obtain ⟨called, kernel, entered, number, handled⟩ :=
    creation_handled overlaidArgs (by decide +kernel)
  obtain ⟨after, run, moved⟩ := Option.map_eq_some_iff.mp overlaid_psp
  refine ⟨linked, kernelMemory, ownStack, fun _ _ => overlaidArgs, 100, createCode overlaidArgs,
    ⟨creatingTask, launchedKernel⟩, after, called, 2, kernel, ?_, creatingTask_takes overlaidArgs,
    entered, handled, number, ?_, run, ?_⟩
  · exact referenceSvcall_compiles linked kernelMemory (fun _ _ => overlaidArgs) 100
  · intro base stackBase
    obtain rfl : base = 0x80000FE := address_injective stackBase.symm
    exact spans_disjoint (by decide) (by decide)
  · intro undisturbed
    exact absurd (moved.symm.trans undisturbed.psp) (by decide)

end Example

end Gkrtos
