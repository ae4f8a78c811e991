import Gkrtos.Machine
import Gkrtos.SyscallResults
import Gkrtos.System

/-! A system call made by a task while tasking runs. The processor takes an
exception, the handler finds number and arguments in the stacked registers, puts
the result into the stacked `r0` and returns. All of this works for every
register and stack word. Then `gkrtos_trigger_svcall` goes on with
`pop {r0}` to get at its return address, which overwrites the result. -/
namespace Gkrtos

open Armv6m Stateful

/-- `SVCALL_EXCEPTION` -/
def svcallException : BitVec 6 := 11

/-- `gkrtos_trigger_svcall`, called by a task: `svc #0` takes the exception, and
the function goes on where the exception returns to. Exception entry leaves some
registers with unknown contents. -/
def triggerSvcall (layout : Layout) (unknown : Reg → Value) (handler : Machine → Machine)
    (machine : Machine) : Option Machine := do
  let calling ← runAt layout.triggerSvcall triggerSvcallEntry machine.cpu
  let resumeAt := calling.pc + 2
  let entered := calling.enter svcallException layout.isrSvcall resumeAt unknown
  let called ← runAt layout.isrSvcall (isrSvcallEntry layout) entered
  let returned := handler { machine with cpu := called }
  let resumed ← runAt (layout.isrSvcall + codeSize (isrSvcallEntry layout)) (isrSvcallExit layout)
    returned.cpu
  let cpu ← runAt resumeAt triggerSvcallExit resumed
  return { returned with cpu }

/-- A task calls `gkrtos_trigger_svcall`: it runs on its own stack, with room
for its return address, the hardware frame and its context, and apart from the
main stack and the variable the handler uses. -/
structure CallsTrigger (layout : Layout) (stack : Set Cell) (cpu : Cpu) : Prop where
  thread : cpu.ipsr = 0
  process : cpu.spsel = true
  pc : cpu.pc = layout.triggerSvcall
  room : Span (cpu.psp - 18) 18 ⊆ stack
  mainStack : cpu.msp - 1 ∉ stack
  svcallStackptr : layout.svcallStackptr ∉ insert (cpu.msp - 1) stack

/-- An address to return to: it has its lowest bit set and lies in the flash or
the RAM of the chip. -/
def ReturnAddress (value : Value) : Prop :=
  value.getLsbD 0 = true ∧ 0x10000000 ≤ value ∧ value < 0xE0000000

/-! ## The words of the task's stack -/

/-- Where hardware puts its frame, below the return address of
`gkrtos_trigger_svcall`. -/
def trapFrame (cpu : Cpu) : Cell := frameBelow (cpu.psp - 1)

section Stack

variable {cpu : Cpu} {cell : Cell} {memory memory' : Memory} {result : Value}

theorem trapFrame_near (cpu : Cpu) : trapFrame cpu = cpu.psp - 9 ∨ trapFrame cpu = cpu.psp - 10 := by
  have placed : trapFrame cpu = _ := frameBelow_eq (cpu.psp - 1)
  split at placed
  · right
    bv_omega
  · left
    bv_omega

theorem context_room (inside : cell ∈ Span (trapFrame cpu - 8) 8) : cell ∈ Span (cpu.psp - 18) 18 := by
  have near := trapFrame_near cpu
  simp only [Span, Set.mem_ofPred_eq] at inside ⊢
  bv_omega

theorem frame_room (inside : cell ∈ Span (trapFrame cpu) 8) : cell ∈ Span (cpu.psp - 18) 18 := by
  have near := trapFrame_near cpu
  simp only [Span, Set.mem_ofPred_eq] at inside ⊢
  bv_omega

theorem link_room : cpu.psp - 1 ∈ Span (cpu.psp - 18) 18 := by
  simp only [Span, Set.mem_ofPred_eq]
  bv_omega

theorem frame_above (inside : cell ∈ Span (trapFrame cpu) 8) : cell ∉ Span (trapFrame cpu - 8) 8 := by
  simp only [Span, Set.mem_ofPred_eq] at inside ⊢
  bv_omega

theorem link_above (cpu : Cpu) :
    cpu.psp - 1 ∉ Span (trapFrame cpu) 8 ∧ cpu.psp - 1 ∉ Span (trapFrame cpu - 8) 8 := by
  have near := trapFrame_near cpu
  simp only [Span, Set.mem_ofPred_eq]
  constructor <;> bv_omega

/-- The hardware frame, with `result` for the task's `r0`. -/
def trapped (layout : Layout) (cpu : Cpu) (result : Value) : List Value :=
  [result, cpu.reg .r1, cpu.reg .r2, cpu.reg .r3, cpu.reg .r12, cpu.reg .lr,
    layout.triggerSvcall + 4, packXpsr cpu.flags ((cpu.psp - 1).getLsbD 0) 0]

theorem frame_length {layout : Layout} : (trapped layout cpu result).length = 8 := rfl

/-- What stands on the two stacks while the handler runs, with `result` in the
stacked `r0`. -/
structure Stacked (layout : Layout) (cpu : Cpu) (result : Value) (memory : Memory) : Prop where
  saved : Holds memory (trapFrame cpu - 8) (context cpu)
  frame : Holds memory (trapFrame cpu) (trapped layout cpu result)
  returnAddress : memory (cpu.psp - 1) = cpu.reg .lr
  link : memory (cpu.msp - 1) = 0xFFFFFFFD

variable {layout : Layout}

/-- It stays there as long as nobody writes to the two stacks. -/
theorem Stacked.congr (stacked : Stacked layout cpu result memory)
    (same : ∀ cell ∈ insert (cpu.msp - 1) (Span (cpu.psp - 18) 18), memory' cell = memory cell) :
    Stacked layout cpu result memory' := by
  constructor
  case saved =>
    apply stacked.saved.congr context_length
    exact fun cell inside => same cell (.inr (context_room inside))
  case frame =>
    apply stacked.frame.congr frame_length
    exact fun cell inside => same cell (.inr (frame_room inside))
  case returnAddress => exact (same _ (.inr link_room)).trans stacked.returnAddress
  case link => exact (same _ (.inl rfl)).trans stacked.link

/-- The handler stores its result where the task's `r0` was stacked. -/
theorem Stacked.store (stacked : Stacked layout cpu result memory) (value : Value)
    (apart : cpu.msp - 1 ∉ Span (cpu.psp - 18) 18) :
    Stacked layout cpu value (Function.update memory (trapFrame cpu) value) := by
  have first : trapFrame cpu ∈ Span (trapFrame cpu) 8 := mem_span_self
  constructor
  case saved =>
    apply stacked.saved.congr context_length
    intro cell inside
    have different : cell ≠ trapFrame cpu := by
      rintro rfl
      exact frame_above first inside
    exact Function.update_of_ne different _ _
  case frame => exact stacked.frame.update (show 7 < 2 ^ 30 by decide) value
  case returnAddress =>
    have different : cpu.psp - 1 ≠ trapFrame cpu := by
      intro same
      apply (link_above cpu).1
      rw [same]
      exact first
    rw [Function.update_of_ne different]
    exact stacked.returnAddress
  case link =>
    have different : cpu.msp - 1 ≠ trapFrame cpu := by
      intro same
      rw [same] at apart
      exact apart (frame_room first)
    rw [Function.update_of_ne different]
    exact stacked.link

/-! ## To the handler -/

variable {taskStack : Set Cell}

/-- The task at `svc #0`. -/
def atSvc (cpu : Cpu) : Cpu :=
  { cpu with
    psp := cpu.psp - 1
    memory := Function.update cpu.memory (cpu.psp - 1) (cpu.reg .lr)
    pc := cpu.pc + 2 }

theorem triggerEntry_run (calls : CallsTrigger layout taskStack cpu) :
    runAt layout.triggerSvcall triggerSvcallEntry cpu = some (atSvc cpu) := by
  rw [runAt, if_pos calls.pc, triggerSvcallEntry, exec_push, exec_nil,
    Cpu.sp_thread calls.thread calls.process, Cpu.setSp_thread calls.thread calls.process]
  rfl

/-- The processor at the first instruction of `isr_svcall`. -/
def atIsr (layout : Layout) (cpu : Cpu) (unknown : Reg → Value) : Cpu :=
  (atSvc cpu).enter svcallException layout.isrSvcall (layout.triggerSvcall + 4) unknown

/-- The exception has been taken. -/
structure Interrupted (layout : Layout) (cpu entered : Cpu) : Prop where
  context : context entered = context cpu
  link : entered.reg .lr = 0xFFFFFFFD
  pc : entered.pc = layout.isrSvcall
  ipsr : entered.ipsr = svcallException
  msp : entered.msp = cpu.msp
  psp : entered.psp = trapFrame cpu
  memory : entered.memory = storeAll (Function.update cpu.memory (cpu.psp - 1) (cpu.reg .lr))
    (trapFrame cpu) (trapped layout cpu (cpu.reg .r0))

theorem atIsr_interrupted (calls : CallsTrigger layout taskStack cpu) (unknown : Reg → Value) :
    Interrupted layout cpu (atIsr layout cpu unknown) := by
  have thread : (atSvc cpu).ipsr = 0 := calls.thread
  have process : (atSvc cpu).spsel = true := calls.process
  have frame : (atSvc cpu).frame (layout.triggerSvcall + 4) = trapped layout cpu (cpu.reg .r0) := by
    rw [Cpu.frame, Cpu.sp_thread thread process, thread]
    rfl
  have place : frameBelow (atSvc cpu).psp = trapFrame cpu := rfl
  have pushed : (atSvc cpu).memory = Function.update cpu.memory (cpu.psp - 1) (cpu.reg .lr) := rfl
  rw [atIsr, Cpu.enter_thread thread process, frame, place, pushed]
  exact ⟨rfl, rfl, rfl, rfl, rfl, rfl, rfl⟩

/-- What the C handler is called with. -/
structure HandlerCalled (layout : Layout) (cpu called : Cpu) : Prop where
  stackptr : called.reg .r0 = address (trapFrame cpu - 8)
  number : called.reg .r1 = cpu.reg .r0
  args : called.reg .r2 = cpu.reg .r1
  returnAddress : called.reg .lr = (layout.isrSvcall + codeSize (isrSvcallEntry layout)) ||| 1
  msp : called.msp = cpu.msp - 1
  ipsr : called.ipsr = svcallException
  stacked : Stacked layout cpu (cpu.reg .r0) called.memory
  elsewhere : ∀ cell ∉ insert (cpu.msp - 1) (Span (cpu.psp - 18) 18),
    called.memory cell = cpu.memory cell

/-- After `CONTEXT_SAVE`, everything is on the stacks. -/
theorem isr_stacked (calls : CallsTrigger layout taskStack cpu) {entered saved : Cpu}
    (interrupted : Interrupted layout cpu entered) (pushes : PushesContext entered saved) :
    Stacked layout cpu (cpu.reg .r0) saved.memory := by
  have apart : cpu.msp - 1 ∉ Span (cpu.psp - 18) 18 := fun inside => calls.mainStack (calls.room inside)
  have unwritten : ∀ cell ∈ Span (cpu.psp - 18) 18, cell ∉ Span (trapFrame cpu - 8) 8 →
      saved.memory cell = entered.memory cell := by
    intro cell inside above
    apply pushes.elsewhere
    · rw [interrupted.psp]
      exact above
    · rw [interrupted.msp]
      rintro rfl
      exact apart inside
  constructor
  case saved =>
    rw [← interrupted.context, ← interrupted.psp]
    exact pushes.saved
  case frame =>
    have stored : Holds entered.memory (trapFrame cpu) (trapped layout cpu (cpu.reg .r0)) := by
      rw [interrupted.memory]
      exact holds_storeAll (show 8 ≤ 2 ^ 30 by decide)
    apply stored.congr frame_length
    exact fun cell inside => unwritten cell (frame_room inside) (frame_above inside)
  case returnAddress =>
    obtain ⟨aboveFrame, aboveContext⟩ := link_above cpu
    rw [unwritten _ link_room aboveContext, interrupted.memory, storeAll_outside aboveFrame,
      Function.update_self]
  case link =>
    rw [← interrupted.link, ← interrupted.msp]
    apply pushes.link
    rw [interrupted.msp, interrupted.psp]
    exact fun inside => apart (context_room inside)

/-- The path to the handler writes to the two stacks only. -/
theorem isr_elsewhere {entered saved : Cpu} (interrupted : Interrupted layout cpu entered)
    (pushes : PushesContext entered saved)
    (outside : cell ∉ insert (cpu.msp - 1) (Span (cpu.psp - 18) 18)) :
    saved.memory cell = cpu.memory cell := by
  have beyond : cell ∉ Span (cpu.psp - 18) 18 := fun inside => outside (.inr inside)
  have notLink : cell ≠ cpu.psp - 1 := by
    rintro rfl
    exact beyond link_room
  have saves : saved.memory cell = entered.memory cell := by
    apply pushes.elsewhere
    · rw [interrupted.psp]
      exact fun inside => beyond (context_room inside)
    · rw [interrupted.msp]
      exact fun same => outside (.inl same)
  have aboveFrame : cell ∉ Span (trapFrame cpu) (trapped layout cpu (cpu.reg .r0)).length :=
    fun inside => beyond (frame_room inside)
  rw [saves, interrupted.memory, storeAll_outside aboveFrame, Function.update_of_ne notLink]

theorem isrEntry_run (calls : CallsTrigger layout taskStack cpu) (unknown : Reg → Value) :
    ∃ called, runAt layout.isrSvcall (isrSvcallEntry layout) (atIsr layout cpu unknown) =
      some called ∧ HandlerCalled layout cpu called := by
  have interrupted := atIsr_interrupted calls unknown
  have handler : (atIsr layout cpu unknown).ipsr ≠ 0 := by
    rw [interrupted.ipsr]
    decide
  obtain ⟨saved, called, run, pushes, reaches⟩ := @isrSvcallEntry_exec layout _ handler
  have stacked := isr_stacked calls interrupted pushes
  have psp : saved.psp = trapFrame cpu := pushes.psp.trans interrupted.psp
  obtain ⟨first, rest⟩ := holds_cons.mp stacked.frame
  obtain ⟨second, -⟩ := holds_cons.mp rest
  refine ⟨called, (if_pos interrupted.pc).trans run, ?_⟩
  constructor
  case stackptr => rw [reaches.stackptr, psp]
  case number => rw [reaches.number, psp, first]
  case args => rw [reaches.args, psp, second]
  case returnAddress =>
    have returns : saved.pc + 8 = layout.isrSvcall + 32 := by
      rw [pushes.pc, interrupted.pc]
      bv_omega
    rw [reaches.returnAddress, returns, isrSvcallEntry_size]
  case msp => exact reaches.msp.trans (pushes.msp.trans (congrArg (· - 1) interrupted.msp))
  case ipsr => exact reaches.ipsr.trans (pushes.ipsr.trans interrupted.ipsr)
  case stacked =>
    rw [reaches.memory]
    exact stacked
  case elsewhere =>
    intro cell outside
    rw [reaches.memory]
    exact isr_elsewhere interrupted pushes outside

/-! ## Back to the task -/

/-- The exception has returned to the task. -/
structure Resumed (layout : Layout) (cpu : Cpu) (value : Value) (resumed : Cpu) : Prop where
  result : resumed.reg .r0 = value
  others : ∀ register ≠ Reg.r0, resumed.reg register = cpu.reg register
  pc : resumed.pc = layout.triggerSvcall + 4
  thread : resumed.ipsr = 0
  process : resumed.spsel = true
  msp : resumed.msp = cpu.msp
  psp : resumed.psp = cpu.psp - 1
  returnAddress : resumed.memory (cpu.psp - 1) = cpu.reg .lr

theorem isrExit_run {returned : Cpu} {value : Value}
    (apart : cpu.msp - 1 ∉ Span (cpu.psp - 18) 18)
    (stacked : Stacked layout cpu (cpu.reg .r0) returned.memory)
    (result : returned.reg .r0 = value)
    (stackptr : returned.memory layout.svcallStackptr = address (trapFrame cpu - 8))
    (msp : returned.msp = cpu.msp - 1) (handler : returned.ipsr ≠ 0) :
    ∃ resumed, exec (isrSvcallExit layout) returned = some resumed ∧
      Resumed layout cpu value resumed := by
  obtain ⟨restored, restore, restores⟩ := isrSvcallRestore_exec stackptr
  have above : trapFrame cpu - 8 + 8 = trapFrame cpu := BitVec.sub_add_cancel _ _
  have stackedResult : Stacked layout cpu value restored.memory := by
    rw [restores.memory, above, result]
    exact stacked.store _ apart
  have psp : restored.psp = trapFrame cpu := by
    rw [restores.psp, BitVec.sub_add_cancel]
  have mainStack : restored.msp = cpu.msp - 1 := restores.msp.trans msp
  have inHandler : restored.ipsr ≠ 0 := by
    rw [restores.ipsr]
    exact handler
  have link : restored.memory restored.msp = 0xFFFFFFFD := by
    rw [mainStack]
    exact stackedResult.link
  have frame : Holds restored.memory restored.psp (trapped layout cpu value) := by
    rw [psp]
    exact stackedResult.frame
  have path : exec (isrSvcallExit layout) returned = exec [.popPc] restored := by
    rw [isrSvcallExit_split, exec_append, restore, Option.bind_some]
  have contextKept : ∀ register ∈ contextRegs, restored.reg register = cpu.reg register := by
    have saved : loadAll restored.memory (trapFrame cpu - 8) 8 = context cpu := stackedResult.saved
    exact context_eq_iff.mp (restores.restored.trans saved)
  refine ⟨_, path.trans (exec_popPc_thread inHandler link frame), ?_⟩
  constructor
  case result => simp [Cpu.setAll]
  case others =>
    intro register different
    by_cases isContext : register ∈ contextRegs
    · have unstacked : register ∉ [Reg.r0, .r1, .r2, .r3, .r12, .lr] := by
        cases register <;> revert isContext <;> decide
      have kept : (restored.setAll [.r0, .r1, .r2, .r3, .r12, .lr] [value, cpu.reg .r1, cpu.reg .r2,
          cpu.reg .r3, cpu.reg .r12, cpu.reg .lr]).reg register = restored.reg register :=
        Cpu.setAll_other unstacked
      exact kept.trans (contextKept register isContext)
    · have isStacked : register ∈ [Reg.r1, .r2, .r3, .r12, .lr] := by
        cases register <;> revert isContext different <;> decide
      cases register <;> simp [Cpu.setAll] at isStacked ⊢
  case psp =>
    rw [psp]
    exact frameBelow_unstacked (cpu.psp - 1)
  case msp =>
    rw [mainStack]
    exact BitVec.sub_add_cancel _ _
  case returnAddress => exact stackedResult.returnAddress
  all_goals rfl

/-- The task is back at its call of `gkrtos_trigger_svcall`. -/
structure BackInCaller (cpu final : Cpu) : Prop where
  pc : final.pc = cpu.reg .lr &&& ~~~1
  psp : final.psp = cpu.psp
  msp : final.msp = cpu.msp
  received : final.reg .r0 = cpu.reg .lr
  others : ∀ register ≠ Reg.r0, final.reg register = cpu.reg register

/-- `gkrtos_trigger_svcall` after the exception: `pop {r0}` takes the return
address off the stack into the register the result is in. -/
theorem triggerExit_run {resumed : Cpu} {value : Value} (after : Resumed layout cpu value resumed)
    (code : (cpu.reg .lr).getLsbD 0 = true) :
    ∃ final, runAt (layout.triggerSvcall + 4) triggerSvcallExit resumed = some final ∧
      BackInCaller cpu final := by
  have sp : resumed.sp = cpu.psp - 1 := (Cpu.sp_thread after.thread after.process).trans after.psp
  have loaded : loadAll resumed.memory (cpu.psp - 1) [Reg.r0].length = [cpu.reg .lr] :=
    congrArg (fun value => [value]) after.returnAddress
  let popped : Cpu := ({ resumed with psp := cpu.psp - 1 + 1 }.set .r0 (cpu.reg .lr)).advance 2
  let moved : Cpu := (popped.set .lr (popped.reg .r0)).advance 2
  have pop : exec triggerSvcallExit resumed = exec [.bx .lr] moved := by
    rw [triggerSvcallExit, exec_pop, sp, loaded, Cpu.setSp_thread after.thread after.process, exec_mov]
    rfl
  have target : moved.reg .lr = cpu.reg .lr := by simp [moved, popped]
  have branch : exec [.bx .lr] moved = some { moved with pc := moved.reg .lr &&& ~~~1 } := by
    have thread : moved.ipsr = 0 := after.thread
    apply exec_bx_thread thread
    rw [target]
    exact code
  refine ⟨_, (if_pos after.pc).trans (pop.trans branch), ?_⟩
  constructor
  case pc => exact congrArg (· &&& ~~~1) target
  case psp => exact BitVec.sub_add_cancel _ _
  case msp => exact after.msp
  case received => simp [moved, popped]
  case others =>
    intro register different
    by_cases link : register = .lr
    · subst link
      exact target
    · rw [← after.others register different]
      simp [moved, popped, different, link]

end Stack

section Paths

variable [PicoSdk] [Malloc]

/-! ## The two paths -/

/-- The call that `gkrtos_syscall` makes before tasking has started. -/
def directPath (number : Word) (args : SyscallArgs) (now : AbsoluteTime) : KernelM Word := do
  internalSyscall (← taskingGetCurrentTask) number args now

/-- `gkrtos_syscall` takes the direct path before tasking has started and the
trapping path afterwards. -/
theorem syscall_path (trap : Word → SyscallArgs → AbsoluteTime → KernelM Word) (number : Word)
    (args : SyscallArgs) (now : AbsoluteTime) (kernel : Kernel) :
    syscall trap number args now kernel =
      if kernel.taskingStarted then trap number args now kernel
      else directPath number args now kernel := by
  unfold syscall
  rw [bind_apply, get_apply]
  cases started : kernel.taskingStarted with
  | false => simp [started, directPath]
  | true => simp [started]

/-- `gkrtos_svcall_handler` with its arguments in registers; `readArgs` is what
a pointer to system call arguments points at. -/
def svcallCall (readArgs : Memory → Value → SyscallArgs) (now : AbsoluteTime) (cpu : Cpu) :
    KernelM Word :=
  svcallHandler (cpu.reg .r0) (cpu.reg .r1) (readArgs cpu.memory (cpu.reg .r2)) now

/-- The arguments of a system call lie outside the words that the path to the
handler stores to. -/
def ArgsAt (readArgs : Memory → Value → SyscallArgs) (args : SyscallArgs) (cpu : Cpu) : Prop :=
  ∀ memory : Memory, (∀ cell ∉ insert (cpu.msp - 1) (Span (cpu.psp - 18) 18),
    memory cell = cpu.memory cell) → readArgs memory (cpu.reg .r1) = args

variable {layout : Layout} {taskStack : Set Cell} {readArgs : Memory → Value → SyscallArgs}
variable {handler : Machine → Machine} {machine : Machine} {args : SyscallArgs} {now : AbsoluteTime}
variable {value : Word} {kernel : Kernel}

theorem svcallHandler_ok {stackptr number : Word} {before : Kernel}
    (direct : directPath number args now before = .ok value kernel) :
    svcallHandler stackptr number args now before =
      .ok value { kernel with svcallStackptr := stackptr } := by
  have ran : internalSyscall (before.cores before.cpuid).currentlyRunningPid number args now before =
      .ok value kernel := direct
  simp [svcallHandler, taskingGetCurrentTask, ran]

/-- Everything on the path works: the call comes back to its caller with the
stack pointers and every register but `r0` as they were, and the kernel has done
what the direct path does. -/
theorem triggerSvcall_run (compiled : Compiles layout taskStack (svcallCall readArgs now) handler)
    (calls : CallsTrigger layout taskStack machine.cpu)
    (code : (machine.cpu.reg .lr).getLsbD 0 = true) (argsAt : ArgsAt readArgs args machine.cpu)
    (direct : directPath (machine.cpu.reg .r0) args now machine.kernel = .ok value kernel)
    (unknown : Reg → Value) :
    ∃ final, triggerSvcall layout unknown handler machine = some final ∧
      BackInCaller machine.cpu final.cpu ∧
      final.kernel = { kernel with svcallStackptr := address (trapFrame machine.cpu - 8) } := by
  have apart : machine.cpu.msp - 1 ∉ Span (machine.cpu.psp - 18) 18 :=
    fun inside => calls.mainStack (calls.room inside)
  obtain ⟨called, reach, atHandler⟩ := isrEntry_run calls unknown
  let request : Machine := { machine with cpu := called }
  have asked : svcallCall readArgs now called request.kernel =
      .ok value { kernel with svcallStackptr := address (trapFrame machine.cpu - 8) } := by
    have sameArgs := argsAt called.memory atHandler.elsewhere
    rw [svcallCall, atHandler.stackptr, atHandler.number, atHandler.args, sameArgs]
    exact svcallHandler_ok direct
  have away : layout.svcallStackptr ∉ insert called.msp taskStack := by
    rw [atHandler.msp]
    exact calls.svcallStackptr
  have answer := compiled request value _ away asked
  have stacked : Stacked layout machine.cpu (machine.cpu.reg .r0) (handler request).cpu.memory := by
    apply atHandler.stacked.congr
    rintro cell (rfl | inside)
    · exact answer.returned.memory _ (.inl atHandler.msp.symm)
    · exact answer.returned.memory _ (.inr (calls.room inside))
  have msp : (handler request).cpu.msp = machine.cpu.msp - 1 :=
    answer.returned.msp.trans atHandler.msp
  have inHandler : (handler request).cpu.ipsr ≠ 0 := by
    rw [answer.returned.ipsr, atHandler.ipsr]
    decide
  obtain ⟨resumed, resume, after⟩ :=
    isrExit_run apart stacked answer.result answer.svcallStackptr msp inHandler
  obtain ⟨final, finish, back⟩ := triggerExit_run after code
  have resumeAt : (atSvc machine.cpu).pc + 2 = layout.triggerSvcall + 4 := by
    have moved : (atSvc machine.cpu).pc = layout.triggerSvcall + 2 := congrArg (· + 2) calls.pc
    rw [moved]
    bv_omega
  have back' : (handler request).cpu.pc = layout.isrSvcall + codeSize (isrSvcallEntry layout) := by
    have link : request.cpu.reg .lr = _ := atHandler.returnAddress
    rw [answer.returned.pc, link]
    exact setLowest_clear (isrSvcallEntry_even layout)
  refine ⟨{ handler request with cpu := final }, ?_, back, answer.globals⟩
  have resumes : runAt (layout.isrSvcall + codeSize (isrSvcallEntry layout)) (isrSvcallExit layout)
      (handler request).cpu = some resumed := (if_pos back').trans resume
  have entered : runAt layout.isrSvcall (isrSvcallEntry layout)
      ((atSvc machine.cpu).enter svcallException layout.isrSvcall (layout.triggerSvcall + 4) unknown) =
      some called := reach
  rw [triggerSvcall, triggerEntry_run calls]
  simp only [resumeAt, entered, resumes, finish, request, Option.bind_eq_bind, Option.bind_some]
  rfl

/-- What a system call returns is no address of code. -/
theorem result_ne_returnAddress {task : TaskPtr} {number address : Word} {before : Kernel}
    (direct : internalSyscall task number args now before = .ok value kernel)
    (code : ReturnAddress address) : address ≠ value := by
  obtain ⟨-, above, below⟩ := code
  rintro rfl
  cases internalSyscall_ok direct with
  | inl small =>
    have high : (0x10000000 : Value).toNat ≤ address.toNat := above
    have low : address.toNat < 128 := small
    have start : (0x10000000 : Value).toNat = 0x10000000 := rfl
    omega
  | inr unknownCall =>
    rw [unknownCall] at below
    exact absurd below (by decide)

/-- The task receives this value from `gkrtos_trigger_svcall` and goes on at
its return address. -/
def Receives (trapped : Option Machine) (returnAddress value : Word) : Prop :=
  ∃ final, trapped = some final ∧ final.cpu.reg .r0 = value ∧
    final.cpu.pc = returnAddress &&& ~~~1

/-- Whatever a task asks for, it gets its own return address instead of what
the direct path returns. -/
theorem trapping_path_differs (compiled : Compiles layout taskStack (svcallCall readArgs now) handler)
    (calls : CallsTrigger layout taskStack machine.cpu) (code : ReturnAddress (machine.cpu.reg .lr))
    (argsAt : ArgsAt readArgs args machine.cpu)
    (direct : directPath (machine.cpu.reg .r0) args now machine.kernel = .ok value kernel)
    (unknown : Reg → Value) :
    Receives (triggerSvcall layout unknown handler machine) (machine.cpu.reg .lr)
        (machine.cpu.reg .lr) ∧
      ¬ Receives (triggerSvcall layout unknown handler machine) (machine.cpu.reg .lr) value := by
  obtain ⟨final, run, back, -⟩ := triggerSvcall_run compiled calls code.1 argsAt direct unknown
  constructor
  · exact ⟨final, run, back.received, back.pc⟩
  · rintro ⟨final', run', received, -⟩
    have same : final = final' := Option.some.inj (run.symm.trans run')
    rw [← same, back.received] at received
    have ran : internalSyscall _ (machine.cpu.reg .r0) args now machine.kernel = .ok value kernel :=
      direct
    exact result_ne_returnAddress ran code received

end Paths

section Example

attribute [local instance] PicoSdk.reference Malloc.reference

/-- The kernel right after its start. -/
@[irreducible] private def startedKernel : Kernel :=
  match launch 0 0 [] 0 Kernel.initial with
  | .ok _ kernel => kernel
  | .error _ kernel => kernel

private def exampleLayout : Layout := Layout.reference 0x8000000

/-- A task that calls `gkrtos_syscall_yield` with its stack in RAM. -/
private def yieldingTask : Cpu where
  reg register := if register = .r0 then syscallYield else if register = .lr then 0x10000601 else 0
  pc := 0x10000200
  flags := 0
  ipsr := 0
  msp := 0x8010000
  psp := 0x8001000
  spsel := true
  memory := fun _ => 0

private def yieldCall : Machine → Machine :=
  referenceCode exampleLayout (svcallCall (fun _ _ => SyscallArgs.zero) 100)

private theorem yield_result :
    (match directPath syscallYield SyscallArgs.zero 100 startedKernel with
      | .ok value _ => value == syscallErrnoSuccess
      | .error _ _ => false) = true := by
  decide +kernel

private theorem yield_direct : ∃ kernel,
    directPath syscallYield SyscallArgs.zero 100 startedKernel = .ok syscallErrnoSuccess kernel := by
  have computed := yield_result
  cases run : directPath syscallYield SyscallArgs.zero 100 startedKernel with
  | ok value kernel =>
    rw [run] at computed
    exact ⟨kernel, by rw [eq_of_beq computed]⟩
  | error fault kernel =>
    rw [run] at computed
    cases computed

/-- The words it needs below its stack pointer. -/
private def exampleStack : Set Cell := Span (yieldingTask.psp - 18) 18

private theorem yieldingTask_calls : CallsTrigger exampleLayout exampleStack yieldingTask := by
  have mainStack : yieldingTask.msp - 1 ∉ exampleStack := by
    show ¬ (yieldingTask.msp - 1 - (yieldingTask.psp - 18)).toNat < 18
    decide
  have variable_ : exampleLayout.svcallStackptr ∉ exampleStack := by
    show ¬ (exampleLayout.svcallStackptr - (yieldingTask.psp - 18)).toNat < 18
    decide
  refine ⟨rfl, rfl, rfl, fun _ inside => inside, mainStack, ?_⟩
  rintro (same | inside)
  · exact absurd same (by decide)
  · exact variable_ inside

private theorem yieldingTask_returns : ReturnAddress (yieldingTask.reg .lr) := by
  have link : yieldingTask.reg .lr = 0x10000601 := rfl
  rw [link, ReturnAddress]
  decide

/-- `gkrtos_syscall_yield` returns an address of code. -/
theorem trapping_path_differs_example : ∃ kernel,
    directPath (yieldingTask.reg .r0) SyscallArgs.zero 100 startedKernel =
        .ok syscallErrnoSuccess kernel ∧
      Receives (triggerSvcall exampleLayout (fun _ => 0) yieldCall ⟨yieldingTask, startedKernel⟩)
        (yieldingTask.reg .lr) (yieldingTask.reg .lr) ∧
      ¬ Receives (triggerSvcall exampleLayout (fun _ => 0) yieldCall ⟨yieldingTask, startedKernel⟩)
        (yieldingTask.reg .lr) syscallErrnoSuccess := by
  have number : yieldingTask.reg .r0 = syscallYield := rfl
  obtain ⟨kernel, direct⟩ := yield_direct
  rw [← number] at direct
  have compiled := referenceCode_compiles exampleLayout exampleStack
    (svcallCall (fun _ _ => SyscallArgs.zero) 100)
  have argsAt : ArgsAt (fun _ _ => SyscallArgs.zero) SyscallArgs.zero yieldingTask := fun _ _ => rfl
  let machine : Machine := ⟨yieldingTask, startedKernel⟩
  exact ⟨kernel, direct, @trapping_path_differs _ _ _ _ _ _ machine _ _ _ _ compiled
    yieldingTask_calls yieldingTask_returns argsAt direct fun _ => 0⟩

/-- The direct path returns success for the same call. -/
theorem yield_result_lost :
    Compiles exampleLayout exampleStack (svcallCall (fun _ _ => SyscallArgs.zero) 100) yieldCall ∧
      (∃ kernel, directPath (yieldingTask.reg .r0) SyscallArgs.zero 100 startedKernel =
        .ok syscallErrnoSuccess kernel) ∧
      ¬ Receives (triggerSvcall exampleLayout (fun _ => 0) yieldCall ⟨yieldingTask, startedKernel⟩)
        (yieldingTask.reg .lr) syscallErrnoSuccess := by
  have received : (triggerSvcall exampleLayout (fun _ => 0) yieldCall
      ⟨yieldingTask, startedKernel⟩).map (fun final => final.cpu.reg .r0) = some 0x10000601 := by
    decide +kernel
  have number : yieldingTask.reg .r0 = syscallYield := rfl
  refine ⟨referenceCode_compiles _ _ _, ?_, ?_⟩
  · rw [number]
    exact yield_direct
  · rintro ⟨final, run, success, -⟩
    rw [run, Option.map_some, success] at received
    cases received

end Example

end Gkrtos
