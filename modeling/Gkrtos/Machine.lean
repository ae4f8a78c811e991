import Gkrtos.Assembly
import Gkrtos.Syscalls

/-! The processor together with the kernel it runs. The assembly routines are
executed instruction by instruction; the C handlers they call are compiled code,
which is a parameter: it returns what the C function returns, keeps to the
procedure call standard and leaves the stacks of the tasks alone. -/
namespace Gkrtos

open Armv6m

structure Machine where
  cpu : Cpu
  kernel : Kernel

/-- What a call of compiled C code leaves when the function returned `value`. -/
structure Called (layout : Layout) (taskStacks : Set Cell) (value : Word) (kernel : Kernel)
    (before after : Machine) : Prop where
  result : after.cpu.reg .r0 = value
  globals : after.kernel = kernel
  svcallStackptr : after.cpu.memory layout.svcallStackptr = kernel.svcallStackptr
  returned : CallReturns (insert before.cpu.msp taskStacks) before.cpu after.cpu

/-- Code that leaves more words alone leaves these alone. -/
theorem Called.mono {layout : Layout} {taskStacks others : Set Cell} {value : Word} {kernel : Kernel}
    {before after : Machine} (called : Called layout others value kernel before after)
    (subset : taskStacks ⊆ others) : Called layout taskStacks value kernel before after := by
  constructor
  case result => exact called.result
  case globals => exact called.globals
  case svcallStackptr => exact called.svcallStackptr
  case returned =>
    constructor
    case pc => exact called.returned.pc
    case saved => exact called.returned.saved
    case msp => exact called.returned.msp
    case ipsr => exact called.returned.ipsr
    case memory =>
      intro cell inside
      exact called.returned.memory cell (Set.insert_subset_insert subset inside)

/-- So does code called in a memory that was the same in these words. -/
theorem Called.of_memory {layout : Layout} {taskStacks : Set Cell} {value : Word} {kernel : Kernel}
    {before after : Machine} {memory : Memory}
    (called : Called layout taskStacks value kernel
      { before with cpu := { before.cpu with memory } } after)
    (same : ∀ cell ∈ insert before.cpu.msp taskStacks, memory cell = before.cpu.memory cell) :
    Called layout taskStacks value kernel before after := by
  constructor
  case result => exact called.result
  case globals => exact called.globals
  case svcallStackptr => exact called.svcallStackptr
  case returned =>
    constructor
    case pc => exact called.returned.pc
    case saved => exact called.returned.saved
    case msp => exact called.returned.msp
    case ipsr => exact called.returned.ipsr
    case memory =>
      intro cell inside
      rw [called.returned.memory cell inside]
      exact same cell inside

/-- Compiled code of a C function that reads its arguments from the processor
state, as far as calls of it from an exception handler go. The variable the
assembly reads lies outside the stacks. -/
def Compiles (layout : Layout) (taskStacks : Set Cell) (program : Cpu → KernelM Word)
    (compiled : Machine → Machine) : Prop :=
  ∀ machine value kernel, layout.svcallStackptr ∉ insert machine.cpu.msp taskStacks →
    program machine.cpu machine.kernel = .ok value kernel →
      Called layout taskStacks value kernel machine (compiled machine)

/-- Code that does just this. -/
def referenceCode (layout : Layout) (program : Cpu → KernelM Word) (machine : Machine) : Machine :=
  match program machine.cpu machine.kernel with
  | .ok value kernel =>
    { cpu := { machine.cpu.set .r0 value with
        pc := machine.cpu.reg .lr &&& ~~~1
        memory := Function.update machine.cpu.memory layout.svcallStackptr kernel.svcallStackptr }
      kernel }
  | .error _ _ => machine

theorem referenceCode_compiles (layout : Layout) (taskStacks : Set Cell)
    (program : Cpu → KernelM Word) :
    Compiles layout taskStacks program (referenceCode layout program) := by
  intro machine value kernel apart run
  rw [referenceCode, run]
  refine ⟨by simp, rfl, by simp, ⟨rfl, ?_, rfl, rfl, ?_⟩⟩
  · intro register isSaved
    have different : register ≠ .r0 := by
      rintro rfl
      exact absurd isSaved (by decide)
    simp [different]
  · intro cell isKept
    have different : cell ≠ layout.svcallStackptr := fun same => apart (same ▸ isKept)
    exact Function.update_of_ne different _ _

/-! ## Entering a handler -/

/-- What both handlers start with: EXC_RETURN goes to the main stack and the
context of the task below its stack pointer. -/
structure PushesContext (before after : Cpu) : Prop where
  pointer : after.reg .r0 = address (before.psp - 8)
  memory : after.memory = storeAll (Function.update before.memory (before.msp - 1) (before.reg .lr))
    (before.psp - 8) (context before)
  others : ∀ register ∉ [Reg.r0, .r4, .r5, .r6, .r7], after.reg register = before.reg register
  pc : after.pc = before.pc + 24
  psp : after.psp = before.psp
  msp : after.msp = before.msp - 1
  ipsr : after.ipsr = before.ipsr

theorem pushContext_exec {cpu : Cpu} (handler : cpu.ipsr ≠ 0) :
    ∃ saved, (∀ rest, exec ([.push [.lr]] ++ contextSave .r0 ++ rest) cpu = exec rest saved) ∧
      PushesContext cpu saved := by
  let pushed : Cpu := { cpu with
    msp := cpu.msp - 1
    memory := Function.update cpu.memory (cpu.msp - 1) (cpu.reg .lr)
    pc := cpu.pc + 2 }
  have push : exec [.push [.lr]] cpu = some pushed := by
    rw [exec_push, exec_nil, Cpu.sp_handler handler, Cpu.setSp_handler handler]
    rfl
  obtain ⟨saved, run, saves⟩ := contextSave_exec pushed
  have size : codeSize (contextSave .r0) = 22 := by decide
  refine ⟨saved, ?_, ?_⟩
  · intro rest
    rw [exec_append, exec_append, push, Option.bind_some, run, Option.bind_some]
  · constructor
    case pc =>
      have moved : saved.pc = cpu.pc + 2 + codeSize (contextSave .r0) := saves.pc
      rw [moved, size]
      bv_omega
    case pointer => exact saves.pointer
    case memory => exact saves.memory
    case others => exact saves.others
    case psp => exact saves.psp
    case msp => exact saves.msp
    case ipsr => exact saves.ipsr

section Entering

variable {before after : Cpu} {cell : Cell}

/-- The words on either side of the context are not written. -/
theorem PushesContext.elsewhere (entered : PushesContext before after)
    (outside : cell ∉ Span (before.psp - 8) 8) (different : cell ≠ before.msp - 1) :
    after.memory cell = before.memory cell := by
  have unwritten : cell ∉ Span (before.psp - 8) (context before).length := outside
  rw [entered.memory, storeAll_outside unwritten, Function.update_of_ne different]

theorem PushesContext.saved (entered : PushesContext before after) :
    Holds after.memory (before.psp - 8) (context before) := by
  rw [entered.memory]
  exact holds_storeAll (show 8 ≤ 2 ^ 30 by decide)

theorem PushesContext.link (entered : PushesContext before after)
    (apart : before.msp - 1 ∉ Span (before.psp - 8) 8) :
    after.memory (before.msp - 1) = before.reg .lr := by
  have unwritten : before.msp - 1 ∉ Span (before.psp - 8) (context before).length := apart
  rw [entered.memory, storeAll_outside unwritten, Function.update_self]

end Entering

/-! ## The handler of SVCall -/

section Svcall

variable {layout : Layout} {cpu : Cpu} {cell : Cell}

/-- The C handler is called with the stack pointer and with the stacked `r0` and
`r1`. -/
structure CallsHandler (layout : Layout) (saved called : Cpu) : Prop where
  stackptr : called.reg .r0 = address (saved.psp - 8)
  number : called.reg .r1 = saved.memory saved.psp
  args : called.reg .r2 = saved.memory (saved.psp + 1)
  returnAddress : called.reg .lr = (saved.pc + 8) ||| 1
  msp : called.msp = saved.msp
  ipsr : called.ipsr = saved.ipsr
  memory : called.memory = saved.memory

theorem isrSvcallEntry_exec (handler : cpu.ipsr ≠ 0) :
    ∃ saved called, exec (isrSvcallEntry layout) cpu = some called ∧ PushesContext cpu saved ∧
      CallsHandler layout saved called := by
  obtain ⟨saved, run, pushes⟩ := pushContext_exec handler
  have pointer : saved.reg .r0 = address (saved.psp - 8) := by
    rw [pushes.pointer, pushes.psp]
  have atFirst : saved.reg .r0 + 32 = address saved.psp := by
    have moved := address_add (saved.psp - 8) 8
    rw [BitVec.sub_add_cancel] at moved
    rw [pointer, moved]
    rfl
  let number : Cpu := (saved.set .r1 (saved.memory saved.psp)).advance 2
  have atSecond : number.reg .r0 + 36 = address (saved.psp + 1) := by
    have moved := address_add (saved.psp - 8) 9
    have offset : saved.psp - 8 + 9 = saved.psp + 1 := by
      bv_omega
    rw [offset] at moved
    rw [moved, ← pointer]
    rfl
  let args : Cpu := (number.set .r2 (number.memory (saved.psp + 1))).advance 2
  refine ⟨saved, { args.set .lr ((args.pc + 4) ||| 1) with pc := layout.svcallHandler &&& ~~~1 },
    ?_, pushes, ?_⟩
  · rw [isrSvcallEntry, run, exec_ldr atFirst, exec_ldr atSecond, exec_bl]
  · constructor
    case stackptr => simpa [args, number] using pointer
    case returnAddress =>
      have returns : saved.pc + 2 + 2 + 4 = saved.pc + 8 := by
        bv_omega
      rw [← returns]
      rfl
    all_goals simp [args, number]

/-- The result is stored above the context at `cell`, which is then loaded. -/
structure RestoresCaller (cell : Cell) (before after : Cpu) : Prop where
  restored : context after = loadAll after.memory cell 8
  psp : after.psp = cell + 8
  msp : after.msp = before.msp
  ipsr : after.ipsr = before.ipsr
  memory : after.memory = Function.update before.memory (cell + 8) (before.reg .r0)

theorem isrSvcallRestore_exec (stackptr : cpu.memory layout.svcallStackptr = address cell) :
    ∃ restored, exec (isrSvcallRestore layout) cpu = some restored ∧
      RestoresCaller cell cpu restored := by
  let literal : Cpu := (cpu.set .r1 (address layout.svcallStackptr)).advance 2
  have atVariable : literal.reg .r1 + 0 = address layout.svcallStackptr := by
    simp [literal]
  let loaded : Cpu := (literal.set .r1 (literal.memory layout.svcallStackptr)).advance 2
  have pointer : loaded.reg .r1 = address cell := by
    simpa [loaded, literal] using stackptr
  have atFrame : loaded.reg .r1 + 32 = address (cell + 8) := by
    rw [pointer, address_add]
    rfl
  let stored : Cpu := { loaded with
    memory := Function.update loaded.memory (cell + 8) (loaded.reg .r0) }.advance 2
  let moved : Cpu := (stored.set .r0 (stored.reg .r1)).advance 2
  have source : moved.reg .r0 = address cell := by
    simpa [moved, stored] using pointer
  obtain ⟨restored, restore, restores⟩ := contextRestore_exec source
  refine ⟨restored, ?_, ?_⟩
  · rw [isrSvcallRestore, exec_append, exec_ldrLiteral, exec_ldr atVariable, exec_str atFrame,
      exec_mov, exec_nil, Option.bind_some, restore]
  · constructor
    case restored => rw [restores.restored, restores.memory]
    case psp => exact restores.psp
    case msp => exact restores.msp
    case ipsr => exact restores.ipsr
    case memory =>
      have kept : loaded.reg .r0 = cpu.reg .r0 := by
        simp [loaded, literal]
      rw [restores.memory, ← kept]
      rfl

end Svcall

/-! ## The handler of PendSV -/

section Pendsv

variable {layout : Layout} {cpu : Cpu}

/-- The C handler is called with the stack pointer. -/
structure CallsPendsvHandler (saved called : Cpu) : Prop where
  stackptr : called.reg .r0 = saved.reg .r0
  msp : called.msp = saved.msp
  memory : called.memory = saved.memory

theorem isrPendsvEntry_exec (handler : cpu.ipsr ≠ 0) :
    ∃ saved called, exec (isrPendsvEntry layout) cpu = some called ∧ PushesContext cpu saved ∧
      CallsPendsvHandler saved called := by
  obtain ⟨saved, run, pushes⟩ := pushContext_exec handler
  refine ⟨saved, { saved.set .lr ((saved.pc + 4) ||| 1) with
    pc := layout.pendsvHandlerC &&& ~~~1 }, ?_, pushes, ?_⟩
  · rw [isrPendsvEntry, run, exec_bl]
  · constructor
    all_goals simp

/-- The context at `cell` is loaded, and the stack pointer is above it. -/
structure RestoresTask (cell : Cell) (before after : Cpu) : Prop where
  restored : context after = loadAll after.memory cell 8
  psp : after.psp = cell + 8
  msp : after.msp = before.msp
  memory : after.memory = before.memory

/-- It gets to the exception return only from the address of a word. -/
theorem isrPendsvExit_restores {final : Cpu} (run : exec isrPendsvExit cpu = some final) :
    ∃ cell, cpu.reg .r0 = address cell ∧ RestoresTask cell cpu final := by
  rw [isrPendsvExit, exec_append] at run
  obtain ⟨restored, restore, barrier⟩ := Option.bind_eq_some_iff.mp run
  obtain ⟨cell, pointer⟩ := ldmia_aligned restore
  obtain ⟨loaded, load, restores⟩ := contextRestore_exec pointer
  obtain rfl : restored = loaded := Option.some.inj (restore.symm.trans load)
  rw [exec_dsb, exec_nil] at barrier
  obtain rfl : restored.advance 4 = final := Option.some.inj barrier
  refine ⟨cell, pointer, ?_⟩
  constructor
  case restored =>
    show context restored = loadAll restored.memory cell 8
    rw [restores.restored, restores.memory]
  case psp => exact restores.psp
  case msp => exact restores.msp
  case memory => exact restores.memory

end Pendsv

end Gkrtos
