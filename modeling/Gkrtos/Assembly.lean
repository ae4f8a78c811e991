import Gkrtos.Armv6m

/-! The routines of `asm.S` that tasks and the kernel enter each other through:
the two context macros, the handlers of SVCall and PendSV, and the function that
makes a system call. Each is cut where it hands over to something else, at
a call of a C function or at `svc`. -/
namespace Gkrtos

open Armv6m

/-! ## The macros -/

/-- `CONTEXT_SAVE` -/
def contextSave (rS : Reg) : List Instr := [
  .mrsPsp rS,
  .subs rS rS 16, -- Store low registers
  .stmia rS [.r4, .r5, .r6, .r7],
  .mov .r4 .r8,
  .mov .r5 .r9,
  .mov .r6 .r10,
  .mov .r7 .r11,
  .subs rS rS 32, -- Store high registers
  .stmia rS [.r4, .r5, .r6, .r7],
  .subs rS rS 16] -- Revert auto-increment

/-- `CONTEXT_RESTORE` -/
def contextRestore (rS : Reg) : List Instr := [
  .ldmia rS [.r4, .r5, .r6, .r7],
  .mov .r8 .r4,
  .mov .r9 .r5,
  .mov .r10 .r6,
  .mov .r11 .r7,
  .ldmia rS [.r4, .r5, .r6, .r7],
  .msrPsp rS]

/-- The registers hardware does not stack, in the order in which they are
saved. -/
def contextRegs : List Reg := [.r8, .r9, .r10, .r11, .r4, .r5, .r6, .r7]

def context (cpu : Cpu) : List Value := contextRegs.map cpu.reg

theorem context_length {cpu : Cpu} : (context cpu).length = 8 := rfl

/-- What `CONTEXT_SAVE r0` does: eight words are stored below the process
stack pointer, which stays where it is. -/
structure SavesContext (before after : Cpu) : Prop where
  pointer : after.reg .r0 = address (before.psp - 8)
  memory : after.memory = storeAll before.memory (before.psp - 8) (context before)
  others : ∀ register ∉ [Reg.r0, .r4, .r5, .r6, .r7], after.reg register = before.reg register
  pc : after.pc = before.pc + codeSize (contextSave .r0)
  psp : after.psp = before.psp
  msp : after.msp = before.msp
  ipsr : after.ipsr = before.ipsr
  spsel : after.spsel = before.spsel

/-- The high registers end up right below the low ones. -/
private theorem storeAll_halves {memory : Memory} {sp : Cell} {low high : List Value}
    (lowSize : low.length = 4) (highSize : high.length = 4) :
    storeAll (storeAll memory (sp - 4) low) (sp - 8) high = storeAll memory (sp - 8) (high ++ low) := by
  have middle : sp - 4 = sp - 8 + BitVec.ofNat 30 high.length := by
    rw [highSize]
    bv_omega
  rw [middle]
  exact storeAll_storeAll (by omega)

theorem contextSave_exec (cpu : Cpu) :
    ∃ saved, exec (contextSave .r0) cpu = some saved ∧ SavesContext cpu saved := by
  have low : address cpu.psp - 16 = address (cpu.psp - 4) := (address_sub cpu.psp 4).symm
  have high : address cpu.psp - 32 = address (cpu.psp - 8) := (address_sub cpu.psp 8).symm
  have size : codeSize (contextSave .r0) = 22 := by decide
  have reverted : address (cpu.psp - 8 + 4) - 16 = address (cpu.psp - 8) := by
    rw [address_add]
    exact BitVec.add_sub_cancel _ _
  rw [contextSave, exec_mrsPsp, exec_subs, @exec_stmia _ _ _ (cpu.psp - 4)]
  · rw [exec_mov, exec_mov, exec_mov, exec_mov, exec_subs, @exec_stmia _ _ _ (cpu.psp - 8)]
    · rw [exec_subs, exec_nil]
      refine ⟨_, rfl, ?_⟩
      constructor
      case pointer =>
        simpa using reverted
      case memory =>
        have joined := @storeAll_halves cpu.memory cpu.psp
          [cpu.reg .r4, cpu.reg .r5, cpu.reg .r6, cpu.reg .r7]
          [cpu.reg .r8, cpu.reg .r9, cpu.reg .r10, cpu.reg .r11] rfl rfl
        simpa [context, contextRegs] using joined
      case others =>
        intro register kept
        simp only [List.mem_cons, List.not_mem_nil, or_false, not_or] at kept
        simp [kept]
      case pc =>
        rw [size]
        simp only [Cpu.advance_fields, Cpu.set_fields]
        bv_omega
      all_goals simp
    · simpa using high
  · simpa using low

/-- What `CONTEXT_RESTORE r0` does when `r0` points to `cell`: eight words are
loaded and the process stack pointer is set above them. -/
structure RestoresContext (cell : Cell) (before after : Cpu) : Prop where
  restored : context after = loadAll before.memory cell 8
  others : ∀ register ∉ Reg.r0 :: contextRegs, after.reg register = before.reg register
  pc : after.pc = before.pc + codeSize (contextRestore .r0)
  psp : after.psp = cell + 8
  msp : after.msp = before.msp
  ipsr : after.ipsr = before.ipsr
  memory : after.memory = before.memory

/-- The values found in memory are the context afterwards. -/
theorem RestoresContext.loads {cell : Cell} {before after : Cpu} {values : List Value}
    (restores : RestoresContext cell before after) (saved : Holds before.memory cell values)
    (size : values.length = 8) : context after = values := by
  rw [restores.restored, ← size]
  exact saved

theorem context_eq_iff {cpu cpu' : Cpu} :
    context cpu = context cpu' ↔ ∀ register ∈ contextRegs, cpu.reg register = cpu'.reg register :=
  List.map_inj_left

theorem contextRestore_exec {cpu : Cpu} {cell : Cell} (pointer : cpu.reg .r0 = address cell) :
    ∃ restored, exec (contextRestore .r0) cpu = some restored ∧ RestoresContext cell cpu restored := by
  have size : codeSize (contextRestore .r0) = 16 := by decide
  rw [contextRestore, exec_ldmia pointer, exec_mov, exec_mov, exec_mov, exec_mov,
    @exec_ldmia _ _ _ (cell + 4)]
  · rw [exec_msrPsp, exec_nil]
    refine ⟨_, rfl, ?_⟩
    constructor
    case restored =>
      simp [context, contextRegs, loadAll, Cpu.setAll, BitVec.add_assoc]
    case others =>
      intro register kept
      simp only [contextRegs, List.mem_cons, List.not_mem_nil, or_false, not_or] at kept
      simp [loadAll, Cpu.setAll, kept]
    case pc =>
      rw [size]
      simp only [Cpu.advance_fields, Cpu.set_fields, Cpu.setAll_pc]
      bv_omega
    case psp =>
      simp [loadAll, Cpu.setAll, BitVec.add_assoc]
    all_goals simp [loadAll, Cpu.setAll]
  · simp [loadAll, Cpu.setAll]

/-! ## The routines -/

/-- Where the linker put the routines, the C functions they call and the
variable they read. -/
structure Layout where
  isrSvcall : Value
  triggerSvcall : Value
  isrPendsv : Value
  stackInit : Value
  svcallHandler : Value
  pendsvHandlerC : Value
  svcallStackptr : Cell
  isrSvcall_even : isrSvcall.toNat % 2 = 0
  isrPendsv_even : isrPendsv.toNat % 2 = 0

/-- A layout a linker could choose. -/
def Layout.reference (svcallStackptr : Cell) : Layout :=
  ⟨0x10000100, 0x10000200, 0x10000300, 0x10000380, 0x10000401, 0x10000501, svcallStackptr,
    by decide, by decide⟩

/-- `isr_svcall` up to the call of `gkrtos_svcall_handler`. -/
def isrSvcallEntry (layout : Layout) : List Instr :=
  [.push [.lr]] ++ contextSave .r0 ++ [
    .ldr .r1 .r0 32, -- 1st argument (r0 on psp)
    .ldr .r2 .r0 36, -- 2nd argument (r1 on psp)
    .bl layout.svcallHandler]

theorem isrSvcallEntry_size (layout : Layout) : codeSize (isrSvcallEntry layout) = 32 := by
  have save : codeSize (contextSave .r0) = 22 := by decide
  have last : codeSize [.ldr .r1 .r0 32, .ldr .r2 .r0 36, .bl layout.svcallHandler] = 8 := rfl
  rw [isrSvcallEntry, codeSize_append, codeSize_append, save, last]
  decide

/-- What follows the entry is an instruction as well. -/
theorem isrSvcallEntry_even (layout : Layout) :
    (layout.isrSvcall + codeSize (isrSvcallEntry layout)).toNat % 2 = 0 := by
  have start := layout.isrSvcall_even
  rw [isrSvcallEntry_size]
  bv_omega

/-- The rest of `isr_svcall`. -/
def isrSvcallExit (layout : Layout) : List Instr :=
  [.ldrLiteral .r1 (address layout.svcallStackptr),
    .ldr .r1 .r1 0,
    .str .r0 .r1 32, -- return type [r0 on psp]
    .mov .r0 .r1] ++ contextRestore .r0 ++ [.popPc]

/-- The rest of `isr_svcall` up to the exception return. -/
def isrSvcallRestore (layout : Layout) : List Instr :=
  [.ldrLiteral .r1 (address layout.svcallStackptr),
    .ldr .r1 .r1 0,
    .str .r0 .r1 32,
    .mov .r0 .r1] ++ contextRestore .r0

theorem isrSvcallExit_split (layout : Layout) :
    isrSvcallExit layout = isrSvcallRestore layout ++ [.popPc] := rfl

/-- `gkrtos_trigger_svcall` up to `svc #0`. -/
def triggerSvcallEntry : List Instr := [.push [.lr]]

/-- The rest of `gkrtos_trigger_svcall`. -/
def triggerSvcallExit : List Instr := [.pop [.r0], .mov .lr .r0, .bx .lr]

/-- `isr_pendsv` up to the call of `gkrtos_pendsv_handler_c`. -/
def isrPendsvEntry (layout : Layout) : List Instr :=
  [.push [.lr]] ++ contextSave .r0 ++ [.bl layout.pendsvHandlerC]

/-- The rest of `isr_pendsv`, up to the exception return `pop {pc}`. -/
def isrPendsvExit : List Instr := contextRestore .r0 ++ [.dsb]

end Gkrtos
