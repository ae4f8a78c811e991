import Mathlib.Data.Set.Lattice
import Mathlib.Order.CompletePartialOrder
import Gkrtos.Assembly
import Gkrtos.Syscalls

/-! `gkrtos_internal_stack_init` of `asm.S`, which lays out the stack of a new
task: a frame as the hardware stacks it, and below it the context that
`CONTEXT_RESTORE` loads. It uses `CONTEXT_SAVE` for the lower half, with the
process stack pointer set to the new stack. -/
namespace Gkrtos

open Armv6m

/-- `gkrtos_internal_stack_init` up to its use of `CONTEXT_SAVE`. -/
def stackInitFrame : List Instr := [
  .push [.r4, .r5, .r6, .r7, .lr],
  .subs .r0 .r0 32,
  .movs .r4 0,
  .movs .r5 0,
  .movs .r6 0,
  .movs .r7 0,
  .stmia .r0 [.r4, .r5, .r6, .r7],
  .mov .r4 .r12,
  .mov .r5 .lr,
  .mov .r6 .r1,
  .ldrLiteral .r7 0x1000000,
  .stmia .r0 [.r4, .r5, .r6, .r7],
  .subs .r0 .r0 32,
  .msrPsp .r0]

/-- `gkrtos_internal_stack_init` -/
def stackInit : List Instr :=
  stackInitFrame ++ contextSave .r0 ++ [.popWithPc [.r4, .r5, .r6, .r7]]

/-- The frame of a task that starts at `function` with zero arguments; the T bit
of xPSR is set. -/
def startFrame (r12 lr function : Value) : List Value :=
  [0, 0, 0, 0, r12, lr, function, 0x1000000]

/-- All sixteen words. The low registers of the context hold what was just
stored as the upper half of the frame. -/
def startContext (cpu : Cpu) : List Value :=
  [cpu.reg .r8, cpu.reg .r9, cpu.reg .r10, cpu.reg .r11,
    cpu.reg .r12, cpu.reg .lr, cpu.reg .r1, 0x1000000] ++
  startFrame (cpu.reg .r12) (cpu.reg .lr) (cpu.reg .r1)

/-- The registers that the function pushes for its caller. -/
def stackInitPushed : List Reg := [.r4, .r5, .r6, .r7, .lr]

/-- The words above `base` are the caller's, those below are set up; the function
uses five words of the main stack. -/
structure InitialisesStack (base : Cell) (before after : Cpu) : Prop where
  pointer : after.reg .r0 = address (base - 16)
  saved : ∀ register ∈ calleeSaved, after.reg register = before.reg register
  memory : after.memory = storeAll (storeAll before.memory (before.msp - 5)
    (stackInitPushed.map before.reg)) (base - 16) (startContext before)
  pc : after.pc = before.reg .lr &&& ~~~1
  psp : after.psp = base - 8
  msp : after.msp = before.msp
  ipsr : after.ipsr = before.ipsr

section StackInit

variable {cpu : Cpu} {base cell : Cell}

/-- The processor after the first half. -/
structure PreparesFrame (base : Cell) (before after : Cpu) : Prop where
  low : [Reg.r4, .r5, .r6, .r7].map after.reg =
    [before.reg .r12, before.reg .lr, before.reg .r1, 0x1000000]
  high : ∀ register ∈ [Reg.r8, .r9, .r10, .r11, .r12, .lr, .r1],
    after.reg register = before.reg register
  memory : after.memory = storeAll (storeAll before.memory (before.msp - 5)
    (stackInitPushed.map before.reg)) (base - 8)
      (startFrame (before.reg .r12) (before.reg .lr) (before.reg .r1))
  psp : after.psp = base - 8
  msp : after.msp = before.msp - 5
  ipsr : after.ipsr = before.ipsr
  spsel : after.spsel = before.spsel

theorem stackInitFrame_exec (main : cpu.OnMainStack) (pointer : cpu.reg .r0 = address base) :
    ∃ prepared, exec stackInitFrame cpu = some prepared ∧ PreparesFrame base cpu prepared := by
  have low : address base - 32 = address (base - 8) := (address_sub base 8).symm
  have top : address (base - 8 + 4 + 4) - 32 = address (base - 8) := by
    have whole : base - 8 + 4 + 4 = base := by
      bv_omega
    rw [whole, low]
  rw [stackInitFrame, exec_push, Cpu.sp_main main, Cpu.setSp_main main, exec_subs, exec_movs,
    exec_movs, exec_movs, exec_movs, @exec_stmia _ _ _ (base - 8)]
  · rw [exec_mov, exec_mov, exec_mov, exec_ldrLiteral, @exec_stmia _ _ _ (base - 8 + 4)]
    · rw [exec_subs, exec_msrPsp, exec_nil]
      refine ⟨_, rfl, ?_⟩
      constructor
      case low => simp
      case high => simp
      case memory =>
        have joined := @storeAll_append
          (storeAll cpu.memory (cpu.msp - 5) (stackInitPushed.map cpu.reg)) (base - 8) [0, 0, 0, 0]
          [cpu.reg .r12, cpu.reg .lr, cpu.reg .r1, 0x1000000]
        simpa [startFrame, stackInitPushed] using joined.symm
      case psp =>
        have lowered := congrArg (BitVec.extractLsb' 2 30) top
        rw [address_extract] at lowered
        simpa using lowered
      all_goals simp
    · simp
  · simpa [pointer] using low

section Context

variable {prepared saved : Cpu}

theorem PreparesFrame.context_eq (frame : PreparesFrame base cpu prepared) :
    context prepared = [cpu.reg .r8, cpu.reg .r9, cpu.reg .r10, cpu.reg .r11,
      cpu.reg .r12, cpu.reg .lr, cpu.reg .r1, 0x1000000] := by
  have low := frame.low
  simp only [List.map_cons, List.map_nil] at low
  simp only [context, contextRegs, List.map_cons, List.map_nil, low]
  simp [frame.high]

/-- The context goes right below the frame. -/
theorem PreparesFrame.saved_memory (frame : PreparesFrame base cpu prepared)
    (saves : SavesContext prepared saved) :
    saved.memory = storeAll (storeAll cpu.memory (cpu.msp - 5) (stackInitPushed.map cpu.reg))
      (base - 16) (startContext cpu) := by
  have lower : base - 8 - 8 = base - 16 := by
    bv_omega
  have upper : base - 8 = base - 16 + BitVec.ofNat 30 (context prepared).length := by
    rw [context_length]
    bv_omega
  rw [saves.memory, frame.psp, lower, frame.memory, upper, storeAll_storeAll, frame.context_eq]
  · rfl
  · show 8 + 8 ≤ 2 ^ 30
    decide

/-- What the function pushed is still there at its end. -/
theorem stackInitPushed_kept (apart : Disjoint (Span (cpu.msp - 5) 5) (Span (base - 16) 16))
    (memory : saved.memory = storeAll (storeAll cpu.memory (cpu.msp - 5)
      (stackInitPushed.map cpu.reg)) (base - 16) (startContext cpu)) :
    Holds saved.memory (cpu.msp - 5) (stackInitPushed.map cpu.reg) := by
  have stored : Holds (storeAll cpu.memory (cpu.msp - 5) (stackInitPushed.map cpu.reg))
      (cpu.msp - 5) (stackInitPushed.map cpu.reg) := holds_storeAll (show 5 ≤ 2 ^ 30 by decide)
  apply stored.congr (show (stackInitPushed.map cpu.reg).length = 5 from rfl)
  intro cell inside
  rw [memory]
  exact storeAll_outside (Set.disjoint_left.mp apart inside)

end Context

/-- Where the function pushes, and the words of the new task, are different. -/
theorem stackInit_exec (main : cpu.OnMainStack) (pointer : cpu.reg .r0 = address base)
    (apart : Disjoint (Span (cpu.msp - 5) 5) (Span (base - 16) 16))
    (code : (cpu.reg .lr).getLsbD 0 = true) (ordinary : (cpu.reg .lr).extractLsb' 28 4 ≠ 0xF) :
    ∃ final, exec stackInit cpu = some final ∧ InitialisesStack base cpu final := by
  obtain ⟨prepared, prepare, frame⟩ := stackInitFrame_exec main pointer
  obtain ⟨saved, save, saves⟩ := contextSave_exec prepared
  have memory := frame.saved_memory saves
  have main' : saved.OnMainStack := by
    rw [Cpu.OnMainStack, saves.ipsr, saves.spsel, frame.ipsr, frame.spsel]
    exact main
  have sp : saved.sp = cpu.msp - 5 := (Cpu.sp_main main').trans (saves.msp.trans frame.msp)
  have pushed := stackInitPushed_kept apart memory
  have split : Holds saved.memory (cpu.msp - 5) ([Reg.r4, .r5, .r6, .r7].map cpu.reg) ∧
      Holds saved.memory (cpu.msp - 5 + 4) [cpu.reg .lr] := holds_append.mp pushed
  have target : saved.memory (saved.sp + BitVec.ofNat 30 [Reg.r4, .r5, .r6, .r7].length) =
      cpu.reg .lr := by
    rw [sp]
    exact (holds_cons.mp split.2).1
  have loaded : loadAll saved.memory saved.sp [Reg.r4, .r5, .r6, .r7].length =
      [Reg.r4, .r5, .r6, .r7].map cpu.reg := by
    rw [sp]
    exact split.1
  refine ⟨_, by
    rw [stackInit, exec_append, exec_append, prepare, Option.bind_some, save, Option.bind_some,
      exec_popWithPc target code ordinary, loaded, Cpu.setSp_main main', sp], ?_⟩
  have high : ∀ register ∈ [Reg.r8, .r9, .r10, .r11], saved.reg register = cpu.reg register := by
    intro register member
    rw [saves.others register (by revert member; cases register <;> decide)]
    exact frame.high register (by revert member; cases register <;> decide)
  constructor
  case pointer =>
    have lower : prepared.psp - 8 = base - 16 := by
      rw [frame.psp]
      bv_omega
    have pointer := saves.pointer
    rw [lower] at pointer
    simpa [Cpu.setAll] using pointer
  case saved =>
    intro register isSaved
    by_cases low : register ∈ [Reg.r4, .r5, .r6, .r7]
    · revert low
      cases register <;> simp [Cpu.setAll]
    · have isHigh : register ∈ [Reg.r8, .r9, .r10, .r11] := by
        revert isSaved low
        cases register <;> decide
      have unset : (Cpu.setAll { saved with msp := cpu.msp - 5 + 4 + 1 } [Reg.r4, .r5, .r6, .r7]
          ([Reg.r4, .r5, .r6, .r7].map cpu.reg)).reg register = saved.reg register :=
        Cpu.setAll_other low
      exact unset.trans (high register isHigh)
  case memory => exact memory
  case pc => rfl
  case psp => exact saves.psp.trans frame.psp
  case msp =>
    have popped : cpu.msp - 5 + 4 + 1 = cpu.msp := by
      bv_omega
    exact popped
  case ipsr => exact saves.ipsr.trans frame.ipsr

/-- It comes back only from a stack base that is a multiple of four. -/
theorem stackInit_aligned {final : Cpu} (run : exec stackInit cpu = some final) :
    ∃ base, cpu.reg .r0 = address base := by
  rw [stackInit, exec_append, exec_append] at run
  obtain ⟨saved, run, -⟩ := Option.bind_eq_some_iff.mp run
  obtain ⟨prepared, run, -⟩ := Option.bind_eq_some_iff.mp run
  rw [stackInitFrame, exec_push, exec_subs, exec_movs, exec_movs, exec_movs, exec_movs] at run
  obtain ⟨cell, aligned⟩ := stmia_aligned run
  have lowered : cpu.reg .r0 - 32 = address cell := by
    rw [← aligned]
    simp [Cpu.setSp_reg]
  refine ⟨cell + 8, ?_⟩
  rw [address_add, ← lowered]
  exact (BitVec.sub_add_cancel _ _).symm

/-- What its caller sees of `gkrtos_internal_stack_init`; five words of the main
stack are its own. -/
structure PreparesStack (base : Cell) (before after : Cpu) : Prop where
  pointer : after.reg .r0 = internalStackInit (before.reg .r0)
  saved : ∀ register ∈ calleeSaved, after.reg register = before.reg register
  pc : after.pc = before.reg .lr &&& ~~~1
  msp : after.msp = before.msp
  ipsr : after.ipsr = before.ipsr
  memory : ∀ cell, cell ∉ Span (before.msp - 5) 5 → cell ∉ Span (base - 16) 16 →
    after.memory cell = before.memory cell

theorem InitialisesStack.prepares {before after : Cpu} (pointer : before.reg .r0 = address base)
    (initialises : InitialisesStack base before after) : PreparesStack base before after := by
  constructor
  case pointer =>
    have lower : address (base - 16) = address base - 64 := address_sub base 16
    rw [initialises.pointer, pointer, lower, internalStackInit]
  case saved => exact initialises.saved
  case pc => exact initialises.pc
  case msp => exact initialises.msp
  case ipsr => exact initialises.ipsr
  case memory =>
    intro cell above outside
    have notPushed : cell ∉ Span (before.msp - 5) (stackInitPushed.map before.reg).length := above
    have notStored : cell ∉ Span (base - 16) (startContext before).length := outside
    rw [initialises.memory, storeAll_outside notStored, storeAll_outside notPushed]

end StackInit

end Gkrtos
