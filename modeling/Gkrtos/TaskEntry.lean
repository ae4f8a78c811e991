import Gkrtos.StackInit

/-! How a new task starts. The first one is started by
`gkrtos_internal_begin_tasking`, which takes the frame off the stack in software;
all others are switched to by `isr_pendsv`, whose exception return leaves it to
the hardware. What `gkrtos_internal_stack_init` lays out looks the same to both. -/
namespace Gkrtos

open Armv6m

/-- `gkrtos_internal_begin_tasking` -/
def beginTasking : List Instr := contextRestore .r0 ++ [
  .movs .r0 2, -- Switch to psp stack
  .msrControl .r0,
  .isb,
  .pop [.r0, .r1, .r2, .r3, .r4, .r5, .r6, .r7], -- pop hardware saved registers
  .mov .r12 .r4,
  .mov .lr .r5,
  .bx .r6]

/-- The end of `isr_pendsv`, with its exception return. -/
def isrPendsvReturn : List Instr := isrPendsvExit ++ [.popPc]

/-- A task with this stack base starts at `function`: its registers are those of
`creator` where they are not zero. The lowest bit of a code pointer is not part of
the address. -/
structure StartsTask (base : Cell) (function : Value) (creator started : Cpu) : Prop where
  pc : started.pc &&& ~~~1 = function &&& ~~~1
  thread : started.ipsr = 0
  process : started.spsel = true
  psp : started.psp = base
  arguments : ∀ register ∈ [Reg.r0, .r1, .r2, .r3], started.reg register = 0
  others : ∀ register ∈ [Reg.r8, .r9, .r10, .r11, .r12, .lr],
    started.reg register = creator.reg register

/-- The pointer to the context of a new task, which nobody has written to. -/
structure LaidOut (base : Cell) (creator cpu : Cpu) : Prop where
  pointer : cpu.reg .r0 = address (base - 16)
  words : Holds cpu.memory (base - 16) (startContext creator)

section TaskEntry

variable {base : Cell} {creator cpu : Cpu}

theorem startFrame_eq (r12 lr function : Value) : startFrame r12 lr function =
    [0, 0, 0, 0, r12, lr, function, packXpsr 0 false 0] := by
  have xpsr : packXpsr 0 false 0 = 0x1000000 := by decide
  rw [startFrame, xpsr]

/-- After `CONTEXT_RESTORE`, which both ways begin with. -/
structure Restored (base : Cell) (creator before restored : Cpu) : Prop where
  high : ∀ register ∈ [Reg.r8, .r9, .r10, .r11], restored.reg register = creator.reg register
  frame : Holds restored.memory restored.psp
    (startFrame (creator.reg .r12) (creator.reg .lr) (creator.reg .r1))
  psp : restored.psp = base - 8
  msp : restored.msp = before.msp
  ipsr : restored.ipsr = before.ipsr
  memory : restored.memory = before.memory

theorem contextRestore_started (laidOut : LaidOut base creator cpu) :
    ∃ restored, exec (contextRestore .r0) cpu = some restored ∧
      Restored base creator cpu restored := by
  obtain ⟨restored, run, restores⟩ := contextRestore_exec laidOut.pointer
  obtain ⟨lower, upper⟩ := holds_append.mp laidOut.words
  have psp : restored.psp = base - 8 := by
    rw [restores.psp]
    bv_omega
  refine ⟨restored, run, ?_⟩
  constructor
  case high =>
    have loaded := restores.loads lower rfl
    simp only [context, contextRegs, List.map_cons, List.cons.injEq] at loaded
    obtain ⟨eighth, ninth, tenth, eleventh, -⟩ := loaded
    intro register isHigh
    simp only [List.mem_cons, List.not_mem_nil, or_false] at isHigh
    obtain (rfl | rfl | rfl | rfl) := isHigh
    · exact eighth
    · exact ninth
    · exact tenth
    · exact eleventh
  case frame =>
    rw [restores.memory, restores.psp]
    exact upper
  case psp => exact psp
  case msp => exact restores.msp
  case ipsr => exact restores.ipsr
  case memory => exact restores.memory

/-- The first task is started in Thread mode on the main stack. -/
theorem beginTasking_starts (laidOut : LaidOut base creator cpu) (thread : cpu.ipsr = 0)
    (code : (creator.reg .r1).getLsbD 0 = true) :
    ∃ started, exec beginTasking cpu = some started ∧
      StartsTask base (creator.reg .r1) creator started := by
  obtain ⟨restored, run, restores⟩ := contextRestore_started laidOut
  let control : Cpu := { restored.set .r0 2 with flags := moveFlags restored.flags 2 }.advance 2
  let process : Cpu := ({ control with spsel := true }.advance 4).advance 4
  have threadStill : control.ipsr = 0 := restores.ipsr.trans thread
  have selects : (control.reg .r0).getLsbD 1 = true := by
    simp [control]
  have inThread : process.ipsr = 0 := threadStill
  have selected : process.spsel = true := rfl
  have sp : process.sp = base - 8 := (Cpu.sp_thread inThread selected).trans restores.psp
  have loaded : loadAll process.memory (base - 8) 8 =
      startFrame (creator.reg .r12) (creator.reg .lr) (creator.reg .r1) := by
    rw [← restores.psp]
    exact restores.frame
  let popped : Cpu := ({ process with psp := base - 8 + 8 }.setAll
    [.r0, .r1, .r2, .r3, .r4, .r5, .r6, .r7]
    (startFrame (creator.reg .r12) (creator.reg .lr) (creator.reg .r1))).advance 2
  let final : Cpu :=
    (((popped.set .r12 (popped.reg .r4)).advance 2).set .lr (popped.reg .r5)).advance 2
  have pop : exec beginTasking cpu = exec [.bx .r6] final := by
    rw [beginTasking, exec_append, run, Option.bind_some, exec_movs, exec_msrControl threadStill,
      selects, exec_isb, exec_pop]
    show exec _ (((process.setSp (process.sp + BitVec.ofNat 30 8)).setAll _
      (loadAll process.memory process.sp 8)).advance 2) = _
    rw [sp, loaded, Cpu.setSp_thread inThread selected, exec_mov, exec_mov]
    rfl
  have target : final.reg .r6 = creator.reg .r1 := by
    simp [final, popped, startFrame, Cpu.setAll]
  have branch : exec [.bx .r6] final = some { final with pc := final.reg .r6 &&& ~~~1 } := by
    have inThread : final.ipsr = 0 := threadStill
    apply exec_bx_thread inThread
    rw [target]
    exact code
  refine ⟨_, pop.trans branch, ?_⟩
  constructor
  case pc =>
    show (final.reg .r6 &&& ~~~1) &&& ~~~1 = _
    rw [target, BitVec.and_assoc, BitVec.and_self]
  case thread => exact threadStill
  case process => rfl
  case psp => exact BitVec.sub_add_cancel _ _
  case arguments => simp [final, popped, startFrame, Cpu.setAll]
  case others =>
    intro register isOther
    by_cases isHigh : register ∈ [Reg.r8, .r9, .r10, .r11]
    · rw [← restores.high register isHigh]
      revert isHigh
      cases register <;> simp [final, popped, process, control, startFrame, Cpu.setAll]
    · have isStacked : register = .r12 ∨ register = .lr := by
        cases register <;> revert isOther isHigh <;> decide
      obtain (rfl | rfl) := isStacked
      · simp [final, popped, startFrame, Cpu.setAll]
      · simp [final, popped, startFrame, Cpu.setAll]

/-- The others are started by an exception return to Thread mode. -/
theorem isrPendsvReturn_starts (laidOut : LaidOut base creator cpu) (handler : cpu.ipsr ≠ 0)
    (link : cpu.memory cpu.msp = 0xFFFFFFFD) :
    ∃ started, exec isrPendsvReturn cpu = some started ∧
      StartsTask base (creator.reg .r1) creator started := by
  obtain ⟨restored, run, restores⟩ := contextRestore_started laidOut
  have frame := restores.frame
  rw [startFrame_eq] at frame
  have barrier : exec isrPendsvReturn cpu = exec [.popPc] (restored.advance 4) := by
    rw [isrPendsvReturn, isrPendsvExit, exec_append, exec_append, run, Option.bind_some, exec_dsb,
      exec_nil, Option.bind_some]
  have inHandler : (restored.advance 4).ipsr ≠ 0 := by
    show restored.ipsr ≠ 0
    rw [restores.ipsr]
    exact handler
  have linked : (restored.advance 4).memory (restored.advance 4).msp = 0xFFFFFFFD := by
    show restored.memory restored.msp = 0xFFFFFFFD
    rw [restores.memory, restores.msp]
    exact link
  refine ⟨_, barrier.trans (exec_popPc_thread inHandler linked frame), ?_⟩
  constructor
  case psp =>
    show restored.psp + 8 = base
    rw [restores.psp]
    exact BitVec.sub_add_cancel _ _
  case arguments => simp [Cpu.setAll]
  case others =>
    intro register isOther
    by_cases isHigh : register ∈ [Reg.r8, .r9, .r10, .r11]
    · have unset : register ∉ [Reg.r0, .r1, .r2, .r3, .r12, .lr] := by
        cases register <;> revert isHigh <;> decide
      have kept : ((restored.advance 4).setAll [.r0, .r1, .r2, .r3, .r12, .lr]
          [0, 0, 0, 0, creator.reg .r12, creator.reg .lr]).reg register = restored.reg register :=
        Cpu.setAll_other unset
      exact kept.trans (restores.high register isHigh)
    · have isStacked : register = .r12 ∨ register = .lr := by
        cases register <;> revert isOther isHigh <;> decide
      obtain (rfl | rfl) := isStacked
      · simp [Cpu.setAll]
      · simp [Cpu.setAll]
  all_goals rfl

/-- The task is started with the pointer from `laid`, and the words below its
stack base are still what they were there. -/
structure HandedOver (base : Cell) (laid cpu : Cpu) : Prop where
  pointer : cpu.reg .r0 = laid.reg .r0
  words : ∀ cell ∈ Span (base - 16) 16, cpu.memory cell = laid.memory cell

theorem HandedOver.laidOut {laid : Cpu} (handed : HandedOver base laid cpu)
    (initialises : InitialisesStack base creator laid) : LaidOut base creator cpu := by
  constructor
  case pointer => exact handed.pointer.trans initialises.pointer
  case words =>
    have stored : Holds laid.memory (base - 16) (startContext creator) := by
      rw [initialises.memory]
      exact holds_storeAll (show 16 ≤ 2 ^ 30 by decide)
    exact stored.congr rfl handed.words

/-- Whatever registers and memory are when the task is started, one way or the
other, it begins in the same state. -/
theorem both_starts_agree (main : creator.OnMainStack) (pointer : creator.reg .r0 = address base)
    (apart : Disjoint (Span (creator.msp - 5) 5) (Span (base - 16) 16))
    (returns : (creator.reg .lr).getLsbD 0 = true)
    (ordinary : (creator.reg .lr).extractLsb' 28 4 ≠ 0xF)
    (code : (creator.reg .r1).getLsbD 0 = true) :
    ∃ laid, exec stackInit creator = some laid ∧ PreparesStack base creator laid ∧
      ∀ begun switched, HandedOver base laid begun → HandedOver base laid switched →
        begun.ipsr = 0 → switched.ipsr ≠ 0 → switched.memory switched.msp = 0xFFFFFFFD →
        ∃ first second, exec beginTasking begun = some first ∧
          exec isrPendsvReturn switched = some second ∧
          StartsTask base (creator.reg .r1) creator first ∧
          StartsTask base (creator.reg .r1) creator second ∧
          ∀ register ∈ [Reg.r0, .r1, .r2, .r3, .r8, .r9, .r10, .r11, .r12, .lr],
            first.reg register = second.reg register := by
  obtain ⟨laid, run, initialises⟩ := stackInit_exec main pointer apart returns ordinary
  refine ⟨laid, run, initialises.prepares pointer, ?_⟩
  intro begun switched handed handed' thread handler link
  obtain ⟨first, begin, starts⟩ := beginTasking_starts (handed.laidOut initialises) thread code
  obtain ⟨second, switch, starts'⟩ :=
    isrPendsvReturn_starts (handed'.laidOut initialises) handler link
  refine ⟨first, second, begin, switch, starts, starts', ?_⟩
  intro register either
  by_cases argument : register ∈ [Reg.r0, .r1, .r2, .r3]
  · rw [starts.arguments register argument, starts'.arguments register argument]
  · have other : register ∈ [Reg.r8, .r9, .r10, .r11, .r12, .lr] := by
      cases register <;> revert either argument <;> decide
    rw [starts.others register other, starts'.others register other]

/-- The kernel, still on the main stack, creates a task that starts at
`0x10000600`. -/
private def creatingKernel : Cpu where
  reg register :=
    if register = .r0 then 0x20001000 else if register = .r1 then 0x10000601
    else if register = .lr then 0x10000405 else 7
  pc := 0x10000380
  flags := 0
  ipsr := 0
  msp := 0x8010000
  psp := 0
  spsel := false
  memory := fun _ => 0

/-- `isr_pendsv` with the same memory. -/
private def switching (laid : Cpu) : Cpu :=
  { laid with ipsr := 14, memory := Function.update laid.memory laid.msp 0xFFFFFFFD }

theorem both_starts_agree_example : ∃ laid first second,
    exec stackInit creatingKernel = some laid ∧ exec beginTasking laid = some first ∧
      exec isrPendsvReturn (switching laid) = some second ∧
      StartsTask 0x8000400 0x10000601 creatingKernel first ∧
      StartsTask 0x8000400 0x10000601 creatingKernel second := by
  have apart : Disjoint (Span (creatingKernel.msp - 5) 5) (Span (0x8000400 - 16) 16) := by
    apply Set.disjoint_left.mpr
    intro cell pushed stored
    have main : (cell - (0x8010000 - 5)).toNat < 5 := pushed
    have task : (cell - (0x8000400 - 16)).toNat < 16 := stored
    bv_omega
  have main : creatingKernel.OnMainStack := fun both => absurd both.2 (by decide)
  have pointer : creatingKernel.reg .r0 = address 0x8000400 := by decide
  obtain ⟨laid, run, prepares, agree⟩ := both_starts_agree main pointer apart (by decide) (by decide)
    (by decide)
  have msp : laid.msp = 0x8010000 := prepares.msp
  have untouched : ∀ cell ∈ Span (0x8000400 - 16) 16,
      (switching laid).memory cell = laid.memory cell := by
    intro cell inside
    apply Function.update_of_ne
    have near : (cell - (0x8000400 - 16)).toNat < 16 := inside
    rw [msp]
    rintro rfl
    exact absurd near (by decide)
  have thread : laid.ipsr = 0 := prepares.ipsr
  have handler : (switching laid).ipsr ≠ 0 := show (14 : BitVec 6) ≠ 0 by decide
  have link : (switching laid).memory (switching laid).msp = 0xFFFFFFFD :=
    Function.update_self laid.msp _ _
  obtain ⟨first, second, begin, switch, starts, starts', -⟩ :=
    agree laid (switching laid) ⟨rfl, fun cell _ => rfl⟩ ⟨rfl, untouched⟩ thread handler link
  exact ⟨laid, first, second, run, begin, switch, starts, starts'⟩

end TaskEntry

end Gkrtos
