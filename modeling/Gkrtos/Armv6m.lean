import Mathlib.Data.BitVec
import Mathlib.Logic.Function.Basic

/-! A processor of the ARMv6-M architecture, as far as code that saves and
restores contexts needs it: the core registers, the two stack pointers, word
accesses to memory, and exception entry and return. The two lowest bits of a
stack pointer are always zero, so stack pointers and memory are indexed by
words. An access to an address that is no multiple of four has no next state. -/
namespace Gkrtos.Armv6m

/-- The contents of a register or of a word of memory. -/
abbrev Value := BitVec 32

/-- A word of memory: an address without its two lowest bits. -/
abbrev Cell := BitVec 30

abbrev Memory := Cell → Value

def address (cell : Cell) : Value := cell ++ 0#2

/-- The word at an address. -/
def cellAt (value : Value) : Option Cell :=
  if value.extractLsb' 0 2 = 0 then some (value.extractLsb' 2 30) else none

theorem address_toNat (cell : Cell) : (address cell).toNat = cell.toNat * 4 := by
  have appended : (address cell).toNat = cell.toNat <<< 2 ||| 0 := BitVec.toNat_append cell 0#2
  rw [appended, Nat.or_zero, Nat.shiftLeft_eq]

@[simp] theorem address_extract (cell : Cell) : (address cell).extractLsb' 2 30 = cell := by
  apply BitVec.eq_of_toNat_eq
  rw [BitVec.extractLsb'_toNat, address_toNat, Nat.shiftRight_eq_div_pow]
  omega

@[simp] theorem cellAt_address (cell : Cell) : cellAt (address cell) = some cell := by
  have aligned : (address cell).extractLsb' 0 2 = 0 := by
    apply BitVec.eq_of_toNat_eq
    rw [BitVec.extractLsb'_toNat, address_toNat]
    simp
  rw [cellAt, if_pos aligned, address_extract]

/-- A word is only found at its own address. -/
theorem cellAt_eq_some {value : Value} {cell : Cell} (found : cellAt value = some cell) :
    value = address cell := by
  unfold cellAt at found
  by_cases aligned : value.extractLsb' 0 2 = 0
  · rw [if_pos aligned] at found
    rw [← Option.some.inj found]
    have low : (value.extractLsb' 0 2).toNat = 0 := congrArg BitVec.toNat aligned
    apply BitVec.eq_of_toNat_eq
    rw [BitVec.extractLsb'_toNat] at low
    rw [address_toNat, BitVec.extractLsb'_toNat, Nat.shiftRight_eq_div_pow]
    rw [Nat.shiftRight_zero] at low
    omega
  · rw [if_neg aligned] at found
    cases found

theorem address_injective {cell other : Cell} (same : address cell = address other) :
    cell = other := by
  rw [← address_extract cell, same, address_extract]

theorem address_sub (cell offset : Cell) :
    address (cell - offset) = address cell - address offset := by
  apply BitVec.eq_of_toNat_eq
  rw [BitVec.toNat_sub, address_toNat, BitVec.toNat_sub, address_toNat, address_toNat]
  omega

theorem address_add (cell offset : Cell) :
    address (cell + offset) = address cell + address offset := by
  apply BitVec.eq_of_toNat_eq
  rw [BitVec.toNat_add, address_toNat, BitVec.toNat_add, address_toNat, address_toNat]
  omega

/-! ## The lowest bit -/

section LowestBit

variable {w : Nat} (x : BitVec w)

theorem clear_toNat : (x &&& ~~~1#w).toNat = x.toNat / 2 * 2 := by
  have shifted : x &&& ~~~1#w = (x >>> 1) <<< 1 := by
    ext (_ | i) bound
    · simp
    · simp [Nat.add_comm 1 i, BitVec.getLsbD_eq_getElem bound]
  rw [shifted, BitVec.toNat_shiftLeft, BitVec.toNat_ushiftRight, Nat.shiftLeft_eq,
    Nat.shiftRight_eq_div_pow, Nat.mod_eq_of_lt]
  have bound := x.isLt
  omega

theorem setLowest_toNat (positive : 0 < w) : (x ||| 1#w).toNat = x.toNat / 2 * 2 + 1 := by
  have joined : x ||| 1#w = (x &&& ~~~1#w) + 1#w := by
    rw [BitVec.add_eq_or_of_and_eq_zero]
    · ext (_ | i) bound <;> simp
    · ext (_ | i) bound <;> simp
  have even : 2 ^ w % 2 = 0 := by
    rw [← Nat.succ_pred_eq_of_pos positive, Nat.pow_succ]
    omega
  have bound := x.isLt
  rw [joined, BitVec.toNat_add, clear_toNat, BitVec.toNat_ofNat, Nat.add_mod_mod, Nat.mod_eq_of_lt]
  omega

end LowestBit

/-- A return address leads back to the code address it was made from. -/
theorem setLowest_clear {value : Value} (even : value.toNat % 2 = 0) :
    (value ||| 1) &&& ~~~1 = value := by
  apply BitVec.eq_of_toNat_eq
  have cleared : ((value ||| 1#32) &&& ~~~1#32).toNat = (value ||| 1#32).toNat / 2 * 2 := clear_toNat _
  have marked : (value ||| 1#32).toNat = value.toNat / 2 * 2 + 1 := setLowest_toNat value (by decide)
  show ((value ||| 1#32) &&& ~~~1#32).toNat = value.toNat
  omega

theorem lowest_testBit (cell : Cell) : cell.getLsbD 0 = decide (cell.toNat % 2 = 1) := by
  rw [BitVec.getLsbD, Nat.testBit_zero]

/-! ## Consecutive words -/

/-- Stores the values from a word upwards. -/
def storeAll (memory : Memory) (cell : Cell) : List Value → Memory
  | [] => memory
  | value :: rest => storeAll (Function.update memory cell value) (cell + 1) rest

/-- Loads a number of values from a word upwards. -/
def loadAll (memory : Memory) (cell : Cell) : Nat → List Value
  | 0 => []
  | count + 1 => memory cell :: loadAll memory (cell + 1) count

/-- The words from `cell` upwards. -/
def Span (cell : Cell) (count : Nat) : Set Cell := {other | (other - cell).toNat < count}

/-- The values stand in memory from `cell` upwards. -/
def Holds (memory : Memory) (cell : Cell) (values : List Value) : Prop :=
  loadAll memory cell values.length = values

section Memory

variable {memory memory' : Memory} {cell other : Cell} {count : Nat} {values values' : List Value}

@[simp] theorem loadAll_length (memory : Memory) (cell : Cell) (count : Nat) :
    (loadAll memory cell count).length = count := by
  induction count generalizing cell with
  | zero => rfl
  | succ count ih => rw [loadAll, List.length_cons, ih]

theorem mem_span_of_succ (near : other ∈ Span (cell + 1) count) : other ∈ Span cell (count + 1) := by
  simp only [Span, Set.mem_ofPred_eq] at near ⊢
  bv_omega

theorem mem_span_self : cell ∈ Span cell (count + 1) := by
  simp only [Span, Set.mem_ofPred_eq]
  bv_omega

theorem not_mem_span_succ (outside : other ∉ Span cell (count + 1)) :
    other ≠ cell ∧ other ∉ Span (cell + 1) count := by
  constructor
  · rintro rfl
    exact outside mem_span_self
  · exact fun near => outside (mem_span_of_succ near)

/-- Words outside the ones stored to keep their values. -/
theorem storeAll_outside (outside : other ∉ Span cell values.length) :
    storeAll memory cell values other = memory other := by
  induction values generalizing memory cell with
  | nil => rfl
  | cons value rest ih =>
    obtain ⟨different, outside⟩ := not_mem_span_succ outside
    rw [storeAll, ih outside, Function.update_of_ne different]

theorem loadAll_congr (same : ∀ other ∈ Span cell count, memory' other = memory other) :
    loadAll memory' cell count = loadAll memory cell count := by
  induction count generalizing cell with
  | zero => rfl
  | succ count ih =>
    rw [loadAll, loadAll, same cell mem_span_self]
    rw [ih fun other near => same other (mem_span_of_succ near)]

/-- What was stored can be loaded. -/
theorem holds_storeAll (fits : values.length ≤ 2 ^ 30) :
    Holds (storeAll memory cell values) cell values := by
  induction values generalizing memory cell with
  | nil => rfl
  | cons value rest ih =>
    have apart : cell ∉ Span (cell + 1) rest.length := by
      rw [List.length_cons] at fits
      simp only [Span, Set.mem_ofPred_eq]
      bv_omega
    have first : storeAll (Function.update memory cell value) (cell + 1) rest cell = value := by
      rw [storeAll_outside apart, Function.update_self]
    rw [List.length_cons] at fits
    rw [Holds, List.length_cons, loadAll, storeAll, first, ih (by omega)]

theorem Holds.congr (holds : Holds memory cell values) (size : values.length = count)
    (same : ∀ other ∈ Span cell count, memory' other = memory other) :
    Holds memory' cell values := by
  subst size
  rw [Holds, loadAll_congr same]
  exact holds

theorem holds_cons {value : Value} : Holds memory cell (value :: values) ↔
    memory cell = value ∧ Holds memory (cell + 1) values := by
  simp [Holds, loadAll]

/-- A store to the first word. -/
theorem Holds.update {value : Value} (holds : Holds memory cell (value :: values))
    (fits : values.length < 2 ^ 30) (value' : Value) :
    Holds (Function.update memory cell value') cell (value' :: values) := by
  obtain ⟨-, tail⟩ := holds_cons.mp holds
  apply holds_cons.mpr
  constructor
  · exact Function.update_self _ _ _
  · apply tail.congr rfl
    intro other near
    have different : other ≠ cell := by
      rintro rfl
      simp only [Span, Set.mem_ofPred_eq] at near
      bv_omega
    exact Function.update_of_ne different _ _

theorem holds_append : Holds memory cell (values ++ values') ↔
    Holds memory cell values ∧ Holds memory (cell + BitVec.ofNat 30 values.length) values' := by
  induction values generalizing cell with
  | nil => simp [Holds, loadAll]
  | cons value rest ih =>
    have shifted : cell + BitVec.ofNat 30 (rest.length + 1) =
        cell + 1 + BitVec.ofNat 30 rest.length := by
      bv_omega
    have tail := @ih (cell + 1)
    simp only [Holds, List.cons_append, List.length_cons, loadAll, List.cons.injEq] at tail ⊢
    rw [tail, shifted]
    tauto

theorem update_storeAll {value : Value} (outside : cell ∉ Span other values.length) :
    Function.update (storeAll memory other values) cell value =
      storeAll (Function.update memory cell value) other values := by
  induction values generalizing memory other with
  | nil => rfl
  | cons first rest ih =>
    obtain ⟨different, outside⟩ := not_mem_span_succ outside
    rw [storeAll, storeAll, ih outside, Function.update_comm different]

/-- Two stores next to each other, the lower one first, are one store. -/
theorem storeAll_append : storeAll memory cell (values ++ values') =
    storeAll (storeAll memory cell values) (cell + BitVec.ofNat 30 values.length) values' := by
  induction values generalizing memory cell with
  | nil => simp [storeAll]
  | cons value rest ih =>
    have shifted : cell + BitVec.ofNat 30 (rest.length + 1) =
        cell + 1 + BitVec.ofNat 30 rest.length := by
      bv_omega
    rw [List.cons_append, storeAll, ih, List.length_cons, shifted, storeAll]

/-- And with the upper one first. -/
theorem storeAll_storeAll (fits : values.length + values'.length ≤ 2 ^ 30) :
    storeAll (storeAll memory (cell + BitVec.ofNat 30 values.length) values') cell values =
      storeAll memory cell (values ++ values') := by
  induction values generalizing memory cell with
  | nil => simp [storeAll]
  | cons value rest ih =>
    rw [List.length_cons] at fits
    have shifted : cell + BitVec.ofNat 30 (rest.length + 1) =
        cell + 1 + BitVec.ofNat 30 rest.length := by
      bv_omega
    have apart : cell ∉ Span (cell + 1 + BitVec.ofNat 30 rest.length) values'.length := by
      simp only [Span, Set.mem_ofPred_eq]
      bv_omega
    rw [List.length_cons, shifted, storeAll, update_storeAll apart, ih (by omega)]
    rfl

end Memory

/-! ## Instructions -/

inductive Reg where
  | r0 | r1 | r2 | r3 | r4 | r5 | r6 | r7 | r8 | r9 | r10 | r11 | r12 | lr
  deriving DecidableEq, Repr

/-- The processor state. The T bit of EPSR is not part of it: instructions are
executed in Thumb state only. -/
structure Cpu where
  reg : Reg → Value
  pc : Value
  /-- N, Z, C and V of APSR. -/
  flags : BitVec 4
  /-- The number of the exception that is handled, zero in Thread mode. -/
  ipsr : BitVec 6
  msp : Cell
  psp : Cell
  /-- CONTROL.SPSEL: Thread mode uses PSP. -/
  spsel : Bool
  memory : Memory

def Cpu.set (cpu : Cpu) (register : Reg) (value : Value) : Cpu :=
  { cpu with reg := Function.update cpu.reg register value }

/-- The values go to these registers in turn. -/
def Cpu.setAll (cpu : Cpu) : List Reg → List Value → Cpu
  | register :: registers, value :: values => (cpu.set register value).setAll registers values
  | _, _ => cpu

/-- The stack pointer in use. -/
def Cpu.sp (cpu : Cpu) : Cell := if cpu.ipsr = 0 ∧ cpu.spsel then cpu.psp else cpu.msp

def Cpu.setSp (cpu : Cpu) (sp : Cell) : Cpu :=
  if cpu.ipsr = 0 ∧ cpu.spsel then { cpu with psp := sp } else { cpu with msp := sp }

/-- The main stack is the one in use. -/
def Cpu.OnMainStack (cpu : Cpu) : Prop := ¬ (cpu.ipsr = 0 ∧ cpu.spsel)

theorem Cpu.sp_main {cpu : Cpu} (main : cpu.OnMainStack) : cpu.sp = cpu.msp := if_neg main

theorem Cpu.setSp_main {cpu : Cpu} (main : cpu.OnMainStack) (sp : Cell) :
    cpu.setSp sp = { cpu with msp := sp } :=
  if_neg main

/-- Handler mode uses it. -/
theorem Cpu.onMainStack {cpu : Cpu} (handler : cpu.ipsr ≠ 0) : cpu.OnMainStack :=
  fun thread => handler thread.1

theorem Cpu.sp_handler {cpu : Cpu} (handler : cpu.ipsr ≠ 0) : cpu.sp = cpu.msp :=
  Cpu.sp_main (Cpu.onMainStack handler)

theorem Cpu.setSp_handler {cpu : Cpu} (handler : cpu.ipsr ≠ 0) (sp : Cell) :
    cpu.setSp sp = { cpu with msp := sp } :=
  Cpu.setSp_main (Cpu.onMainStack handler) sp

/-- A task uses the process stack. -/
theorem Cpu.sp_thread {cpu : Cpu} (thread : cpu.ipsr = 0) (process : cpu.spsel = true) :
    cpu.sp = cpu.psp :=
  if_pos ⟨thread, process⟩

theorem Cpu.setSp_thread {cpu : Cpu} (thread : cpu.ipsr = 0) (process : cpu.spsel = true)
    (sp : Cell) : cpu.setSp sp = { cpu with psp := sp } :=
  if_pos ⟨thread, process⟩

/-! ### Exceptions -/

/-- xPSR as it is stacked: the flags, the T bit, whether the stack pointer was
moved by one more word to align the frame, and the exception number. -/
def packXpsr (flags : BitVec 4) (padded : Bool) (ipsr : BitVec 6) : Value :=
  BitVec.ofNat 32 (flags.toNat * 2 ^ 28 + 2 ^ 24 + padded.toNat * 2 ^ 9 + ipsr.toNat)

/-- The registers stacked by hardware, with the address to go back to. -/
def Cpu.frame (cpu : Cpu) (returnAddress : Value) : List Value :=
  [cpu.reg .r0, cpu.reg .r1, cpu.reg .r2, cpu.reg .r3, cpu.reg .r12, cpu.reg .lr, returnAddress,
    packXpsr cpu.flags (cpu.sp.getLsbD 0) cpu.ipsr]

/-- Where the frame goes: eight words down, at a multiple of eight bytes. -/
def frameBelow (sp : Cell) : Cell := (sp - 8) &&& ~~~1

/-- EXC_RETURN, by the mode and stack an exception interrupts. -/
def Cpu.excReturn (cpu : Cpu) : Value :=
  if cpu.ipsr ≠ 0 then 0xFFFFFFF1 else if cpu.spsel then 0xFFFFFFFD else 0xFFFFFFF9

/-- Exception entry. The registers that were stacked are left with unknown
contents. -/
def Cpu.enter (cpu : Cpu) (number : BitVec 6) (vector returnAddress : Value)
    (unknown : Reg → Value) : Cpu :=
  let stacked := cpu.setSp (frameBelow cpu.sp)
  { stacked with
    reg := fun register =>
      if register = .lr then cpu.excReturn
      else if register ∈ [Reg.r0, .r1, .r2, .r3, .r12] then unknown register
      else cpu.reg register
    pc := vector
    ipsr := number
    spsel := false
    memory := storeAll cpu.memory (frameBelow cpu.sp) (cpu.frame returnAddress) }

/-- The frame at `sp` is taken off the stack. A stacked xPSR without the T bit
has no next state. -/
def Cpu.unstack (cpu : Cpu) : Option Cpu :=
  match loadAll cpu.memory cpu.sp 8 with
  | [r0, r1, r2, r3, r12, lr, pc, xpsr] =>
    if xpsr.getLsbD 24 then
      let sp := if xpsr.getLsbD 9 then (cpu.sp + 8) ||| 1 else cpu.sp + 8
      let unstacked := cpu.setAll [.r0, .r1, .r2, .r3, .r12, .lr] [r0, r1, r2, r3, r12, lr]
      some { unstacked.setSp sp with
        pc, flags := xpsr.extractLsb' 28 4, ipsr := xpsr.extractLsb' 0 6 }
    else none
  | _ => none

/-- Exception return, to Handler mode or to Thread mode on either stack. -/
def Cpu.exceptionReturn (cpu : Cpu) (excReturn : Value) : Option Cpu :=
  if excReturn = 0xFFFFFFF1 then { cpu with spsel := false }.unstack
  else if excReturn = 0xFFFFFFF9 then { cpu with ipsr := 0, spsel := false }.unstack
  else if excReturn = 0xFFFFFFFD then { cpu with ipsr := 0, spsel := true }.unstack
  else none

/-- A branch to a code address, which has its lowest bit set, or in Handler mode
to EXC_RETURN. -/
def Cpu.branchExchange (cpu : Cpu) (target : Value) : Option Cpu :=
  if cpu.ipsr ≠ 0 ∧ target.extractLsb' 28 4 = 0xF then cpu.exceptionReturn target
  else if target.getLsbD 0 then some { cpu with pc := target &&& ~~~1 }
  else none

section Xpsr

variable (flags : BitVec 4) (padded : Bool) (ipsr : BitVec 6)

theorem packXpsr_toNat : (packXpsr flags padded ipsr).toNat =
    flags.toNat * 2 ^ 28 + 2 ^ 24 + padded.toNat * 2 ^ 9 + ipsr.toNat := by
  have small : padded.toNat ≤ 1 := Bool.toNat_le padded
  rw [packXpsr, BitVec.toNat_ofNat]
  omega

theorem packXpsr_thumb : (packXpsr flags padded ipsr).getLsbD 24 = true := by
  have small : padded.toNat ≤ 1 := Bool.toNat_le padded
  rw [BitVec.getLsbD, packXpsr_toNat, Nat.testBit_eq_decide_div_mod_eq]
  apply decide_eq_true
  omega

theorem packXpsr_padded : (packXpsr flags padded ipsr).getLsbD 9 = padded := by
  rw [BitVec.getLsbD, packXpsr_toNat, Nat.testBit_eq_decide_div_mod_eq]
  cases padded with
  | false =>
    apply decide_eq_false
    rw [Bool.toNat_false]
    omega
  | true =>
    apply decide_eq_true
    rw [Bool.toNat_true]
    omega

theorem packXpsr_flags : (packXpsr flags padded ipsr).extractLsb' 28 4 = flags := by
  have small : padded.toNat ≤ 1 := Bool.toNat_le padded
  apply BitVec.eq_of_toNat_eq
  rw [BitVec.extractLsb'_toNat, packXpsr_toNat, Nat.shiftRight_eq_div_pow]
  omega

theorem packXpsr_ipsr : (packXpsr flags padded ipsr).extractLsb' 0 6 = ipsr := by
  apply BitVec.eq_of_toNat_eq
  rw [BitVec.extractLsb'_toNat, packXpsr_toNat, Nat.shiftRight_eq_div_pow]
  omega

end Xpsr

/-- The frame starts nine words down where eight would leave it unaligned. -/
theorem frameBelow_eq (sp : Cell) :
    frameBelow sp = if sp.getLsbD 0 then sp - 9 else sp - 8 := by
  have aligned : (frameBelow sp).toNat = (sp - 8).toNat / 2 * 2 := clear_toNat _
  rw [lowest_testBit]
  simp only [decide_eq_true_eq]
  split <;> bv_omega

/-- Taking the frame off leads back to where it was put on. -/
theorem frameBelow_unstacked (sp : Cell) :
    (if sp.getLsbD 0 then (frameBelow sp + 8) ||| 1 else frameBelow sp + 8) = sp := by
  have marked : ((frameBelow sp + 8) ||| 1).toNat = (frameBelow sp + 8).toNat / 2 * 2 + 1 :=
    setLowest_toNat _ (by decide)
  have placed := frameBelow_eq sp
  rw [lowest_testBit] at placed ⊢
  simp only [decide_eq_true_eq] at placed ⊢
  by_cases odd : sp.toNat % 2 = 1
  · rw [if_pos odd] at placed ⊢
    bv_omega
  · rw [if_neg odd] at placed ⊢
    bv_omega
/-! ### One instruction -/

inductive Instr where
  | mov (rd rm : Reg)
  | movs (rd : Reg) (imm : Value)
  | subs (rd rn : Reg) (imm : Value)
  /-- `ldr rd, =value` -/
  | ldrLiteral (rd : Reg) (value : Value)
  | ldr (rt rn : Reg) (imm : Value)
  | str (rt rn : Reg) (imm : Value)
  /-- `stmia rn!, {registers}` -/
  | stmia (rn : Reg) (registers : List Reg)
  /-- `ldmia rn!, {registers}` -/
  | ldmia (rn : Reg) (registers : List Reg)
  | push (registers : List Reg)
  | pop (registers : List Reg)
  /-- `pop {pc}` -/
  | popPc
  /-- `pop {registers, pc}` -/
  | popWithPc (registers : List Reg)
  | bl (target : Value)
  | bx (rm : Reg)
  | mrsPsp (rd : Reg)
  | msrPsp (rm : Reg)
  | msrControl (rm : Reg)
  | dsb
  | isb
  deriving DecidableEq, Repr

/-- Its length in bytes. -/
def Instr.size : Instr → Value
  | bl _ | mrsPsp _ | msrPsp _ | msrControl _ | dsb | isb => 4
  | _ => 2

/-- N, Z, C and V after a subtraction. -/
def subtractionFlags (minuend subtrahend : Value) : BitVec 4 :=
  let difference := minuend - subtrahend
  BitVec.ofBool difference.msb ++ BitVec.ofBool (difference == 0) ++
    BitVec.ofBool (subtrahend ≤ minuend) ++
    BitVec.ofBool (minuend.msb != subtrahend.msb && difference.msb != minuend.msb)

/-- N and Z after a move; C and V are kept. -/
def moveFlags (flags : BitVec 4) (value : Value) : BitVec 4 :=
  BitVec.ofBool value.msb ++ BitVec.ofBool (value == 0) ++ flags.extractLsb' 0 2

/-- What an instruction does beside moving on to the next one. -/
def Instr.effect (instr : Instr) (cpu : Cpu) : Option Cpu :=
  match instr with
  | mov rd rm => some (cpu.set rd (cpu.reg rm))
  | movs rd imm => some { cpu.set rd imm with flags := moveFlags cpu.flags imm }
  | subs rd rn imm =>
    some { cpu.set rd (cpu.reg rn - imm) with flags := subtractionFlags (cpu.reg rn) imm }
  | ldrLiteral rd value => some (cpu.set rd value)
  | ldr rt rn imm => (cellAt (cpu.reg rn + imm)).map fun cell => cpu.set rt (cpu.memory cell)
  | str rt rn imm => (cellAt (cpu.reg rn + imm)).map fun cell =>
    { cpu with memory := Function.update cpu.memory cell (cpu.reg rt) }
  | stmia rn registers => (cellAt (cpu.reg rn)).map fun cell =>
    { cpu.set rn (cpu.reg rn + 4 * BitVec.ofNat 32 registers.length) with
      memory := storeAll cpu.memory cell (registers.map cpu.reg) }
  | ldmia rn registers => (cellAt (cpu.reg rn)).map fun cell =>
    (cpu.set rn (cpu.reg rn + 4 * BitVec.ofNat 32 registers.length)).setAll registers
      (loadAll cpu.memory cell registers.length)
  | push registers =>
    let sp := cpu.sp - BitVec.ofNat 30 registers.length
    some { cpu.setSp sp with memory := storeAll cpu.memory sp (registers.map cpu.reg) }
  | pop registers =>
    some ((cpu.setSp (cpu.sp + BitVec.ofNat 30 registers.length)).setAll registers
      (loadAll cpu.memory cpu.sp registers.length))
  | popPc => (cpu.setSp (cpu.sp + 1)).branchExchange (cpu.memory cpu.sp)
  | popWithPc registers =>
    ((cpu.setSp (cpu.sp + BitVec.ofNat 30 registers.length + 1)).setAll registers
      (loadAll cpu.memory cpu.sp registers.length)).branchExchange
        (cpu.memory (cpu.sp + BitVec.ofNat 30 registers.length))
  | bl target => some { cpu.set .lr ((cpu.pc + 4) ||| 1) with pc := target &&& ~~~1 }
  | bx rm => cpu.branchExchange (cpu.reg rm)
  | mrsPsp rd => some (cpu.set rd (address cpu.psp))
  | msrPsp rm => some { cpu with psp := (cpu.reg rm).extractLsb' 2 30 }
  -- Handler mode ignores writes to SPSEL
  | msrControl rm => some (if cpu.ipsr = 0 then { cpu with spsel := (cpu.reg rm).getLsbD 1 } else cpu)
  | dsb | isb => some cpu

/-- The instructions that set the program counter themselves. -/
def Instr.Branches : Instr → Prop
  | popPc | popWithPc _ | bl _ | bx _ => True
  | _ => False

instance : DecidablePred Instr.Branches
  | .popPc | .popWithPc _ | .bl _ | .bx _ => inferInstanceAs (Decidable True)
  | .mov _ _ | .movs _ _ | .subs _ _ _ | .ldrLiteral _ _ | .ldr _ _ _ | .str _ _ _ | .stmia _ _
  | .ldmia _ _ | .push _ | .pop _ | .mrsPsp _ | .msrPsp _ | .msrControl _ | .dsb | .isb =>
    inferInstanceAs (Decidable False)

def Instr.step (instr : Instr) (cpu : Cpu) : Option Cpu :=
  if instr.Branches then instr.effect cpu
  else (instr.effect cpu).map fun next => { next with pc := cpu.pc + instr.size }

/-! ### Routines -/

/-- Instructions one after the other. -/
def exec : List Instr → Cpu → Option Cpu
  | [], cpu => some cpu
  | instr :: rest, cpu => (instr.step cpu).bind (exec rest)

theorem exec_append (first second : List Instr) (cpu : Cpu) :
    exec (first ++ second) cpu = (exec first cpu).bind (exec second) := by
  induction first generalizing cpu with
  | nil => rfl
  | cons instr rest ih =>
    rw [List.cons_append, exec, exec, Option.bind_assoc]
    exact congrArg _ (funext ih)

/-- The bytes a list of instructions takes. -/
def codeSize (code : List Instr) : Value := (code.map Instr.size).sum

theorem codeSize_append (first second : List Instr) :
    codeSize (first ++ second) = codeSize first + codeSize second := by
  rw [codeSize, List.map_append, List.sum_append]
  rfl

/-- Straight-line code at an address. It is entered at its first instruction. -/
def runAt (start : Value) (code : List Instr) (cpu : Cpu) : Option Cpu :=
  if cpu.pc = start then exec code cpu else none

theorem runAt_eq_some {start : Value} {code : List Instr} {cpu after : Cpu} :
    runAt start code cpu = some after ↔ cpu.pc = start ∧ exec code cpu = some after := by
  unfold runAt
  split
  case isTrue here => exact (and_iff_right here).symm
  case isFalse elsewhere =>
    constructor
    · rintro ⟨⟩
    · exact fun run => absurd run.1 elsewhere

section Exec

variable {cpu : Cpu} {rest : List Instr} {rd rm rn rt register other : Reg} {cell : Cell}
variable {imm value : Value} {registers : List Reg}

@[simp] theorem Cpu.set_reg (cpu : Cpu) (register other : Reg) (value : Value) :
    (cpu.set register value).reg other = if other = register then value else cpu.reg other := by
  rw [Cpu.set]
  exact Function.update_apply _ _ _ _

/-- Writing a core register leaves everything else alone. -/
@[simp] theorem Cpu.set_fields (cpu : Cpu) (register : Reg) (value : Value) :
    (cpu.set register value).pc = cpu.pc ∧ (cpu.set register value).flags = cpu.flags ∧
      (cpu.set register value).ipsr = cpu.ipsr ∧ (cpu.set register value).msp = cpu.msp ∧
      (cpu.set register value).psp = cpu.psp ∧ (cpu.set register value).spsel = cpu.spsel ∧
      (cpu.set register value).memory = cpu.memory :=
  ⟨rfl, rfl, rfl, rfl, rfl, rfl, rfl⟩

/-- On to the next instruction. -/
def Cpu.advance (cpu : Cpu) (size : Value) : Cpu := { cpu with pc := cpu.pc + size }

@[simp] theorem Cpu.advance_fields (cpu : Cpu) (size : Value) :
    (cpu.advance size).reg = cpu.reg ∧ (cpu.advance size).pc = cpu.pc + size ∧
      (cpu.advance size).flags = cpu.flags ∧ (cpu.advance size).ipsr = cpu.ipsr ∧
      (cpu.advance size).msp = cpu.msp ∧ (cpu.advance size).psp = cpu.psp ∧
      (cpu.advance size).spsel = cpu.spsel ∧ (cpu.advance size).memory = cpu.memory :=
  ⟨rfl, rfl, rfl, rfl, rfl, rfl, rfl, rfl⟩

@[simp] theorem exec_nil : exec [] cpu = some cpu := rfl

theorem exec_next {instr : Instr} (next : Cpu) (straight : ¬ instr.Branches)
    (effect : instr.effect cpu = some next) (pc : next.pc = cpu.pc) :
    exec (instr :: rest) cpu = exec rest (next.advance instr.size) := by
  rw [exec, Instr.step, if_neg straight, effect, Cpu.advance, pc]
  rfl

theorem exec_branch {instr : Instr} (branches : instr.Branches) :
    exec (instr :: rest) cpu = (instr.effect cpu).bind (exec rest) := by
  rw [exec, Instr.step, if_pos branches]

@[simp] theorem exec_mov : exec (.mov rd rm :: rest) cpu =
    exec rest ((cpu.set rd (cpu.reg rm)).advance 2) := rfl

@[simp] theorem exec_subs : exec (.subs rd rn imm :: rest) cpu =
    exec rest ({ cpu.set rd (cpu.reg rn - imm) with
      flags := subtractionFlags (cpu.reg rn) imm }.advance 2) := rfl

@[simp] theorem exec_ldrLiteral : exec (.ldrLiteral rd value :: rest) cpu =
    exec rest ((cpu.set rd value).advance 2) := rfl

@[simp] theorem exec_mrsPsp : exec (.mrsPsp rd :: rest) cpu =
    exec rest ((cpu.set rd (address cpu.psp)).advance 4) := rfl

@[simp] theorem exec_msrPsp : exec (.msrPsp rm :: rest) cpu =
    exec rest ({ cpu with psp := (cpu.reg rm).extractLsb' 2 30 }.advance 4) := rfl

@[simp] theorem exec_movs : exec (.movs rd imm :: rest) cpu =
    exec rest ({ cpu.set rd imm with flags := moveFlags cpu.flags imm }.advance 2) := rfl

@[simp] theorem exec_dsb : exec (.dsb :: rest) cpu = exec rest (cpu.advance 4) := rfl

@[simp] theorem exec_isb : exec (.isb :: rest) cpu = exec rest (cpu.advance 4) := rfl

theorem exec_msrControl (thread : cpu.ipsr = 0) : exec (.msrControl rm :: rest) cpu =
    exec rest ({ cpu with spsel := (cpu.reg rm).getLsbD 1 }.advance 4) := by
  refine exec_next { cpu with spsel := (cpu.reg rm).getLsbD 1 } id ?_ rfl
  rw [Instr.effect, if_pos thread]

theorem exec_ldr (accessed : cpu.reg rn + imm = address cell) :
    exec (.ldr rt rn imm :: rest) cpu = exec rest ((cpu.set rt (cpu.memory cell)).advance 2) := by
  refine exec_next (cpu.set rt (cpu.memory cell)) id ?_ rfl
  rw [Instr.effect, accessed, cellAt_address]
  rfl

theorem exec_str (accessed : cpu.reg rn + imm = address cell) :
    exec (.str rt rn imm :: rest) cpu =
      exec rest ({ cpu with
        memory := Function.update cpu.memory cell (cpu.reg rt) }.advance 2) := by
  refine exec_next { cpu with
    memory := Function.update cpu.memory cell (cpu.reg rt) } id ?_ rfl
  rw [Instr.effect, accessed, cellAt_address]
  rfl

theorem address_count (cell : Cell) (count : Nat) :
    address cell + 4 * BitVec.ofNat 32 count = address (cell + BitVec.ofNat 30 count) := by
  apply BitVec.eq_of_toNat_eq
  have four : (4 : Value).toNat = 4 := rfl
  rw [BitVec.toNat_add, BitVec.toNat_mul, address_toNat, address_toNat, BitVec.toNat_add, four]
  simp only [BitVec.toNat_ofNat]
  omega

theorem exec_stmia (accessed : cpu.reg rn = address cell) :
    exec (.stmia rn registers :: rest) cpu =
      exec rest ({ cpu.set rn (address (cell + BitVec.ofNat 30 registers.length)) with
        memory := storeAll cpu.memory cell (registers.map cpu.reg) }.advance 2) := by
  refine exec_next { cpu.set rn (address (cell + BitVec.ofNat 30 registers.length)) with
    memory := storeAll cpu.memory cell (registers.map cpu.reg) } id ?_ rfl
  rw [Instr.effect, accessed, cellAt_address, Option.map_some, address_count]

@[simp] theorem Cpu.setAll_pc (cpu : Cpu) (registers : List Reg) (values : List Value) :
    (cpu.setAll registers values).pc = cpu.pc := by
  induction registers generalizing cpu values with
  | nil => rfl
  | cons register registers ih =>
    cases values with
    | nil => rfl
    | cons value values => rw [Cpu.setAll, ih]; rfl

theorem Cpu.setAll_other {cpu : Cpu} {registers : List Reg} {values : List Value} {register : Reg}
    (other : register ∉ registers) : (cpu.setAll registers values).reg register = cpu.reg register := by
  induction registers generalizing cpu values with
  | nil => rfl
  | cons first registers ih =>
    cases values with
    | nil => rfl
    | cons value values =>
      obtain ⟨different, other⟩ := List.ne_and_not_mem_of_not_mem_cons other
      rw [Cpu.setAll, ih other, Cpu.set_reg, if_neg different]

theorem exec_ldmia (accessed : cpu.reg rn = address cell) :
    exec (.ldmia rn registers :: rest) cpu =
      exec rest (((cpu.set rn (address (cell + BitVec.ofNat 30 registers.length))).setAll registers
        (loadAll cpu.memory cell registers.length)).advance 2) := by
  refine exec_next ((cpu.set rn (address (cell + BitVec.ofNat 30 registers.length))).setAll
    registers (loadAll cpu.memory cell registers.length)) id ?_ (Cpu.setAll_pc _ _ _)
  rw [Instr.effect, accessed, cellAt_address, Option.map_some, address_count]

/-- A store that was carried out was aligned. -/
theorem stmia_aligned {final : Cpu} (run : exec (.stmia rn registers :: rest) cpu = some final) :
    ∃ cell, cpu.reg rn = address cell := by
  cases found : cellAt (cpu.reg rn) with
  | some cell => exact ⟨cell, cellAt_eq_some found⟩
  | none =>
    have straight : ¬ (Instr.stmia rn registers).Branches := id
    have stuck : (Instr.stmia rn registers).effect cpu = none := by
      rw [Instr.effect, found, Option.map_none]
    rw [exec, Instr.step, if_neg straight, stuck] at run
    cases run

/-- A load that was carried out was aligned. -/
theorem ldmia_aligned {final : Cpu} (run : exec (.ldmia rn registers :: rest) cpu = some final) :
    ∃ cell, cpu.reg rn = address cell := by
  cases found : cellAt (cpu.reg rn) with
  | some cell => exact ⟨cell, cellAt_eq_some found⟩
  | none =>
    have straight : ¬ (Instr.ldmia rn registers).Branches := id
    have stuck : (Instr.ldmia rn registers).effect cpu = none := by
      rw [Instr.effect, found, Option.map_none]
    rw [exec, Instr.step, if_neg straight, stuck] at run
    cases run

theorem Cpu.setSp_pc (cpu : Cpu) (sp : Cell) : (cpu.setSp sp).pc = cpu.pc := by
  rw [Cpu.setSp]
  split <;> rfl

theorem Cpu.setSp_reg (cpu : Cpu) (sp : Cell) : (cpu.setSp sp).reg = cpu.reg := by
  rw [Cpu.setSp]
  split <;> rfl

theorem exec_push : exec (.push registers :: rest) cpu =
    exec rest ({ cpu.setSp (cpu.sp - BitVec.ofNat 30 registers.length) with
      memory := storeAll cpu.memory (cpu.sp - BitVec.ofNat 30 registers.length)
        (registers.map cpu.reg) }.advance 2) :=
  exec_next _ id rfl (Cpu.setSp_pc _ _)

theorem exec_pop : exec (.pop registers :: rest) cpu =
    exec rest (((cpu.setSp (cpu.sp + BitVec.ofNat 30 registers.length)).setAll registers
      (loadAll cpu.memory cpu.sp registers.length)).advance 2) :=
  exec_next _ id rfl ((Cpu.setAll_pc _ _ _).trans (Cpu.setSp_pc _ _))

theorem Cpu.unstack_frame {r0 r1 r2 r3 r12 lr pc : Value} {flags : BitVec 4} {padded : Bool}
    {ipsr : BitVec 6}
    (stacked : Holds cpu.memory cpu.sp [r0, r1, r2, r3, r12, lr, pc, packXpsr flags padded ipsr]) :
    cpu.unstack = some
      { (cpu.setAll [.r0, .r1, .r2, .r3, .r12, .lr] [r0, r1, r2, r3, r12, lr]).setSp
          (if padded then (cpu.sp + 8) ||| 1 else cpu.sp + 8) with pc, flags, ipsr } := by
  have loaded : loadAll cpu.memory cpu.sp 8 =
      [r0, r1, r2, r3, r12, lr, pc, packXpsr flags padded ipsr] := stacked
  rw [Cpu.unstack, loaded]
  simp only [packXpsr_thumb, packXpsr_padded, packXpsr_flags, packXpsr_ipsr, if_true]

/-- The last instruction of an exception handler that interrupted a task on the
process stack. -/
theorem exec_popPc_thread {r0 r1 r2 r3 r12 lr pc : Value} {flags : BitVec 4} {padded : Bool}
    (handler : cpu.ipsr ≠ 0) (link : cpu.memory cpu.msp = 0xFFFFFFFD)
    (stacked : Holds cpu.memory cpu.psp [r0, r1, r2, r3, r12, lr, pc, packXpsr flags padded 0]) :
    exec [.popPc] cpu = some
      { cpu.setAll [.r0, .r1, .r2, .r3, .r12, .lr] [r0, r1, r2, r3, r12, lr] with
        pc, flags
        ipsr := 0
        msp := cpu.msp + 1
        psp := if padded then (cpu.psp + 8) ||| 1 else cpu.psp + 8
        spsel := true } := by
  let popped : Cpu := { cpu with msp := cpu.msp + 1 }
  let thread : Cpu := { popped with ipsr := 0, spsel := true }
  have pop : cpu.setSp (cpu.msp + 1) = popped := Cpu.setSp_handler handler _
  have exchanged : popped.branchExchange 0xFFFFFFFD = popped.exceptionReturn 0xFFFFFFFD := by
    rw [Cpu.branchExchange, if_pos ⟨handler, by decide⟩]
  have returned : popped.exceptionReturn 0xFFFFFFFD = thread.unstack := by
    rw [Cpu.exceptionReturn, if_neg (by decide), if_neg (by decide), if_pos rfl]
  have unstacked : thread.unstack = _ := Cpu.unstack_frame stacked
  have effect : Instr.popPc.effect cpu = thread.unstack := by
    rw [Instr.effect, Cpu.sp_handler handler, pop, link, exchanged, returned]
  have branches : Instr.popPc.Branches := trivial
  rw [exec_branch branches, effect, unstacked]
  rfl

theorem exec_bl : exec [.bl value] cpu =
    some { cpu.set .lr ((cpu.pc + 4) ||| 1) with pc := value &&& ~~~1 } := rfl

/-- A return to code, with registers that were pushed together with the return
address. -/
theorem exec_popWithPc {target : Value}
    (found : cpu.memory (cpu.sp + BitVec.ofNat 30 registers.length) = target)
    (code : target.getLsbD 0 = true) (ordinary : target.extractLsb' 28 4 ≠ 0xF) :
    exec [.popWithPc registers] cpu = some
      { (cpu.setSp (cpu.sp + BitVec.ofNat 30 registers.length + 1)).setAll registers
          (loadAll cpu.memory cpu.sp registers.length) with pc := target &&& ~~~1 } := by
  have branches : (Instr.popWithPc registers).Branches := trivial
  rw [exec_branch branches, Instr.effect, found, Cpu.branchExchange,
    if_neg fun both => ordinary both.2, if_pos code]
  rfl

/-- A return from a function called in Thread mode. -/
theorem exec_bx_thread (thread : cpu.ipsr = 0) (code : (cpu.reg rm).getLsbD 0 = true) :
    exec [.bx rm] cpu = some { cpu with pc := cpu.reg rm &&& ~~~1 } := by
  have branches : (Instr.bx rm).Branches := trivial
  have ordinary : ¬ (cpu.ipsr ≠ 0 ∧ (cpu.reg rm).extractLsb' 28 4 = 0xF) := fun both => both.1 thread
  rw [exec_branch branches, Instr.effect, Cpu.branchExchange, if_neg ordinary, if_pos code]
  rfl

end Exec

/-! ### Exceptions taken by a task, and calls -/

/-- Exception entry from a task on the process stack. -/
theorem Cpu.enter_thread {cpu : Cpu} (thread : cpu.ipsr = 0) (process : cpu.spsel = true)
    (number : BitVec 6) (vector returnAddress : Value) (unknown : Reg → Value) :
    cpu.enter number vector returnAddress unknown =
      { cpu with
        reg := fun register =>
          if register = .lr then 0xFFFFFFFD
          else if register ∈ [Reg.r0, .r1, .r2, .r3, .r12] then unknown register
          else cpu.reg register
        pc := vector
        ipsr := number
        psp := frameBelow cpu.psp
        spsel := false
        memory := storeAll cpu.memory (frameBelow cpu.psp) (cpu.frame returnAddress) } := by
  have link : cpu.excReturn = 0xFFFFFFFD := by
    rw [Cpu.excReturn, if_neg (not_not_intro thread), if_pos process]
  rw [Cpu.enter, Cpu.sp_thread thread process, Cpu.setSp_thread thread process, link]

def calleeSaved : List Reg := [.r4, .r5, .r6, .r7, .r8, .r9, .r10, .r11]

/-- A called function has returned and kept to the procedure call standard,
seen from a caller that does not want these words changed. -/
structure CallReturns (kept : Set Cell) (before after : Cpu) : Prop where
  pc : after.pc = before.reg .lr &&& ~~~1
  saved : ∀ register ∈ calleeSaved, after.reg register = before.reg register
  msp : after.msp = before.msp
  ipsr : after.ipsr = before.ipsr
  memory : ∀ cell ∈ kept, after.memory cell = before.memory cell

end Gkrtos.Armv6m
