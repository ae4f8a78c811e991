import Mathlib.Data.List.Defs
import Mathlib.Data.UInt

/-! What the kernel is built on: its own compile-time configuration, and the
parts of pico-sdk and newlib it calls, which are not in this repository. The
latter are parameters. Each function the kernel uses is a field of `PicoSdk` or
`Malloc`, next to the documented behaviour the kernel relies on; nothing else
is assumed of it. -/
namespace Gkrtos

/-! ## Configuration -/

/-- `GKRTOS_CONFIG_MAX_TASKS` -/
def configMaxTasks : Nat := 128

/-- `GKRTOS_TASKING_TASK_ELAPSED_TIME_US` -/
def taskingTaskElapsedTimeUs : UInt64 := 6 * 1000

/-- `GKRTOS_SYSTICK_FREQUENCY_HZ` -/
def systickFrequencyHz : UInt64 := 1000

/-- `GKRTOS_SYSTICK_PRIORITY` -/
def systickPriority : Nat := 2

/-- `GKRTOS_SVCALL_PRIORITY` -/
def svcallPriority : Nat := 2

/-- `GKRTOS_PENDSV_PRIORITY` -/
def pendsvPriority : Nat := 3

/-- The exceptions the kernel handles. -/
inductive Exception where
  | svcall
  | pendsv
  | systick
  deriving DecidableEq, Repr

/-- `GKRTOS_ARCH_NUM_CORES` -/
def archNumCores : Nat := 2

/-- A 32-bit machine word: an address, a register, a `uint32_t`. -/
abbrev Word := BitVec 32

/-- `enum gkrtos_result` -/
inductive Result where
  | success
  | error
  deriving DecidableEq, Repr

/-! ## Ways a C function fails to return -/

/-- Why a call into `list.c` does not come back with a result. -/
inductive ListFault where
  /-- A NULL pointer or a freed or never allocated list object is dereferenced.
  This is undefined behaviour in C; the model stops there and promises nothing
  afterwards. -/
  | invalidPointer
  /-- A walk over a list goes on forever. -/
  | endlessWalk
  deriving DecidableEq, Repr

/-- Why a call into the kernel does not. -/
inductive Fault where
  | list (fault : ListFault)
  /-- `gkrtos_task_list` is accessed outside its bounds, which is undefined
  behaviour as well. -/
  | taskIndex
  /-- The critical section is waited for by the core that holds it. -/
  | blockedForever
  deriving DecidableEq, Repr

/-! ## pico-sdk -/

/-- `absolute_time_t`: microseconds since boot. -/
abbrev AbsoluteTime := UInt64

/-- `nil_time`, a constant of the SDK -/
def nilTime : AbsoluteTime := 0

/-- PRIMASK: `true` while interrupts are disabled. -/
abbrev InterruptMask := Bool

/-- `critical_section_t`: whether the calling core is inside, and the interrupt
mask to go back to. -/
structure CriticalSection where
  held : Bool
  save : InterruptMask
  deriving DecidableEq, Repr

/-- The pico-sdk functions the kernel and the program call. A function that reads the
clock or PRIMASK takes the reading as an argument. -/
class PicoSdk where
  /-- `is_nil_time` -/
  isNilTime : AbsoluteTime → Bool
  /-- `absolute_time_diff_us(from, to)` -/
  absoluteTimeDiffUs : AbsoluteTime → AbsoluteTime → Int64
  /-- `make_timeout_time_us(us)`, called at the given time. -/
  makeTimeoutTimeUs : AbsoluteTime → UInt64 → AbsoluteTime
  /-- `make_timeout_time_ms(ms)`, called at the given time. -/
  makeTimeoutTimeMs : AbsoluteTime → Word → AbsoluteTime
  /-- `delayed_by_us(t, us)` -/
  delayedByUs : AbsoluteTime → UInt64 → AbsoluteTime
  /-- `save_and_disable_interrupts()`: the mask found, and the mask left. -/
  saveAndDisableInterrupts : InterruptMask → InterruptMask × InterruptMask
  /-- `restore_interrupts(status)`: the mask left. -/
  restoreInterrupts : InterruptMask → InterruptMask
  /-- `critical_section_enter_blocking`: `none` when it never returns. -/
  criticalSectionEnterBlocking : CriticalSection → InterruptMask →
    Option (CriticalSection × InterruptMask)
  /-- `critical_section_exit` -/
  criticalSectionExit : CriticalSection → CriticalSection × InterruptMask
  isNilTime_eq (time : AbsoluteTime) : isNilTime time = (time == nilTime)
  /-- The difference is the signed 64-bit value of `to - from`. -/
  absoluteTimeDiffUs_eq (start stop : AbsoluteTime) :
    absoluteTimeDiffUs start stop = (stop - start).toInt64
  /-- A timeout is the current time plus the delay while that stays below the
  end of time. -/
  makeTimeoutTimeUs_eq (now us : UInt64) (bound : now.toNat + us.toNat < 2 ^ 63) :
    makeTimeoutTimeUs now us = now + us
  /-- The delay is taken in microseconds. -/
  makeTimeoutTimeMs_toNat (now : AbsoluteTime) (ms : Word)
    (bound : now.toNat + ms.toNat * 1000 < 2 ^ 63) :
    (makeTimeoutTimeMs now ms).toNat = now.toNat + ms.toNat * 1000
  delayedByUs_eq (time us : UInt64) (bound : time.toNat + us.toNat < 2 ^ 63) :
    delayedByUs time us = time + us
  saveAndDisableInterrupts_eq (mask : InterruptMask) :
    saveAndDisableInterrupts mask = (mask, true)
  restoreInterrupts_eq (status : InterruptMask) : restoreInterrupts status = status
  /-- A free section is taken with interrupts disabled. -/
  criticalSectionEnterBlocking_free (save mask : InterruptMask) :
    criticalSectionEnterBlocking ⟨false, save⟩ mask = some (⟨true, mask⟩, true)
  /-- A section the same core already holds is waited for forever. -/
  criticalSectionEnterBlocking_held (save mask : InterruptMask) :
    criticalSectionEnterBlocking ⟨true, save⟩ mask = none
  /-- Leaving releases the section and restores the mask found on entry. -/
  criticalSectionExit_eq (criticalSection : CriticalSection) :
    criticalSectionExit criticalSection =
      (⟨false, criticalSection.save⟩, criticalSection.save)

/-- The sum of a time and a delay, or the end of time where the sum is behind it. -/
def saturatedSum (time us : AbsoluteTime) : AbsoluteTime :=
  if 2 ^ 63 ≤ (time + us).toNat then 2 ^ 63 - 1 else time + us

theorem saturatedSum_eq {time us : AbsoluteTime} (bound : time.toNat + us.toNat < 2 ^ 63) :
    saturatedSum time us = time + us := by
  have wrap : (time + us).toNat = time.toNat + us.toNat := by
    rw [UInt64.toNat_add]
    omega
  have below : ¬ 2 ^ 63 ≤ (time + us).toNat := by
    rw [wrap]
    exact Nat.not_le.mpr bound
  exact if_neg below

/-- An SDK with the documented behaviour: timeouts saturate at the end of
time. -/
@[reducible] def PicoSdk.reference : PicoSdk where
  isNilTime time := time == nilTime
  absoluteTimeDiffUs start stop := (stop - start).toInt64
  makeTimeoutTimeUs := saturatedSum
  makeTimeoutTimeMs now ms := saturatedSum now (UInt64.ofNat (ms.toNat * 1000))
  delayedByUs := saturatedSum
  saveAndDisableInterrupts mask := (mask, true)
  restoreInterrupts status := status
  criticalSectionEnterBlocking criticalSection mask :=
    if criticalSection.held then none else some (⟨true, mask⟩, true)
  criticalSectionExit criticalSection := (⟨false, criticalSection.save⟩, criticalSection.save)
  absoluteTimeDiffUs_eq _ _ := rfl
  isNilTime_eq _ := rfl
  makeTimeoutTimeUs_eq _ _ := saturatedSum_eq
  makeTimeoutTimeMs_toNat now ms bound := by
    have delay : (UInt64.ofNat (ms.toNat * 1000)).toNat = ms.toNat * 1000 := by
      rw [UInt64.toNat_ofNat']
      omega
    rw [saturatedSum_eq (by rwa [delay]), UInt64.toNat_add, delay]
    omega
  delayedByUs_eq _ _ := saturatedSum_eq
  saveAndDisableInterrupts_eq _ := rfl
  restoreInterrupts_eq _ := rfl
  criticalSectionEnterBlocking_free _ _ := rfl
  criticalSectionEnterBlocking_held _ _ := rfl
  criticalSectionExit_eq _ := rfl

section Time

variable [PicoSdk] {start stop now us : AbsoluteTime}

/-- Two times before the end of time differ by their plain difference. -/
theorem absoluteTimeDiffUs_toInt (startSmall : start.toNat < 2 ^ 63) (stopSmall : stop.toNat < 2 ^ 63) :
    (PicoSdk.absoluteTimeDiffUs start stop).toInt = (stop.toNat : Int) - start.toNat := by
  rw [PicoSdk.absoluteTimeDiffUs_eq]
  have bits : (stop - start).toInt64.toInt = (stop.toBitVec - start.toBitVec).toInt := rfl
  rw [bits, BitVec.toInt_sub, BitVec.toInt_eq_toNat_of_lt, BitVec.toInt_eq_toNat_of_lt]
  · simp only [UInt64.toNat_toBitVec]
    rw [Int.bmod_def]
    omega
  · simp only [UInt64.toNat_toBitVec]
    omega
  · simp only [UInt64.toNat_toBitVec]
    omega

theorem diff_pos_iff (startSmall : start.toNat < 2 ^ 63) (stopSmall : stop.toNat < 2 ^ 63) :
    0 < PicoSdk.absoluteTimeDiffUs start stop ↔ start.toNat < stop.toNat := by
  rw [Int64.lt_iff_toInt_lt, absoluteTimeDiffUs_toInt startSmall stopSmall]
  simp

theorem diff_nonneg_iff (startSmall : start.toNat < 2 ^ 63) (stopSmall : stop.toNat < 2 ^ 63) :
    0 ≤ PicoSdk.absoluteTimeDiffUs start stop ↔ start.toNat ≤ stop.toNat := by
  rw [Int64.le_iff_toInt_le, absoluteTimeDiffUs_toInt startSmall stopSmall]
  simp

theorem diff_neg_iff (startSmall : start.toNat < 2 ^ 63) (stopSmall : stop.toNat < 2 ^ 63) :
    PicoSdk.absoluteTimeDiffUs start stop < 0 ↔ stop.toNat < start.toNat := by
  rw [Int64.lt_iff_toInt_lt, absoluteTimeDiffUs_toInt startSmall stopSmall, Int64.toInt_zero]
  omega

theorem makeTimeoutTimeUs_toNat (bound : now.toNat + us.toNat < 2 ^ 63) :
    (PicoSdk.makeTimeoutTimeUs now us).toNat = now.toNat + us.toNat := by
  rw [PicoSdk.makeTimeoutTimeUs_eq now us bound, UInt64.toNat_add]
  omega

theorem delayedByUs_toNat (bound : start.toNat + us.toNat < 2 ^ 63) :
    (PicoSdk.delayedByUs start us).toNat = start.toNat + us.toNat := by
  rw [PicoSdk.delayedByUs_eq start us bound, UInt64.toNat_add]
  omega

end Time

/-! ## newlib -/

/-- An address of the C heap. -/
abbrev Addr := Nat

/-- `NULL` -/
def null : Addr := 0

/-- `malloc`, given the blocks that are allocated now. It always succeeds, and
may hand out an address again once the block there was freed. -/
class Malloc where
  malloc : List Addr → Addr
  malloc_fresh (allocated : List Addr) : malloc allocated ∉ allocated
  malloc_ne_null (allocated : List Addr) : malloc allocated ≠ null

private theorem lt_foldr_max {allocated : List Addr} {addr : Addr} (member : addr ∈ allocated) :
    addr < allocated.foldr (fun block bound => max (block + 1) bound) 1 := by
  induction allocated with
  | nil => simp at member
  | cons block rest ih =>
    rw [List.foldr_cons]
    rcases List.mem_cons.mp member with rfl | member
    · exact Nat.lt_of_lt_of_le (Nat.lt_succ_self _) (Nat.le_max_left _ _)
    · exact Nat.lt_of_lt_of_le (ih member) (Nat.le_max_right _ _)

/-- An allocator that takes the first address above every allocated block. -/
@[reducible] def Malloc.reference : Malloc where
  malloc allocated := allocated.foldr (fun block bound => max (block + 1) bound) 1
  malloc_fresh _ member := Nat.lt_irrefl _ (lt_foldr_max member)
  malloc_ne_null allocated := by
    cases allocated with
    | nil => decide
    | cons block rest =>
      rw [List.foldr_cons]
      exact Nat.ne_of_gt (Nat.lt_of_lt_of_le (Nat.succ_pos _) (Nat.le_max_left _ _))

end Gkrtos
