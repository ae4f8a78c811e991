import Gkrtos.Stateful
import Gkrtos.Syscalls

/-! What the functions of the kernel leave alone that use no queue. Entering and
leaving the critical section writes the section and the interrupt mask, a task
switch writes the task table, the cores and the mask. Anything else one looks at
in the kernel stays as it is. -/
namespace Gkrtos

open Stateful

variable {ω α : Type} {excused : Fault → Prop} {observe : Kernel → ω}

/-- What is observed of the kernel is nothing that a task switch writes. -/
structure BesideTasks (excused : Fault → Prop) (observe : Kernel → ω) : Prop where
  taskList : ∀ kernel taskList, observe { kernel with taskList } = observe kernel
  cores : ∀ kernel cores, observe { kernel with cores } = observe kernel
  primask : ∀ kernel primask, observe { kernel with primask } = observe kernel
  pendsvPending : ∀ kernel pendsvPending, observe { kernel with pendsvPending } = observe kernel
  trace : ∀ kernel trace, observe { kernel with trace } = observe kernel
  taskIndex : excused .taskIndex

theorem keeps_loadTask (excuse : excused .taskIndex) (task : TaskPtr) :
    Keeps excused observe (loadTask task) := by
  unfold loadTask
  apply keeps_ite
  · exact keeps_bind keeps_get fun kernel => keeps_pure _
  · exact keeps_throw excuse

theorem keeps_currentTask : Keeps excused observe taskingGetCurrentTask :=
  keeps_bind keeps_get fun _ => keeps_pure _

/-! ## The critical section -/

/-- What is observed of the kernel is nothing that using the section writes, and
waiting forever is excused. -/
structure BesideSection (excused : Fault → Prop) (observe : Kernel → ω) : Prop where
  uses : ∀ kernel criticalSection primask sections,
    observe { kernel with criticalSection, primask, sections } = observe kernel
  blockedForever : excused .blockedForever

section Section

variable [PicoSdk] {kernel kernel' : Kernel}

theorem enter_run (free : kernel.criticalSection.held = false) :
    criticalSectionDataStructuresEnterBlocking kernel = .ok .success { kernel with
      criticalSection := ⟨true, kernel.primask⟩
      primask := true
      sections := kernel.sections ++ [.entered] } := by
  have entry : PicoSdk.criticalSectionEnterBlocking kernel.criticalSection kernel.primask =
      some (⟨true, kernel.primask⟩, true) := by
    rw [← PicoSdk.criticalSectionEnterBlocking_free kernel.criticalSection.save kernel.primask, ← free]
  simp [criticalSectionDataStructuresEnterBlocking, entry]

theorem enter_blocks (held : kernel.criticalSection.held = true) :
    criticalSectionDataStructuresEnterBlocking kernel = .error .blockedForever kernel := by
  have entry : PicoSdk.criticalSectionEnterBlocking kernel.criticalSection kernel.primask = none := by
    rw [← PicoSdk.criticalSectionEnterBlocking_held kernel.criticalSection.save kernel.primask, ← held]
  simp [criticalSectionDataStructuresEnterBlocking, entry]

theorem enter_ok {done : Result}
    (run : criticalSectionDataStructuresEnterBlocking kernel = .ok done kernel') :
    kernel.criticalSection.held = false ∧ kernel'.criticalSection.held = true := by
  cases held : kernel.criticalSection.held with
  | false =>
    cases (enter_run held).symm.trans run
    exact ⟨rfl, rfl⟩
  | true => cases (enter_blocks held).symm.trans run

theorem exit_run : criticalSectionDataStructuresExit kernel = .ok .success { kernel with
    criticalSection := { kernel.criticalSection with held := false }
    primask := kernel.criticalSection.save
    sections := kernel.sections ++ [.exited] } := by
  simp [criticalSectionDataStructuresExit, PicoSdk.criticalSectionExit_eq]

theorem keeps_enter (beside : BesideSection excused observe) :
    Keeps excused observe criticalSectionDataStructuresEnterBlocking := by
  intro seen kernel holds
  simp only [criticalSectionDataStructuresEnterBlocking, bind_apply, get_apply]
  cases PicoSdk.criticalSectionEnterBlocking kernel.criticalSection kernel.primask with
  | none => exact beside.blockedForever
  | some entered => exact ⟨trivial, (beside.uses kernel _ _ _).trans holds⟩

theorem keeps_exit (beside : BesideSection excused observe) :
    Keeps excused observe criticalSectionDataStructuresExit := by
  intro seen kernel holds
  exact ⟨trivial, (beside.uses kernel _ _ _).trans holds⟩

end Section

/-! ## Task switches -/

theorem keeps_storeTask (beside : BesideTasks excused observe) (task : TaskPtr)
    (change : Task → Task) : Keeps excused observe (storeTask task change) := by
  unfold storeTask
  apply keeps_ite
  · exact keeps_modify fun kernel => beside.taskList kernel _
  · exact keeps_throw beside.taskIndex

theorem keeps_storeCore (beside : BesideTasks excused observe) (core : Nat) (change : Core → Core) :
    Keeps excused observe (storeCore core change) :=
  keeps_modify fun kernel => beside.cores kernel _

theorem keeps_observe (beside : BesideTasks excused observe) (event : Event) :
    Keeps excused observe (Gkrtos.observe event) :=
  keeps_modify fun kernel => beside.trace kernel _

/-- A write to a field that is not observed, before the rest. -/
theorem keeps_write {change : Kernel → Kernel} {rest : KernelM α}
    (same : ∀ kernel, observe (change kernel) = observe kernel)
    (follows : Keeps excused observe rest) :
    Keeps excused observe (do modify change; rest) :=
  keeps_bind (keeps_modify same) fun _ => follows

theorem keeps_contextSwitch (beside : BesideTasks excused observe) (core : Nat)
    (current next : TaskPtr) (stackptr : Word) (now now' : AbsoluteTime) :
    Keeps excused observe (internalContextSwitch core current next stackptr now now') := by
  have switchIn : Keeps excused observe (do
      storeTask next fun task => { task with
        accounting := { task.accounting with ctxSwitchTime := now' }
        taskStatus := .running }
      let nextPid := (← loadTask next).pid
      storeCore core fun cores => { cores with currentlyRunningPid := nextPid }
      return (← loadTask next).stackptr) := by
    apply keeps_bind (keeps_storeTask beside next _)
    intro resumed
    apply keeps_bind (keeps_loadTask beside.taskIndex next)
    intro record
    apply keeps_bind (keeps_storeCore beside core _)
    intro stored
    exact keeps_bind (keeps_loadTask beside.taskIndex next) fun _ => keeps_pure _
  apply keeps_bind (keeps_storeTask beside current _)
  intro saved
  apply keeps_bind (keeps_loadTask beside.taskIndex current)
  intro record
  apply keeps_bind (keeps_storeCore beside core _)
  intro stored
  apply keeps_bind (keeps_loadTask beside.taskIndex current)
  intro record'
  apply keeps_ite
  · exact keeps_bind (keeps_storeTask beside current _) fun _ => switchIn
  · exact switchIn

/-- PendSV uses no queue and no critical section. -/
theorem keeps_pendsv [PicoSdk] (beside : BesideTasks excused observe) (stackptr : Word)
    (now now' : AbsoluteTime) : Keeps excused observe (pendsvHandlerC stackptr now now') := by
  apply keeps_bind keeps_get
  intro kernel
  obtain ⟨interrupts, masked⟩ := PicoSdk.saveAndDisableInterrupts kernel.primask
  dsimp only
  refine keeps_write (fun kernel => beside.primask kernel _) ?_
  apply keeps_bind keeps_get
  intro kernel'
  apply keeps_bind keeps_get
  intro kernel''
  apply keeps_bind (keeps_loadTask beside.taskIndex _)
  intro current
  apply keeps_ite
  · exact keeps_pure stackptr
  · apply keeps_bind (keeps_contextSwitch beside _ _ _ _ now now')
    intro newSp
    apply keeps_bind keeps_get
    intro switched
    apply keeps_bind (keeps_observe beside _)
    intro observed
    exact keeps_write (fun kernel => beside.primask kernel _) (keeps_pure newSp)

end Gkrtos
