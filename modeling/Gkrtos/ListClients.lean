import Gkrtos.KernelWalk

/-! The kernel reaches the heap of list items through the functions of `list.c` and in no
other way. So a property of the heap that every one of these functions keeps, whatever list
and whatever item it is given, is kept by every function of the kernel, whatever the queues
and the table look like. -/
namespace Gkrtos

open Stateful

variable {α β : Type} [Malloc] {holds : ListStore TaskPtr → Prop}

/-- Every function of `list.c` that writes keeps this property of the heap, if it returns. -/
structure KeptByLists (holds : ListStore TaskPtr → Prop) : Prop where
  append : ∀ list rawItem, Yields holds (listAppend list rawItem) (fun _ => True) holds
  prepend : ∀ list rawItem, Yields holds (listPrepend list rawItem) (fun _ => True) holds
  insertHead : ∀ list rawItem, Yields holds (listInsertHead list rawItem) (fun _ => True) holds
  insertSorted : ∀ list rawItem sortFn,
    Yields holds (listInsertSorted list rawItem sortFn) (fun _ => True) holds
  remove : ∀ list item, Yields holds (listRemove list item) (fun _ => True) holds
  rotate : ∀ list, Yields holds (listRotate list) (fun _ => True) holds

/-- The program keeps this property of the heap, if it returns. -/
abbrev Respects (holds : ListStore TaskPtr → Prop) (program : KernelM α) : Prop :=
  Yields (fun kernel => holds kernel.lists) program (fun _ => True) fun kernel => holds kernel.lists

section Rules

omit [Malloc]

theorem respects_bind {program : KernelM α} {rest : α → KernelM β}
    (first : Respects holds program) (second : ∀ result, Respects holds (rest result)) :
    Respects holds (program >>= rest) :=
  triple_bind first fun result _ => second result

theorem respects_of_keeps {program : KernelM α}
    (keeps : Keeps (fun _ => True) Kernel.lists program) : Respects holds program := by
  apply keeps.triple
  intro kernel kernel' same kept
  rwa [same]

/-- A statement that has nothing to do with the heap, before the rest. -/
theorem respects_after {program : KernelM α} {rest : α → KernelM β} {returns : β → Prop}
    {after : Kernel → Prop} (keeps : Keeps (fun _ => True) Kernel.lists program)
    (follows : ∀ result, Yields (fun kernel => holds kernel.lists) (rest result) returns after) :
    Yields (fun kernel => holds kernel.lists) (program >>= rest) returns after :=
  triple_bind (respects_of_keeps keeps) fun result _ => follows result

/-- A write to another field, before the rest. -/
theorem respects_write {change : Kernel → Kernel} {rest : KernelM α} {returns : α → Prop}
    {after : Kernel → Prop} (same : ∀ kernel, (change kernel).lists = kernel.lists)
    (follows : Yields (fun kernel => holds kernel.lists) rest returns after) :
    Yields (fun kernel => holds kernel.lists) (do modify change; rest) returns after :=
  respects_after (keeps_modify same) fun _ => follows

theorem respects_onLists {after : ListStore TaskPtr → Prop} {returns : α → Prop}
    {call : ListM TaskPtr α} (keeps : Yields holds call returns after) :
    Yields (fun kernel => holds kernel.lists) (onLists call) returns
      fun kernel => after kernel.lists :=
  triple_onLists (fun _ => trivial) fun _ _ _ kept called => keeps.ok kept called

private theorem besideTasks : BesideTasks (fun _ => True) Kernel.lists :=
  ⟨fun _ _ => rfl, fun _ _ => rfl, fun _ _ => rfl, fun _ _ => rfl, fun _ _ => rfl, trivial⟩

private theorem besideSection : BesideSection (fun _ => True) Kernel.lists :=
  ⟨fun _ _ _ _ => rfl, trivial⟩

end Rules

/-! ## Functions of the kernel -/

variable (kept : KeptByLists holds)
include kept

private theorem respects_queues :
    QueueSteps (fun _ => True) (fun kernel => holds kernel.lists) fun _ => True := by
  constructor
  case toHeadSteps => exact headSteps_of_recorded trivial (fun _ => trivial) fun _ _ start => start
  case remove =>
    intro kernel queue task item start _ _
    refine Triple.at (respects_after keeps_get fun kernel => ?_) start
    exact respects_write (fun _ => rfl) (respects_onLists (kept.remove queue item))
  case rotate => exact fun kernel start => (respects_onLists (kept.rotate _)).at start
  case append => exact fun kernel task start _ => (respects_onLists (kept.append _ task)).at start
  case prepend => exact fun kernel task start _ => (respects_onLists (kept.prepend _ task)).at start
  case insertHead =>
    exact fun kernel task start _ _ => (respects_onLists (kept.insertHead _ task)).at start
  case insertSorted =>
    exact fun kernel task sortFn start _ _ =>
      (respects_onLists (kept.insertSorted _ task sortFn)).at start

variable [PicoSdk]

private theorem respects_steps :
    CallsKeep (fun _ => True) fun kernel => holds kernel.lists :=
  callsKeep_of_observed (respects_queues kept) besideTasks besideSection fun _ _ same kept => same ▸ kept

theorem respects_syscall (task : TaskPtr) (number : Word) (args : SyscallArgs)
    (now : AbsoluteTime) : Respects holds (internalSyscall task number args now) := by
  have steps := respects_steps kept
  apply steps.internalSyscall
  · have stored (task : TaskPtr) (change : Task → Task) : Respects holds (storeTask task change) :=
      respects_of_keeps (keeps_storeTask besideTasks task change)
    exact fun _ => steps.createTask_kept stored (fun _ _ start => start) _ _
  · exact fun _ => yields_taskNextTick args.pid now args.itemsAsTasks

/-! ## Handlers -/

/-- Every handler, whatever state it finds. -/
theorem respects_handle (action : Action) : Respects holds (handle action) := by
  cases action with
  | svc stackptr number args now =>
    apply respects_after keeps_currentTask
    intro task
    apply respects_bind (respects_syscall kept task number args now)
    exact fun result => respects_write (fun _ => rfl) (triple_pure trivial)
  | systick stackptr now now' now'' => exact (respects_steps kept).systick stackptr now now' now''
  | takePendsv => exact respects_write (fun _ => rfl) (triple_pure trivial)
  | pendsv stackptr now now' =>
    apply respects_after (keeps_pendsv besideTasks stackptr now now')
    exact fun newSp => respects_write (fun _ => rfl) (triple_pure trivial)

/-- The tasks that `main` creates are queued by a system call like any others. -/
theorem respects_createTasks (tasks : List CreateTaskArgs) : Respects holds (createTasks tasks) := by
  induction tasks with
  | nil => exact triple_pure trivial
  | cons args rest ih =>
    apply respects_after keeps_currentTask
    intro task
    apply respects_bind (respects_syscall kept task _ _ 0)
    intro pid
    exact respects_bind ih fun _ => triple_pure trivial

omit [Malloc] [PicoSdk] kept in
theorem respects_start (now : AbsoluteTime) : Respects holds (start now) := by
  have begin : Keeps (fun _ => True) Kernel.lists (do
      modify fun kernel => { kernel with taskingStarted := true }
      storeCore 0 fun core => { core with queuedTask := 1 }
      storeCore 0 fun core => { core with currentlyRunningPid := 1 }
      storeTask 1 fun task => { task with taskStatus := .running }
      storeTask 1 fun task => { task with
        accounting := { task.accounting with ctxSwitchTime := now } } : KernelM Unit) := by
    refine keeps_write (fun _ => rfl) ?_
    apply keeps_bind (keeps_storeCore besideTasks 0 _)
    intro queued
    apply keeps_bind (keeps_storeCore besideTasks 0 _)
    intro running
    apply keeps_bind (keeps_storeTask besideTasks 1 _)
    exact fun marked => keeps_storeTask besideTasks 1 _
  have priority : Keeps (fun _ => True) Kernel.lists initSystickHandler :=
    keeps_write (fun _ => rfl) (keeps_pure _)
  apply respects_of_keeps
  apply keeps_bind priority
  intro set
  exact keeps_ite begin (keeps_pure _)

end Gkrtos
