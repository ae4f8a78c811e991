import Gkrtos.KernelWalk

/-! What a system call returns: success, the error number of an unknown call, or
the pid of a new task, which is an index of the task table. This holds of every
kernel state, whatever its queues look like. -/
namespace Gkrtos

open Stateful

section Table

variable {task : TaskPtr} {kernel kernel' : Kernel}

theorem storeTask_ok {change : Task → Task} {done : PUnit}
    (run : storeTask task change kernel = .ok done kernel') :
    task < configMaxTasks ∧
      kernel'.taskList = Function.update kernel.taskList task (change (kernel.taskList task)) := by
  unfold storeTask at run
  by_cases inside : task < configMaxTasks
  · rw [if_pos inside] at run
    injection run with _ written
    subst written
    exact ⟨inside, rfl⟩
  · rw [if_neg inside] at run
    cases run

theorem loadTask_ok {record : Task} (run : loadTask task kernel = .ok record kernel') :
    task < configMaxTasks ∧ record = kernel.taskList task ∧ kernel' = kernel := by
  unfold loadTask at run
  by_cases inside : task < configMaxTasks
  · rw [if_pos inside] at run
    injection run with loaded kept
    exact ⟨inside, loaded.symm, kept.symm⟩
  · rw [if_neg inside] at run
    cases run

/-- A program that ends with `return value`. -/
private theorem bind_return {α : Type} {program : KernelM α} {value value' : Word}
    (run : (do let _ ← program; return value) kernel = .ok value' kernel') : value' = value := by
  obtain ⟨_, _, _, run⟩ := bind_ok.mp run
  injection run with same
  exact same.symm

private theorem tableBesideSection : BesideSection (fun _ => True) Kernel.taskList :=
  ⟨fun _ _ _ _ => rfl, trivial⟩

variable [PicoSdk]

/-- Queueing a task changes no entry of the task table. -/
theorem keepsTable_queueTask [Malloc] (task : TaskPtr) (read : ItemsAsTasks) :
    Keeps (fun _ => True) Kernel.taskList (taskingQueueTask task read) := by
  have beside (seen : TaskPtr → Task) :
      BesideLists (fun _ => True) fun kernel => kernel.taskList = seen :=
    ⟨fun _ _ same => same, fun _ _ same => same, fun _ => trivial, trivial⟩
  apply keeps_bind (keeps_enter tableBesideSection)
  intro entered
  apply keeps_bind fun seen => (beside seen).steps.queueTaskLocked trivial read
  intro queued
  apply keeps_bind (keeps_exit tableBesideSection)
  exact fun exited => keeps_pure _

/-- The pid of a new task is its index. -/
theorem taskingTaskNew_ok {priority : TaskingPriority}
    (run : taskingTaskNew priority kernel = .ok task kernel') :
    task < configMaxTasks ∧ (kernel'.taskList task).pid = task := by
  obtain ⟨entered, kernel₁, -, run⟩ := bind_ok.mp run
  obtain ⟨current, kernel₂, -, run⟩ := bind_ok.mp run
  obtain ⟨counted, kernel₃, -, run⟩ := bind_ok.mp run
  obtain ⟨exited, kernel₄, -, run⟩ := bind_ok.mp run
  obtain ⟨stored, kernel₅, store, run⟩ := bind_ok.mp run
  obtain ⟨inside, written⟩ := storeTask_ok store
  injection run with result final
  subst result final
  rw [written, Function.update_self]
  exact ⟨inside, rfl⟩

variable [Malloc]

/-- A new task gets an index of the task table. -/
theorem internalSyscallCreateTask_ok {args : CreateTaskArgs} {read : ItemsAsTasks} {value : Word}
    (run : internalSyscallCreateTask args read kernel = .ok value kernel') :
    value.toNat < configMaxTasks := by
  obtain ⟨newTask, created, create, run⟩ := bind_ok.mp run
  obtain ⟨filled, stored, store, run⟩ := bind_ok.mp run
  obtain ⟨done, queued, queue, run⟩ := bind_ok.mp run
  obtain ⟨record, loaded, load, run⟩ := bind_ok.mp run
  injection run with result
  obtain ⟨inside, pid⟩ := taskingTaskNew_ok create
  have written := (storeTask_ok store).2
  have kept : queued.taskList = stored.taskList := (keepsTable_queueTask newTask read).ok queue
  have index : record.pid = newTask := by
    rw [(loadTask_ok load).2.1, kept, written, Function.update_self]
    exact pid
  rw [← result, index, BitVec.toNat_ofNat]
  exact Nat.lt_of_le_of_lt (Nat.mod_le _ _) inside

/-- Success, an index of the task table, or the error of an unknown call. -/
theorem internalSyscall_ok {number value : Word} {args : SyscallArgs} {now : AbsoluteTime}
    (run : internalSyscall task number args now kernel = .ok value kernel') :
    value.toNat < configMaxTasks ∨ value = -syscallErrnoNoSuchSyscall := by
  have success : value = syscallErrnoSuccess → value.toNat < configMaxTasks := by
    rintro rfl
    decide
  unfold internalSyscall at run
  split at run
  case isTrue =>
    obtain ⟨_, _, _, run⟩ := bind_ok.mp run
    exact .inl (success (bind_return run))
  split at run
  case isTrue =>
    obtain ⟨_, _, _, run⟩ := bind_ok.mp run
    exact .inl (success (bind_return run))
  split at run
  case isTrue =>
    obtain ⟨_, _, _, run⟩ := bind_ok.mp run
    obtain ⟨_, _, _, run⟩ := bind_ok.mp run
    obtain ⟨_, _, _, run⟩ := bind_ok.mp run
    exact .inl (success (bind_return run))
  split at run
  case isTrue =>
    obtain ⟨_, _, _, run⟩ := bind_ok.mp run
    exact .inl (success (bind_return run))
  split at run
  case isTrue => exact .inl (internalSyscallCreateTask_ok run)
  split at run
  case isTrue => exact .inl (success (bind_return run))
  case isFalse =>
    injection run with same
    exact .inr same.symm

end Table

end Gkrtos
