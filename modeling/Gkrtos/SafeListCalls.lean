import Gkrtos.Runs

/-! No call of the scheduler into `list.c` checks what it gets. All of them are
safe all the same, from the boot on: the heads read are heads of lists that have
one, and the items removed are items of the lists they are removed from. -/
namespace Gkrtos
open KernelRefinement

/-- Every call recorded was safe. -/
def Kernel.CallsSafely (kernel : Kernel) : Prop := ∀ call ∈ kernel.listCalls, Safe call

section Runs

variable [PicoSdk] [Malloc]

/-- The kernel comes up, and from every state it reaches it handles what may
come next, with safe calls only. -/
theorem list_calls_safe :
    (∀ spinTask spinTaskStack tasks now, tasks.length + 1 < configMaxTasks →
      ∃ pids kernel, launch spinTask spinTaskStack tasks now Kernel.initial = .ok pids kernel ∧
        kernel.CallsSafely) ∧
    ∀ system : System, system.Reachable System.Legal → ∀ action, system.Legal action →
      ∃ system', system.step action = some system' ∧ system'.kernel.CallsSafely := by
  constructor
  · intro spinTask spinTaskStack tasks now few
    obtain ⟨pids, kernel, launched, outside, -⟩ :=
      launch_returns spinTask spinTaskStack tasks now few
    exact ⟨pids, kernel, launched, outside.log.2⟩
  · intro system reachable action legal
    obtain ⟨mask, s, good⟩ := reachable_good reachable
    obtain ⟨system', stepped, good', -⟩ := step_simulates good legal
    exact ⟨system', stepped, good'.outside.log.2⟩

end Runs

section Example

attribute [local instance] PicoSdk.reference Malloc.reference

/-- A task falls asleep and is woken by the SysTick. -/
private def wakingRun : List Action := [
  .svc 0 syscallYield .zero 100, .takePendsv, .pendsv 0 101 102,
  .svc 0 syscallSleepUntil { SyscallArgs.zero with milliseconds := 10000 } 200, .takePendsv,
  .pendsv 0 201 202]

private def wakingResult : Option (InterruptMask × Finset Pid × Scheduler) :=
  Scheduler.run (fun _ live s action => s.Legal live action) wakingRun
    (false, atStart 0 0 [SyscallArgs.zero.createTask] 0)

private theorem wakingResult_isSome : wakingResult.isSome := by decide +kernel

theorem list_calls_safe_example : ∃ system : System,
    system.Reachable System.Legal ∧ system.kernel.scheduled = [2] ∧
      ∃ system', system.step (.systick 0 9500 9500 9500) = some system' ∧
        system'.kernel.CallsSafely := by
  obtain ⟨system, reached, good, -⟩ := reachedBy_of_run System.Legal 0 0 _ 0
    (fun _ _ _ _ good legal => ⟨(legal_iff good).mpr legal, (legal_iff good).mpr legal⟩)
    (by decide) (Option.some_get wakingResult_isSome).symm
  have sleepers : system.kernel.scheduled = _ := good.scheduled
  exact ⟨system, reached.reachable, sleepers.trans (by decide +kernel),
    list_calls_safe.2 system reached.reachable (.systick 0 9500 9500 9500) trivial⟩

end Example

end Gkrtos
