import Gkrtos.Runs

/-! No task is lost or duplicated, whatever the order of system calls and
exceptions: the two queues together hold each live task once and nothing else,
and the next run time of a task says which of them it is in. -/
namespace Gkrtos
open KernelRefinement

/-- Every live task is queued once, in the queue its next run time says, and
nothing else is queued. -/
def System.Accounted (system : System) : Prop :=
  (∀ task ∈ system.live,
    if system.kernel.nextRunTime task = nilTime then
      system.kernel.unscheduled.count task = 1 ∧ task ∉ system.kernel.scheduled
    else
      system.kernel.scheduled.count task = 1 ∧ task ∉ system.kernel.unscheduled) ∧
  ∀ task, task ∉ system.live →
    task ∉ system.kernel.scheduled ∧ task ∉ system.kernel.unscheduled

theorem accounted_of_placed {system : System} (placed : (view system.kernel).Placed system.live) :
    system.Accounted := by
  have ring : ∀ task, system.kernel.unscheduled.count task =
      if task ∈ system.live ∧ system.kernel.nextRunTime task = nilTime then 1 else 0 := placed.ring
  have sleepers : ∀ task, system.kernel.scheduled.count task =
      if task ∈ system.live ∧ system.kernel.nextRunTime task ≠ nilTime then 1 else 0 := placed.sleepers
  refine ⟨fun task alive => ?_, fun task dead => ?_⟩
  · split_ifs with awake
    · rw [← List.count_eq_zero, ring, sleepers]
      simp [alive, awake]
    · rw [← List.count_eq_zero, ring, sleepers]
      simp [alive, awake]
  · rw [← List.count_eq_zero, ← List.count_eq_zero, ring, sleepers]
    simp [dead]

theorem reachable_accounted [PicoSdk] [Malloc] (system : System)
    (reachable : system.Reachable System.Legal) : system.Accounted := by
  obtain ⟨mask, s, good⟩ := reachable_good reachable
  exact accounted_of_placed (good.outside.shows ▸ good.invariant.placed)

section Example

attribute [local instance] PicoSdk.reference Malloc.reference

/-- A run with two tasks, in which one sleeps and is killed asleep by the other
one, which has slept until a past time and is back in the ring. -/
private def accountingRun : Option (InterruptMask × Finset Pid × Scheduler) :=
  Scheduler.run (fun _ live s action => s.Legal live action) [
    .svc 0 syscallYield .zero 10, .takePendsv, .pendsv 0 11 11,
    .svc 0 syscallSleepUntil { SyscallArgs.zero with milliseconds := 90000 } 20,
    .takePendsv, .pendsv 0 21 21,
    .svc 0 syscallYield .zero 30, .takePendsv, .pendsv 0 31 31,
    .svc 0 syscallSleepUntil { SyscallArgs.zero with milliseconds := 40 } 50,
    .svc 0 syscallKill { SyscallArgs.zero with pid := 3 } 60]
    (false, atStart 0 0 (List.replicate 2 SyscallArgs.zero.createTask) 0)

private theorem accountingRun_isSome : accountingRun.isSome := by decide +kernel

theorem reachable_accounted_example :
    ∃ system : System, system.Reachable System.Legal ∧ system.live = {1, 2} ∧ system.Accounted := by
  obtain ⟨system, reached, -, live⟩ := reachedBy_of_run System.Legal 0 0 _ 0
    (fun _ _ _ _ good legal => ⟨(legal_iff good).mpr legal, (legal_iff good).mpr legal⟩)
    (by decide) (Option.some_get accountingRun_isSome).symm
  exact ⟨system, reached.reachable, live.trans (by decide +kernel),
    reachable_accounted system reached.reachable⟩

end Example

end Gkrtos
