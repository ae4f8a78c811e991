import Gkrtos.CriticalSections
import Gkrtos.Decisions
import Gkrtos.QueueIntegrity
import Gkrtos.RunTime

/-! Interrupts are disabled and enabled again around every use of the queues.
The handler of PendSV disables them itself and enables them again after a
switch, but not when it finds the running task in the slot. Then they stay
disabled. A system call alone never gets there: it asks for a switch only if it
has put another task into the slot. It takes a second decision for the same
switch, a SysTick before or in the first instructions of PendSV, that falls on
the running task, or that asks for PendSV again when it is already on its way. -/
namespace Gkrtos
open Stateful KernelRefinement CriticalSections QueueIntegrity

/-! ## Requests for a switch -/

/-- What PendSV and the requests for it go by. -/
structure SwitchRequest where
  running : Pid
  queued : Pid
  pending : Bool
  active : Bool

def Kernel.switchRequest (kernel : Kernel) : SwitchRequest :=
  ⟨kernel.running, kernel.queued, kernel.pendsvPending, kernel.pendsvActive⟩

namespace SwitchRequest

variable (r : SwitchRequest)

/-- The pid is queued, and PendSV is triggered unless the task is running. -/
def ask (pid : Pid) : SwitchRequest :=
  { r with queued := pid, pending := r.pending || r.running != pid }

/-- At most one decision has been made since, and it asked for a switch only for the sake of
another task. -/
structure Decided (r' : SwitchRequest) : Prop where
  running : r'.running = r.running
  active : r'.active = r.active
  other : r'.pending = true → r'.queued ≠ r'.running

theorem decided_ask (idle : r.pending = false) (pid : Pid) : r.Decided (r.ask pid) := by
  refine ⟨rfl, rfl, ?_⟩
  simp only [ask, idle, Bool.false_or, bne_iff_ne]
  exact Ne.symm

theorem decided_self (idle : r.pending = false) : r.Decided r :=
  ⟨rfl, rfl, fun pending => absurd (pending.symm.trans idle) (by decide)⟩

end SwitchRequest

theorem switchRequest_requesting (kernel : Kernel) (pid : Pid) :
    (kernel.requesting pid).switchRequest = kernel.switchRequest.ask pid := by
  simp [Kernel.switchRequest, SwitchRequest.ask, Kernel.requesting, Kernel.running, Kernel.queued]

/-- Outside the section with interrupts enabled. -/
structure Unmasked (holds : SwitchRequest → Prop) (kernel : Kernel) : Prop where
  free : kernel.criticalSection.held = false
  enabled : kernel.primask = false
  request : holds kernel.switchRequest

/-- In the section, which was entered with interrupts enabled. -/
structure Masked (holds : SwitchRequest → Prop) (kernel : Kernel) : Prop where
  lock : kernel.criticalSection = ⟨true, false⟩
  request : holds kernel.switchRequest

section Calls

variable [PicoSdk] {r : SwitchRequest} {holds : SwitchRequest → Prop} {task : TaskPtr}

theorem masked_enter : Yields (Unmasked holds) criticalSectionDataStructuresEnterBlocking
    (fun _ => True) (Masked holds) := by
  rintro kernel ⟨free, enabled, request⟩
  rw [enter_run free]
  exact ⟨trivial, congrArg (CriticalSection.mk true) enabled, request⟩

theorem masked_exit : Yields (Masked holds) criticalSectionDataStructuresExit
    (fun _ => True) (Unmasked holds) := by
  rintro kernel ⟨lock, request⟩
  rw [exit_run]
  exact ⟨trivial, rfl, congrArg CriticalSection.save lock, request⟩

omit [PicoSdk] in
private theorem masked_observe (event : Event) :
    Yields (Masked holds) (observe event) (fun _ => True) (Masked holds) :=
  triple_modify fun _ ⟨lock, request⟩ => ⟨lock, request⟩

omit [PicoSdk] in
private theorem masked_store (task : TaskPtr) (change : Task → Task) :
    Yields (Masked holds) (storeTask task change) (fun _ => True) (Masked holds) :=
  triple_storeTask trivial fun _ _ ⟨lock, request⟩ => ⟨lock, request⟩

omit [PicoSdk] in
private theorem unmasked_store (task : TaskPtr) (change : Task → Task) :
    Yields (Unmasked holds) (storeTask task change) (fun _ => True) (Unmasked holds) :=
  triple_storeTask trivial fun _ _ ⟨free, enabled, request⟩ => ⟨free, enabled, request⟩

variable [Malloc]

/-- Nothing but a request for a switch has to do with requests, and every use of the section leaves
interrupts enabled. -/
theorem mask_steps {asked : SwitchRequest → Prop} (asks : ∀ r pid, holds r → asked (r.ask pid))
    (idle : ∀ r, holds r → asked r) : CallSteps (fun _ => True) (Unmasked holds) (Masked holds)
      (Masked asked) (Unmasked asked) := by
  have beside : BesideLists (fun _ => True) (Masked holds) :=
    ⟨fun _ _ ⟨lock, request⟩ => ⟨lock, request⟩, fun _ _ ⟨lock, request⟩ => ⟨lock, request⟩,
      fun _ => trivial, trivial⟩
  exact {
    toQueueSteps := beside.steps
    setDeadline := fun task _ => masked_store task _
    observe := masked_observe
    enter := masked_enter
    leave := masked_exit
    request := fun kernel pid ⟨lock, request⟩ =>
      ⟨lock, switchRequest_requesting kernel pid ▸ asks _ pid request⟩
    leaveAsked := masked_exit
    mark := fun pid => unmasked_store pid _
    idle := fun _ ⟨free, enabled, request⟩ => ⟨free, enabled, idle _ request⟩ }

/-- A system call decides once. -/
theorem syscall_decides (idle : r.pending = false) (task : TaskPtr) (number : Word)
    (args : SyscallArgs) (now : AbsoluteTime) :
    Yields (Unmasked (· = r)) (internalSyscall task number args now) (fun _ => True)
      (Unmasked r.Decided) := by
  have steps : CallSteps (fun _ => True) (Unmasked (· = r)) (Masked (· = r)) (Masked r.Decided)
      (Unmasked r.Decided) := by
    apply mask_steps
    · rintro _ pid rfl
      exact SwitchRequest.decided_ask _ idle pid
    · rintro _ rfl
      exact SwitchRequest.decided_self _ idle
  have created := steps.createTask_kept unmasked_store (fun _ _ ⟨lock, request⟩ => ⟨lock, request⟩)
    args.createTask args.itemsAsTasks
  apply steps.internalSyscall
  · exact fun _ => created.imp (fun _ start => start) (fun _ fit => fit) steps.idle
  · exact fun _ => yields_taskNextTick args.pid now args.itemsAsTasks

theorem svcall_decides (idle : r.pending = false) (stackptr number : Word) (args : SyscallArgs)
    (now : AbsoluteTime) :
    Yields (Unmasked (· = r)) (svcallHandler stackptr number args now) (fun _ => True)
      (Unmasked r.Decided) :=
  triple_svcall (fun kernel start => (syscall_decides idle kernel.running number args now).at start)
    fun _ ⟨free, enabled, request⟩ => ⟨free, enabled, request⟩

/-! ## SysTick -/

/-- A task that was created is asked for by its pid. -/
theorem queueContextSwitch_asks {l : Ledger} (created : l.Created task) :
    Yields (fun kernel => Unmasked (· = r) kernel ∧ Settled l kernel) (internalQueueContextSwitch task)
      (fun _ => True) (Unmasked (· = r.ask task)) := by
  have enter : Yields (fun kernel => Unmasked (· = r) kernel ∧ Settled l kernel)
      criticalSectionDataStructuresEnterBlocking (fun _ => True)
      fun kernel => Masked (· = r) kernel ∧ Settled l kernel :=
    (masked_enter.and (settled_steps l).enter).returns_imp fun _ _ => trivial
  have request : ∀ kernel, Masked (· = r) kernel ∧ Settled l kernel → task < configMaxTasks →
      Masked (· = r.ask task) (kernel.requesting (kernel.taskList task).pid) := by
    rintro kernel ⟨⟨lock, rfl⟩, settled⟩ -
    rw [settled.pids task created]
    exact ⟨lock, switchRequest_requesting kernel task⟩
  exact triple_queueContextSwitch trivial enter request masked_exit

/-- What a choice depends on. -/
def stage (kernel : Kernel) : ListStore TaskPtr × ListPtr × ListPtr × (TaskPtr → Task) :=
  (kernel.lists, kernel.scheduledQueue, kernel.unscheduledQueue, kernel.taskList)

omit [Malloc] in
theorem turnsTo_of_stage {kernel kernel' : Kernel} (same : stage kernel' = stage kernel)
    (now : AbsoluteTime) : kernel'.TurnsTo task now ↔ kernel.TurnsTo task now := by
  simp only [stage, Prod.mk.injEq] at same
  obtain ⟨lists, scheduledQueue, unscheduledQueue, taskList⟩ := same
  simp only [Kernel.TurnsTo, Kernel.IsDue, Kernel.scheduled, Kernel.unscheduled, Kernel.nextRunTime,
    lists, scheduledQueue, unscheduledQueue, taskList]
  exact iff_of_eq (if_congr Iff.rfl rfl rfl)

omit [Malloc] in
theorem rescheduleRequired_keepsStage (now now' : AbsoluteTime) :
    Keeps (fun _ => True) stage (taskingRescheduleRequired now now') := by
  have beside : BesideSection (fun _ => True) stage := ⟨fun _ _ _ _ => rfl, trivial⟩
  intro seen
  have looks : HeadSteps (fun _ => True) (fun kernel => stage kernel = seen) fun _ => True :=
    headSteps_of_recorded trivial (fun _ => trivial) fun _ _ same => same
  exact looks.rescheduleRequired (keeps_enter beside seen) (keeps_exit beside seen) now now'

/-- A SysTick decides if it finds rescheduling required, and asks for a switch besides one that may
be pending. -/
theorem systick_decides {kernel kernel' : Kernel} {l : Ledger} {stackptr result : Word}
    {now now' now'' : AbsoluteTime} (unmasked : Unmasked (· = r) kernel) (settled : Settled l kernel)
    (running : l.Created l.running) (outside : Outside false kernel (view kernel))
    (inTable : ∀ first ∈ kernel.scheduled, first < configMaxTasks)
    (run : systickHandler stackptr now now' now'' kernel = .ok result kernel') :
    Unmasked (fun r' => ¬ kernel.RescheduleRequired now now' ∧ r' = r ∨
      kernel.RescheduleRequired now now' ∧
        ∃ next, (∀ task, kernel.TurnsTo task now'' ↔ next = task) ∧ r' = r.ask next) kernel' := by
  have runningInTable : kernel.running < configMaxTasks := by
    rw [settled.running]
    exact Nat.lt_of_lt_of_le running settled.bound
  obtain ⟨required, between, reschedule, rest⟩ := bind_ok.mp run
  obtain ⟨_, reschedule', outside₁⟩ :=
    rescheduleRequired_simulates now now' kernel _ outside ⟨runningInTable, inTable⟩
  cases reschedule.symm.trans reschedule'
  have steps : CallSteps (fun _ => True) (Unmasked (· = r)) (Masked (· = r)) (Masked fun _ => True)
      (Unmasked fun _ => True) := mask_steps (fun _ _ _ => trivial) fun _ _ => trivial
  have unmasked₁ := ((steps.rescheduleRequired steps.enter steps.leave now now').ok unmasked reschedule).2
  by_cases isRequired : (view kernel).RescheduleRequired now now'
  · rw [if_pos (decide_eq_true isRequired)] at rest
    obtain ⟨next, chosen, choose, switch⟩ := bind_ok.mp rest
    obtain ⟨_, asked, ask, returned⟩ := bind_ok.mp switch
    cases returned
    have books := settled_steps l
    have settled₁ := ((books.rescheduleRequired books.enter books.leave now now').ok settled reschedule).2
    obtain ⟨created, settled₂⟩ := (books.getNextTask now'').ok settled₁ choose
    have unmasked₂ := ((steps.getNextTask now'').ok unmasked₁ choose).2
    have unmasked₃ := ((queueContextSwitch_asks created).ok ⟨unmasked₂, settled₂⟩ ask).2
    have shows : view between = view kernel := outside₁.shows
    have outside₂ : Outside false between (view between) := shows.symm ▸ outside₁
    have sleepers : between.scheduled = kernel.scheduled := congrArg Scheduler.sleepers shows
    have turns (task : TaskPtr) : kernel.TurnsTo task now'' ↔ next = task := by
      rw [← turnsTo_of_stage ((rescheduleRequired_keepsStage now now').ok reschedule)]
      exact getNextTask_turnsTo outside₂ (sleepers.symm ▸ inTable) choose
    exact ⟨unmasked₃.free, unmasked₃.enabled, .inr ⟨isRequired, next, turns, unmasked₃.request⟩⟩
  · rw [if_neg (by simpa using isRequired)] at rest
    cases rest
    exact ⟨unmasked₁.free, unmasked₁.enabled, .inl ⟨isRequired, unmasked₁.request⟩⟩

/-! ## PendSV -/

omit [Malloc] in
/-- The mask is restored on one of the two paths. -/
theorem pendsv_leaves {kernel kernel' : Kernel} {l : Ledger} {stackptr newSp : Word}
    {now now' : AbsoluteTime} (settled : Settled l kernel) (created : l.Created l.running)
    (run : pendsvHandlerC stackptr now now' kernel = .ok newSp kernel') :
    (kernel.queued = kernel.running → kernel'.primask = true) ∧
      (kernel.queued ≠ kernel.running → kernel'.primask = kernel.primask ∧
        kernel'.queued = kernel.queued ∧ kernel'.running = kernel.queued) := by
  have inTable {task : TaskPtr} (created : l.Created task) : task < configMaxTasks :=
    Nat.lt_of_lt_of_le created settled.bound
  have running : kernel.running < configMaxTasks := settled.running ▸ inTable created
  have pid : (kernel.taskList kernel.running).pid = kernel.running :=
    settled.pids _ (settled.running ▸ created)
  have switched := settled_pendsv settled created run
  constructor
  · intro same
    rw [pendsvHandlerC_stay running (same.trans pid.symm)] at run
    cases run
    rfl
  · intro other
    have runs : kernel'.running = kernel.queued := by
      rw [switched.running, Ledger.afterPendsv, if_neg (settled.running ▸ other)]
      rfl
    have different : kernel.queued ≠ (kernel.taskList kernel.running).pid := pid.symm ▸ other
    rw [pendsvHandlerC_switch running (inTable settled.queued) different _ rfl] at run
    cases run
    exact ⟨rfl, by simp [Kernel.queued], runs⟩

end Calls

/-! ## Runs -/

section Runs

variable [PicoSdk] [Malloc] {marked : Prop} {system next : System} {action : Action}

/-- Interrupts are enabled when the handler is entered, and it leaves the mask
as it found it. -/
def System.RestoresMask (system : System) (action : Action) : Prop :=
  system.kernel.primask = false ∧
    ∀ system', system.step action = some system' → system'.kernel.primask = system.kernel.primask

/-- What any run of handlers that return keeps, whatever the system calls were. -/
structure Running (kernel : Kernel) : Prop where
  settled : ∃ l : Ledger, Settled l kernel ∧ l.Created l.running
  steady : ∃ maxPid, Steady maxPid kernel
  free : kernel.criticalSection.held = false

omit [PicoSdk] [Malloc] in
theorem Running.outside {kernel : Kernel} (running : Running kernel) (enabled : kernel.primask = false) :
    Outside false kernel.unrecorded (view kernel.unrecorded) := by
  obtain ⟨maxPid, steady⟩ := running.steady
  exact ⟨steady.sound.of_same rfl rfl rfl rfl rfl, rfl, running.free, enabled, .nil,
    fun _ member => absurd member List.not_mem_nil⟩

theorem running_step (running : Running system.kernel) (other : ¬ SchedulesNextTick action)
    (stepped : system.step action = some next) : Running next.kernel := by
  obtain ⟨result, run, -⟩ := System.step_ok stepped
  obtain ⟨l, settled, created⟩ := running.settled
  obtain ⟨maxPid, steady⟩ := running.steady
  have unrecorded : Settled l system.kernel.unrecorded := settled_of_books (by rfl) settled
  have start : Free system.kernel.unrecorded := ⟨running.free, .nil⟩
  exact ⟨settled_handle unrecorded created run, steady_handle (steady_of_layout (by rfl) steady) run,
    ((handle_leads other).ok start run).2.1⟩

theorem running_started (isStarted : system.Started) : Running system.kernel := by
  obtain ⟨start, startedAt⟩ := System.started_iff.mp isStarted
  obtain ⟨reckoned, -⟩ := reckoned_started startedAt
  obtain ⟨s, ⟨⟨sound, rfl, free, -⟩, invariant⟩, -⟩ := started_good isStarted
  exact ⟨⟨_, reckoned.settled, reckoned.charged.running⟩, ⟨_, sound, sleepers_inTable invariant, rfl⟩, free⟩

omit [PicoSdk] [Malloc] in
theorem System.Legal.other (legal : system.Legal action) : ¬ SchedulesNextTick action := by
  cases action with
  | svc stackptr number args now =>
    rintro rfl
    rcases legal with yield | ⟨createTask, -⟩ | ⟨sleepUntil, -⟩ | ⟨die, -⟩ | ⟨kill, -⟩ | unknown
    · exact absurd yield (by decide)
    · exact absurd createTask (by decide)
    · exact absurd sleepUntil (by decide)
    · exact absurd die (by decide)
    · exact absurd kill (by decide)
    · exact absurd unknown (by decide)
  | systick stackptr now now' now'' => exact id
  | takePendsv => exact id
  | pendsv stackptr now now' => exact id

/-- Whether the next PendSV has nothing to do but to go on with the running task: the last decision
before it was a SysTick that fell on the running task, or a PendSV has carried the decision out. A
system call decides only while none is pending. -/
def System.keepsRunner (system : System) (marked : Prop) : Action → Prop
  | .svc _ _ _ _ => False
  | .systick _ now now' now'' =>
    ¬ system.kernel.RescheduleRequired now now' ∧ marked ∨
      system.kernel.RescheduleRequired now now' ∧ system.kernel.TurnsTo system.kernel.running now''
  | .takePendsv => marked
  | .pendsv _ _ _ => True

/-- Interrupts are enabled, and the mark tells what PendSV will find in the slot. -/
structure Watched (marked : Prop) (system : System) : Prop where
  running : Running system.kernel
  enabled : system.kernel.primask = false
  slot : system.kernel.pendsvPending = true ∨ system.kernel.pendsvActive = true →
    (marked ↔ system.kernel.queued = system.kernel.running)

theorem restoresMask_iff (enabled : system.kernel.primask = false)
    (stepped : system.step action = some next) :
    system.RestoresMask action ↔ next.kernel.primask = false := by
  constructor
  · exact fun restores => (restores.2 next stepped).trans enabled
  · intro restored
    refine ⟨enabled, ?_⟩
    intro other stepped'
    obtain rfl : next = other := Option.some.inj (stepped.symm.trans stepped')
    exact restored.trans enabled.symm

/-- The steps that leave interrupts enabled. -/
theorem watched_stay (watched : Watched marked system) (other : ¬ SchedulesNextTick action)
    (quiet : ¬ action.Switches) (allowed : system.MayTake action)
    (stepped : system.step action = some next) :
    Watched (system.keepsRunner marked action) next := by
  have running := running_step watched.running other stepped
  obtain ⟨result, run, -⟩ := System.step_ok stepped
  have unmasked : Unmasked (· = system.kernel.switchRequest) system.kernel.unrecorded :=
    ⟨watched.running.free, watched.enabled, rfl⟩
  cases action with
  | svc stackptr number args now =>
    obtain ⟨-, idle, inactive⟩ := allowed
    obtain ⟨-, enabled, decided⟩ := ((svcall_decides idle stackptr number args now).ok unmasked run).2
    refine ⟨running, enabled, ?_⟩
    intro requested
    have pending := requested.resolve_right fun active => by
      exact Bool.false_ne_true (inactive.symm.trans (decided.active.symm.trans active))
    exact iff_of_false id (decided.other pending)
  | systick stackptr now now' now'' =>
    obtain ⟨l, settled, created⟩ := watched.running.settled
    obtain ⟨maxPid, steady⟩ := watched.running.steady
    have books : Settled l system.kernel.unrecorded := settled_of_books (by rfl) settled
    obtain ⟨-, enabled, decided⟩ := systick_decides unmasked books created
      (watched.running.outside watched.enabled) steady.sleepers run
    refine ⟨running, enabled, ?_⟩
    rcases decided with ⟨idle, same⟩ | ⟨required, chosen, turns, asked⟩
    · have unmoved : system.keepsRunner marked (.systick stackptr now now' now'') ↔ marked := by
        simp only [System.keepsRunner, show ¬ system.kernel.RescheduleRequired now now' from idle,
          not_false_eq_true, true_and, false_and, or_false]
      simp only [Kernel.switchRequest, SwitchRequest.mk.injEq] at same
      rw [unmoved, same.1, same.2.1, same.2.2.1, same.2.2.2]
      exact watched.slot
    · have moved : system.keepsRunner marked (.systick stackptr now now' now'') ↔
          chosen = system.kernel.running := by
        simp only [System.keepsRunner, show system.kernel.RescheduleRequired now now' from required,
          not_true_eq_false, false_and, true_and, false_or]
        exact turns system.kernel.running
      simp only [Kernel.switchRequest, SwitchRequest.ask, SwitchRequest.mk.injEq] at asked
      rw [moved, asked.1, asked.2.1]
      exact fun _ => Iff.rfl
  | takePendsv =>
    obtain ⟨kernel, live⟩ := next
    cases run
    exact ⟨running, watched.enabled, fun _ => watched.slot (.inl allowed.2.1)⟩
  | pendsv stackptr now now' => exact absurd trivial quiet

/-- The step lemma. -/
theorem watched_step (watched : Watched marked system)
    (allowed : system.MayTake action ∧ ¬ SchedulesNextTick action)
    (stepped : system.step action = some next) :
    (system.RestoresMask action ↔ (marked → ¬ action.Switches)) ∧
      (system.RestoresMask action → Watched (system.keepsRunner marked action) next) := by
  rw [restoresMask_iff watched.enabled stepped]
  by_cases switches : action.Switches
  · cases action with
    | pendsv stackptr now now' =>
      have running := running_step watched.running allowed.2 stepped
      obtain ⟨l, settled, created⟩ := watched.running.settled
      have books : Settled l system.kernel.unrecorded := settled_of_books (by rfl) settled
      obtain ⟨kernel, live⟩ := next
      obtain ⟨result, run, -⟩ := System.step_ok stepped
      obtain ⟨newSp, switched, handler, finish⟩ := bind_ok.mp run
      cases finish
      obtain ⟨stays, goes⟩ := pendsv_leaves books created handler
      have slot := watched.slot (.inr allowed.1)
      by_cases same : system.kernel.queued = system.kernel.running
      · have masked : switched.primask ≠ false := by simp [stays same]
        refine ⟨iff_of_false masked fun averted => averted (slot.mpr same) trivial, ?_⟩
        exact fun enabled => absurd enabled masked
      · obtain ⟨restored, queued, runs⟩ := goes same
        have enabled : switched.primask = false := restored.trans watched.enabled
        refine ⟨iff_of_true enabled fun keeps => absurd (slot.mp keeps) same, fun _ => ?_⟩
        exact ⟨running, enabled, fun _ => iff_of_true trivial (queued.trans runs.symm)⟩
    | _ => exact absurd switches id
  · have stays := watched_stay watched allowed.2 switches allowed.1 stepped
    exact ⟨iff_of_true stays.enabled fun _ => switches, fun _ => stays⟩

theorem watched_started (isStarted : system.Started) : Watched False system := by
  obtain ⟨s, good, initial⟩ := started_good isStarted
  obtain ⟨⟨sound, rfl, free, enabled, log⟩, invariant⟩ := good
  refine ⟨running_started isStarted, enabled, ?_⟩
  rintro (pending | active)
  · exact absurd (pending.symm.trans initial.requested) (by decide)
  · exact absurd (active.symm.trans initial.taken) (by decide)

/-- After such a run interrupts are enabled. -/
theorem enabled_of_restored {final : System} {actions : List Action}
    (enabled : system.kernel.primask = false)
    (run : System.Runs System.RestoresMask actions system final) :
    final.kernel.primask = false := by
  induction actions generalizing system with
  | nil =>
    obtain rfl : system = final := run
    exact enabled
  | cons action rest ih =>
    obtain ⟨⟨-, restores⟩, next, stepped, run⟩ := run
    exact ih ((restores next stepped).trans enabled) run

end Runs

/-- In every run whose handlers return, whatever the system calls are. -/
theorem mask_restored_iff [PicoSdk] [Malloc] (started final : System) (isStarted : started.Started)
    (actions : List Action)
    (run : System.Runs (fun system action => system.MayTake action ∧ ¬ SchedulesNextTick action)
      actions started final) :
    System.Runs System.RestoresMask actions started final ↔
      System.Averts System.keepsRunner False actions started :=
  runs_iff_averts Watched (fun _ _ _ _ => watched_step) (watched_started isStarted) run

section Example

attribute [local instance] PicoSdk.reference Malloc.reference

/-- The spin task yields after 7 milliseconds. A SysTick comes in before PendSV, finds
that the spin task has run for long enough, and puts the next one in the ring into the
slot. -/
private def overwritingRun : List Action := [
  .svc 0 syscallYield .zero 7000, .systick 0 7001 7001 7001, .takePendsv, .pendsv 0 7002 7002]

/-- A SysTick does not choose the running task. -/
private def movesOn (s : Scheduler) : Action → Prop
  | .systick _ _ _ now'' => s.choice now'' ≠ s.running
  | _ => True

private instance (s : Scheduler) : DecidablePred (movesOn s)
  | .systick _ _ _ _ => inferInstanceAs (Decidable (_ ≠ _))
  | .svc _ _ _ _ | .takePendsv | .pendsv _ _ _ => inferInstanceAs (Decidable True)

private theorem not_keepsRunner {mask : InterruptMask} {system : System} {s : Scheduler}
    {action : Action} (good : Good mask system s) (moves : movesOn s action) (quiet : ¬ action.Switches) :
    ¬ system.keepsRunner False action := by
  cases action with
  | svc stackptr number args now => exact id
  | systick stackptr now now' now'' =>
    rintro (⟨-, never⟩ | ⟨-, turns⟩)
    · exact never
    · exact moves (((turnsTo_choice good).mp turns).trans good.running)
  | takePendsv => exact id
  | pendsv stackptr now now' => exact absurd trivial quiet

private def moved : Option (InterruptMask × Finset Pid × Scheduler) :=
  Scheduler.run (fun mask live s action => Scheduler.Permitted mask live s action ∧ movesOn s action)
    overwritingRun (false, atStart 0 0 (List.replicate 2 SyscallArgs.zero.createTask) 0)

private theorem moved_isSome : moved.isSome := by decide +kernel

/-- With two more tasks it is the third one's turn. -/
theorem mask_restored_iff_example : ∃ started final : System, started.Started ∧
    final.kernel.running = 2 ∧ System.Runs System.RestoresMask overwritingRun started final := by
  obtain ⟨final, ⟨started, isStarted, run⟩, good, -⟩ := reachedBy_of_run
    (fun system action => system.Permitted action ∧
      (¬ action.Switches → ¬ system.keepsRunner False action)) 0 0 _ 0
    (fun mask system s action good both =>
      have legal := permitted_mirrors mask system s action good both.1
      ⟨⟨legal.1, not_keepsRunner good both.2⟩, legal.2⟩)
    (by decide) (Option.some_get moved_isSome).symm
  refine ⟨started, final, isStarted, good.running.trans (by decide +kernel), ?_⟩
  apply (mask_restored_iff started final isStarted overwritingRun
    (run.imp fun _ _ both => ⟨both.1.2, both.1.1.other⟩)).mpr
  obtain ⟨yields, asked, ask, ticks, chosen, choose, takes, taken, take, -⟩ := run
  have front : System.Runs (fun system action => ¬ system.keepsRunner False action)
      [.svc 0 syscallYield .zero 7000, .systick 0 7001 7001 7001, .takePendsv] started taken :=
    ⟨yields.2 id, asked, ask, ticks.2 id, chosen, choose, takes.2 id, taken, take, rfl⟩
  exact averts_append front ⟨False.elim, fun _ _ => trivial⟩

private def overwritten : Option (InterruptMask × Finset Pid × Scheduler) :=
  Scheduler.run Scheduler.Permitted overwritingRun (false, atStart 0 0 [SyscallArgs.zero.createTask] 0)

private theorem overwritten_isSome : overwritten.isSome := by decide +kernel

/-- With one more task it is the spin task's turn again. -/
theorem mask_left_set : ∃ (started final : System) (actions : List Action), started.Started ∧
    System.Runs (fun system action => system.MayTake action ∧ ¬ SchedulesNextTick action)
      actions started final ∧
      ¬ System.Runs System.RestoresMask actions started final := by
  obtain ⟨final, ⟨started, isStarted, run⟩, good, -⟩ := reachedBy_of_run _ 0 0 _ 0 permitted_mirrors
    (by decide) (Option.some_get overwritten_isSome).symm
  refine ⟨started, final, overwritingRun, isStarted, run.imp fun _ _ both => ⟨both.2, both.1.other⟩, ?_⟩
  intro restored
  obtain ⟨s, atFirst, -⟩ := started_good isStarted
  have enabled := enabled_of_restored atFirst.outside.mask restored
  have disabled : final.kernel.primask = true := good.outside.mask.trans (by decide +kernel)
  exact Bool.false_ne_true (enabled.symm.trans disabled)

end Example

end Gkrtos
