import Gkrtos.QueueMembership

/-! What holds of the scheduler in every state a run can reach. Tasks are
numbered in the order of their creation, the live ones are queued, and the spin
task stays in the ring, so that there is always a task to run. Each operation
keeps this, a kill for one task fewer and a creation for one more. -/
namespace Gkrtos.Scheduler
open ListRefinement

variable {live : Finset Pid} {s : Scheduler} {task other : TaskPtr}

/-- Pids are handed out in order, and the tasks the scheduler names have one. -/
structure Numbered (live : Finset Pid) (s : Scheduler) : Prop where
  created : ∀ task ∈ live, task < s.maxPid
  bound : s.maxPid ≤ configMaxTasks
  pids : ∀ task < s.maxPid, s.pid task = task
  fresh : ∀ task, s.maxPid ≤ task → s.deadline task = nilTime
  running : s.running < s.maxPid
  queued : s.queued < s.maxPid

/-- What every reachable state has. -/
structure Invariant (live : Finset Pid) (s : Scheduler) : Prop where
  placed : Placed live s
  numbered : Numbered live s
  spin : 1 ∈ live
  awake : s.deadline 1 = nilTime

theorem Invariant.inTable (invariant : Invariant live s) (alive : task ∈ live) :
    task < configMaxTasks :=
  Nat.lt_of_lt_of_le (invariant.numbered.created task alive) invariant.numbered.bound

theorem Invariant.pid (invariant : Invariant live s) (alive : task ∈ live) : s.pid task = task :=
  invariant.numbered.pids task (invariant.numbered.created task alive)

theorem Invariant.spin_mem_ring (invariant : Invariant live s) : 1 ∈ s.ring :=
  invariant.placed.mem_ring.mpr ⟨invariant.spin, invariant.awake⟩

/-- Numbering does not depend on the queues. -/
theorem Numbered.of_fields {s' : Scheduler} (numbered : Numbered live s)
    (table : s'.table = s.table) (maxPid : s'.maxPid = s.maxPid) (running : s'.running = s.running)
    (queued : s'.queued = s.queued) : Numbered live s' := by
  have pid : s'.pid = s.pid := by
    unfold Scheduler.pid
    rw [table]
  have deadline : s'.deadline = s.deadline := by
    unfold Scheduler.deadline
    rw [table]
  refine ⟨?_, ?_, ?_, ?_, ?_, ?_⟩
  · exact maxPid ▸ numbered.created
  · exact maxPid ▸ numbered.bound
  · exact maxPid ▸ pid ▸ numbered.pids
  · exact maxPid ▸ deadline ▸ numbered.fresh
  · exact maxPid ▸ running ▸ numbered.running
  · exact maxPid ▸ queued ▸ numbered.queued

theorem numbered_dequeue (numbered : Numbered live s) : Numbered live (s.dequeue task) := by
  obtain ⟨table, maxPid, running, queued, _⟩ := dequeue_fields s task
  exact numbered.of_fields table maxPid running queued

theorem numbered_enqueue [PicoSdk] {read : ItemsAsTasks} (numbered : Numbered live s) :
    Numbered live (s.enqueue task read) := by
  obtain ⟨table, maxPid, running, queued, _⟩ := enqueue_fields s task read
  exact numbered.of_fields table maxPid running queued

/-! ## Changes to the table -/

theorem numbered_change (f : Task → Task) (numbered : Numbered live s)
    (inTable : task < s.maxPid) (same : (f (s.table task)).pid = s.pid task) :
    Numbered live (s.change task f) := by
  refine ⟨numbered.created, numbered.bound, fun other bound => ?_, fun other bound => ?_,
    numbered.running, numbered.queued⟩
  · rw [change_pid]
    split_ifs with equal
    · subst equal
      rw [same, numbered.pids other bound]
    · exact numbered.pids other bound
  · have ne : other ≠ task := Nat.ne_of_gt (Nat.lt_of_lt_of_le inTable bound)
    rw [change_deadline, if_neg ne]
    exact numbered.fresh other bound

/-- A change that keeps pid and deadline keeps everything. -/
theorem invariant_change (f : Task → Task) (invariant : Invariant live s)
    (inTable : task < s.maxPid) (samePid : (f (s.table task)).pid = s.pid task)
    (sameTime : (f (s.table task)).nextRunTime = s.deadline task) :
    Invariant live (s.change task f) := by
  refine ⟨placed_change f invariant.placed fun _ => sameTime,
    numbered_change f invariant.numbered inTable samePid, invariant.spin, ?_⟩
  rw [change_deadline]
  split_ifs with equal
  · subst equal
    rw [sameTime, invariant.awake]
  · exact invariant.awake

theorem invariant_request (invariant : Invariant live s) (inTable : task < s.maxPid) :
    Invariant live (s.request task) := by
  obtain ⟨placed, numbered, spin, awake⟩ := invariant
  refine ⟨⟨placed.ring, placed.sleepers⟩, ⟨numbered.created, numbered.bound, numbered.pids,
    numbered.fresh, numbered.running, ?_⟩, spin, awake⟩
  rw [(request_fields s task).2.2.2.2.2.1, numbered.pids task inTable]
  exact inTable

theorem invariant_complete (invariant : Invariant live s) (alive : task ∈ live) :
    Invariant live (s.complete task) :=
  invariant_change _ invariant (invariant.numbered.created task alive) rfl rfl

theorem invariant_dequeue (invariant : Invariant live s) (alive : task ∈ live)
    (notSpin : task ≠ 1) : Invariant (live.erase task) (s.dequeue task) := by
  obtain ⟨placed, numbered, spin, awake⟩ := invariant
  have kept : Numbered live (s.dequeue task) := numbered_dequeue numbered
  refine ⟨placed_dequeue placed alive, { kept with created := ?_ },
    Finset.mem_erase.mpr ⟨Ne.symm notSpin, spin⟩, ?_⟩
  · exact fun other member => kept.created other (Finset.mem_of_mem_erase member)
  · rw [deadline, (dequeue_fields s task).1]
    exact awake

/-- Traces and the request flags are free to change. -/
theorem Invariant.of_record (invariant : Invariant live s) (trace : List Event)
    (requested taken : Bool) : Invariant live { s with trace, requested, taken } := by
  obtain ⟨⟨ring, sleepers⟩, ⟨created, bound, pids, fresh, running, queued⟩, spin, awake⟩ := invariant
  exact ⟨⟨ring, sleepers⟩, ⟨created, bound, pids, fresh, running, queued⟩, spin, awake⟩

theorem invariant_contextSwitch {stackptr : Word} {now now' : AbsoluteTime} (invariant : Invariant live s) :
    Invariant live (s.contextSwitch stackptr now now') := by
  obtain ⟨⟨ring, sleepers⟩, numbered, spin, awake⟩ := invariant
  obtain ⟨pids, deadlines⟩ := contextSwitch_pid_deadline s stackptr now now'
  refine ⟨⟨?_, ?_⟩, ⟨numbered.created, numbered.bound, ?_, ?_, ?_, numbered.queued⟩, spin, ?_⟩
  · rw [deadlines]
    exact ring
  · rw [deadlines]
    exact sleepers
  · rw [pids]
    exact numbered.pids
  · rw [deadlines]
    exact numbered.fresh
  · change s.pid s.queued < s.maxPid
    rw [numbered.pids _ numbered.queued]
    exact numbered.queued
  · rw [deadlines]
    exact awake

theorem invariant_pendsv {stackptr : Word} {now now' : AbsoluteTime} (invariant : Invariant live s) :
    Invariant live (s.pendsv stackptr now now') := by
  unfold pendsv
  split
  · exact invariant
  · exact (invariant_contextSwitch invariant).of_record _ _ _

/-! ## Choosing the next task -/

section Choice

variable [PicoSdk] (now : AbsoluteTime)

/-- The next task ends up in the ring. -/
theorem choosable_mem_ring (choosable : s.Choosable now) : s.choice now ∈ (s.select now).ring := by
  cases due : s.due now with
  | none =>
    rw [choice_idle due, select_idle due]
    obtain ⟨first, rest, shape⟩ :=
      List.exists_cons_of_ne_nil (mt (List.rotate_eq_nil_iff (n := 1)).mp (choosable due))
    simp [shape]
  | some first =>
    rw [choice_due due, select_due due]
    simp

theorem choosable_live (placed : Placed live s) (choosable : s.Choosable now) :
    s.choice now ∈ live :=
  ((placed_select now placed).mem_ring.mp (choosable_mem_ring now choosable)).1

/-- There always is a next task. -/
theorem Invariant.choosable (invariant : Invariant live s) : s.Choosable now :=
  fun _ => List.ne_nil_of_mem invariant.spin_mem_ring

theorem choice_mem_ring (invariant : Invariant live s) : s.choice now ∈ (s.select now).ring :=
  choosable_mem_ring now (invariant.choosable now)

theorem invariant_select (invariant : Invariant live s) : Invariant live (s.select now) := by
  have notDue : s.due now ≠ some 1 := by
    intro due
    have member := List.mem_of_head? (due_eq_some.mp due).1
    exact (invariant.placed.mem_sleepers.mp member).2 invariant.awake
  have numbered := invariant.numbered
  refine ⟨placed_select now invariant.placed, ⟨?_, ?_, ?_, ?_, ?_, ?_⟩, invariant.spin, ?_⟩
  · simpa using numbered.created
  · simpa using numbered.bound
  · simpa using numbered.pids
  · intro task bound
    rw [select_deadline]
    split_ifs
    · rfl
    · exact numbered.fresh task (by simpa using bound)
  · simpa using numbered.running
  · simpa using numbered.queued
  · rw [select_deadline, if_neg notDue]
    exact invariant.awake

theorem choice_live (invariant : Invariant live s) : s.choice now ∈ live :=
  choosable_live now invariant.placed (invariant.choosable now)

end Choice

/-! ## Steps -/

section Steps

variable [PicoSdk] {now now' now'' : AbsoluteTime} {read : ItemsAsTasks}

theorem invariant_yield (invariant : Invariant live s) : Invariant live (s.yield now) := by
  have selected := invariant_select now invariant
  exact invariant_request selected (selected.numbered.created _ (choice_live now invariant))

theorem placed_postpone (deadline : AbsoluteTime) (read : ItemsAsTasks) (placed : Placed live s)
    (alive : task ∈ live) : Placed live (s.postpone task deadline read) := by
  have removed := placed_dequeue placed alive
  have changed : Placed (live.erase task) ((s.dequeue task).setDeadline task deadline) :=
    placed_change _ removed fun member => absurd rfl (Finset.ne_of_mem_erase member)
  have back := placed_enqueue read changed (Finset.notMem_erase task live)
  rwa [Finset.insert_erase alive] at back

theorem invariant_postpone (deadline : AbsoluteTime) (read : ItemsAsTasks)
    (invariant : Invariant live s) (alive : task ∈ live) (notSpin : task ≠ 1) :
    Invariant live (s.postpone task deadline read) := by
  obtain ⟨placed, numbered, spin, awake⟩ := invariant
  have numberedChanged : Numbered live ((s.dequeue task).setDeadline task deadline) :=
    numbered_change _ (numbered_dequeue numbered) (by simpa using numbered.created task alive) rfl
  refine ⟨placed_postpone deadline read placed alive, numbered_enqueue numberedChanged, spin, ?_⟩
  rw [postpone, Scheduler.deadline, (enqueue_fields _ task read).1, ← Scheduler.deadline, setDeadline,
    change_deadline, if_neg (Ne.symm notSpin), Scheduler.deadline, (dequeue_fields s task).1]
  exact awake

theorem invariant_sleepUntil {deadline : AbsoluteTime} (invariant : Invariant live s)
    (alive : task ∈ live) (notSpin : task ≠ 1) :
    Invariant live (s.sleepUntil task deadline now read) :=
  invariant_yield (invariant_postpone deadline read invariant alive notSpin)

theorem invariant_kill (invariant : Invariant live s) (alive : task ∈ live) (notSpin : task ≠ 1) :
    Invariant (live.erase task) (s.kill task now) := by
  have dying := invariant_complete invariant alive
  have removed := invariant_dequeue (invariant_select now dying) alive notSpin
  refine invariant_request removed ?_
  have bound := dying.numbered.created _ (choice_live now dying)
  simpa using bound

/-- A new task is numbered next and goes into the ring, also as the first one. -/
theorem placed_createTask {args : CreateTaskArgs} (placed : Placed live s)
    (numbered : Numbered live s) : Placed (insert s.maxPid live) (s.createTask args read) := by
  have absent : s.maxPid ∉ live := fun member => Nat.lt_irrefl _ (numbered.created _ member)
  have counted : Placed live { s with maxPid := s.maxPid + 1 } := ⟨placed.ring, placed.sleepers⟩
  exact placed_enqueue read
    (placed_change (newborn s.maxPid args) counted fun member => absurd member absent) absent

theorem createTask_deadline {args : CreateTaskArgs} :
    (s.createTask args read).deadline = s.deadline := by
  have kept := change_deadline_eq { s with maxPid := s.maxPid + 1 } s.maxPid (newborn s.maxPid args) rfl
  rw [← deadline_of_table (enqueue_fields _ s.maxPid read).1] at kept
  exact kept

theorem numbered_createTask {args : CreateTaskArgs} (numbered : Numbered live s)
    (room : s.maxPid < configMaxTasks) :
    Numbered (insert s.maxPid live) (s.createTask args read) := by
  have entered : Numbered (insert s.maxPid live)
      ({ s with maxPid := s.maxPid + 1 }.change s.maxPid (newborn s.maxPid args)) := by
    refine ⟨fun task member => ?_, room, fun task bound => ?_, fun task bound => ?_,
      Nat.lt_succ_of_lt numbered.running, Nat.lt_succ_of_lt numbered.queued⟩
    · rcases Finset.mem_insert.mp member with rfl | old
      · exact Nat.lt_succ_self _
      · exact Nat.lt_succ_of_lt (numbered.created task old)
    · rw [change_pid]
      split_ifs with newest
      · exact newest.symm
      · exact numbered.pids task (Nat.lt_of_le_of_ne (Nat.le_of_lt_succ bound) newest)
    · rw [change_deadline_eq _ s.maxPid (newborn s.maxPid args) rfl]
      exact numbered.fresh task (Nat.le_of_succ_le bound)
  exact numbered_enqueue entered

omit [PicoSdk] in
/-- A new task does not sleep. -/
theorem newborn_awake {args : CreateTaskArgs} (numbered : Numbered live s) :
    ({ s with maxPid := s.maxPid + 1 }.change s.maxPid
      (newborn s.maxPid args)).deadline s.maxPid = nilTime := by
  rw [change_deadline_eq _ s.maxPid (newborn s.maxPid args) rfl]
  exact numbered.fresh s.maxPid (Nat.le_refl _)

theorem createTask_sleepers {args : CreateTaskArgs} (numbered : Numbered live s) :
    (s.createTask args read).sleepers = s.sleepers := by
  rw [createTask, enqueue_awake (newborn_awake numbered)]
  rfl

theorem invariant_createTask {args : CreateTaskArgs} (invariant : Invariant live s)
    (room : s.maxPid < configMaxTasks) :
    Invariant (insert s.maxPid live) (s.createTask args read) := by
  obtain ⟨placed, numbered, spin, awake⟩ := invariant
  refine ⟨placed_createTask placed numbered, numbered_createTask numbered room,
    Finset.mem_insert_of_mem spin, ?_⟩
  rw [createTask_deadline]
  exact awake

/-- What a legal handler run can do, and who is alive afterwards. -/
inductive Effect (live : Finset Pid) (s : Scheduler) :
    Action → Finset Pid → Scheduler → Prop where
  /-- The SysTick does not reschedule, or there is no such system call. -/
  | idle (action : Action) : Effect live s action live s
  | yield (action : Action) (now : AbsoluteTime) : Effect live s action live (s.yield now)
  | createTask (stackptr : Word) (args : SyscallArgs) (now : AbsoluteTime)
      (room : s.maxPid < configMaxTasks) :
      Effect live s (.svc stackptr syscallCreateTask args now) (insert s.maxPid live)
        (s.createTask args.createTask args.itemsAsTasks)
  | sleepUntil (stackptr : Word) (args : SyscallArgs) (now : AbsoluteTime)
      (alive : s.running ∈ live) (notSpin : s.running ≠ 1) :
      Effect live s (.svc stackptr syscallSleepUntil args now) live
        (s.sleepUntil s.running args.milliseconds now args.itemsAsTasks)
  /-- DIE kills the caller. -/
  | kill (action : Action) (victim : Pid) (now : AbsoluteTime) (alive : victim ∈ live)
      (notSpin : victim ≠ 1) : Effect live s action (live.erase victim) (s.kill victim now)
  | takePendsv : Effect live s .takePendsv live { s with requested := false, taken := true }
  | pendsv (stackptr : Word) (now now' : AbsoluteTime) :
      Effect live s (.pendsv stackptr now now') live { s.pendsv stackptr now now' with taken := false }

theorem step_effect {action : Action} (invariant : Invariant live s)
    (legal : s.Legal live action) :
    Effect live { s with trace := [] } action (s.liveAfter live action) (s.step action) := by
  cases action with
  | svc stackptr number args now =>
    rcases legal with rfl | ⟨rfl, room⟩ | ⟨rfl, alive, notSpin⟩ | ⟨rfl, alive, notSpin⟩ |
      ⟨rfl, alive, notSpin⟩ | unknown
    · exact .yield _ now
    · exact .createTask stackptr args now room
    · exact .sleepUntil stackptr args now alive notSpin
    · have killed : Effect live { s with trace := [] } (.svc stackptr syscallDie args now)
          (live.erase s.running) ({ s with trace := [] }.kill (s.pid s.running) now) := by
        rw [invariant.pid alive]
        exact .kill _ s.running now alive notSpin
      exact killed
    · exact .kill _ args.pid now alive notSpin
    · rw [liveAfter_unknown unknown]
      show Effect live _ _ live (Scheduler.syscall _ number args now)
      rw [syscall_unknown unknown]
      exact .idle _
  | systick stackptr now now' now'' =>
    show Effect live _ _ live (Scheduler.systick _ now now' now'')
    unfold systick
    split
    · exact .yield _ now''
    · exact .idle _
  | takePendsv => exact .takePendsv
  | pendsv stackptr now now' => exact .pendsv stackptr now now'

/-- The step lemma: every legal handler run keeps the invariant. -/
theorem invariant_step {action : Action} (invariant : Invariant live s)
    (legal : s.Legal live action) : Invariant (s.liveAfter live action) (s.step action) := by
  have good := invariant.of_record [] s.requested s.taken
  have effect := step_effect invariant legal
  generalize s.liveAfter live action = live', s.step action = s' at effect ⊢
  cases effect with
  | idle => exact good
  | yield _ now => exact invariant_yield good
  | createTask stackptr args now room => exact invariant_createTask good room
  | sleepUntil stackptr args now alive notSpin => exact invariant_sleepUntil good alive notSpin
  | kill _ victim now alive notSpin => exact invariant_kill good alive notSpin
  | takePendsv => exact good.of_record _ _ _
  | pendsv stackptr now now' => exact (invariant_pendsv good).of_record _ _ _

end Steps

end Gkrtos.Scheduler
