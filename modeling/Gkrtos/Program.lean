import Gkrtos.ReleaseTimes

/-! The program of `program.c` with the spin task: two tasks that blink an LED each, one
by sleeping in a loop and one by running at a frequency. Its `main` and its functions
are put on the board here, where they make legal system calls only, so that no handler
faults under them. -/
namespace Gkrtos
open KernelRefinement Board

/-! ## `program.c` and the spin task -/

/-- Where the linker has put functions and stacks. -/
structure Image where
  spinTask : Word
  spinTaskStack : Word
  blink : Word
  blinkStack : Word
  blink2 : Word
  blink2Stack : Word
  spin_ne_blink : spinTask ≠ blink
  spin_ne_blink2 : spinTask ≠ blink2
  blink_ne_blink2 : blink ≠ blink2

/-- The LEDs, at `PICO_DEFAULT_LED_PIN` and `LED2_PIN`. -/
inductive Pin where
  | default
  | led2
  deriving DecidableEq, Repr

/-- A call of `gpio_put`. -/
structure Put where
  pin : Pin
  value : Bool
  time : AbsoluteTime
  deriving DecidableEq, Repr

/-- `led2_state`, and what was put out, in order. -/
structure Leds where
  led2State : Bool
  puts : List Put

/-- Where the code of a function is. -/
inductive Code where
  /-- `gkrtos_internal_spin_task`, at the beginning of its loop -/
  | spin
  /-- `blink`, before it puts out this value -/
  | blink (value : Bool)
  /-- `blink`, before it sleeps with this value put out -/
  | wait (value : Bool)
  | blink2
  deriving DecidableEq, Repr

/-- Both LEDs as `main` has switched them on. -/
def Leds.switchedOn (time time' : AbsoluteTime) : Leds :=
  ⟨false, [⟨.default, true, time⟩, ⟨.led2, true, time'⟩]⟩

/-- `gpio_put` -/
def Leds.put (leds : Leds) (pin : Pin) (value : Bool) (time : AbsoluteTime) : Leds :=
  { leds with puts := leds.puts ++ [⟨pin, value, time⟩] }

def Image.enter (image : Image) (function : Word) (_ : Pid) : Code :=
  if function = image.blink then .blink true
  else if function = image.blink2 then .blink2
  else .spin

section Program

variable [PicoSdk]

def Code.move (code : Code) (time : AbsoluteTime) (leds : Leds) : Move Code × Leds :=
  match code with
  | .spin => (.call syscallYield .zero fun _ => .spin, leds)
  | .blink value => (.compute (.wait value), leds.put .default value time)
  | .wait value =>
    (.call syscallSleepUntil (sleepUntilArgs (PicoSdk.makeTimeoutTimeMs time 500)) fun _ => .blink !value, leds)
  | .blink2 => (.finish, { leds with led2State := !leds.led2State }.put .led2 (!leds.led2State) time)

def Image.functions (image : Image) : Functions Code Leds := ⟨image.enter, Code.move⟩

/-- The tasks that `main` creates. -/
def Image.tasks (image : Image) : List CreateTaskArgs :=
  [⟨taskingPriorityUserBase, image.blink, image.blinkStack, 0⟩,
    ⟨taskingPriorityUserBase, image.blink2, image.blink2Stack, 1⟩]

/-- The board when `main` has called `gkrtos_start`, after `gpio_put` at both pins. -/
structure Image.Started [Malloc] (image : Image) (board : Board Code Leds) : Prop where
  launched : ∃ pids, launch image.spinTask image.spinTaskStack image.tasks board.now Kernel.initial =
    .ok pids board.system.kernel ∧ board.system.live = insert 1 (pids.map BitVec.toNat).toFinset
  threads : ∀ pid, board.threads pid = .fresh
  leds : ∃ time time', time ≤ time' ∧ time' ≤ board.now ∧ board.globals = .switchedOn time time'

theorem Image.Started.board [Malloc] {image : Image} {board : Board Code Leds}
    (started : image.Started board) : Board.Started board := by
  obtain ⟨⟨pids, launched, live⟩, threads, -⟩ := started
  exact ⟨⟨image.spinTask, image.spinTaskStack, image.tasks, pids, by simp [tasks, configMaxTasks],
    launched, live⟩, threads⟩

end Program

/-! ## What the threads do -/

/-- The places one of the threads can be at, and the only system call it makes. -/
structure Role where
  place : Place Code → Prop
  number : Word

def Role.Plays (role : Role) : Thread Code → Prop
  | .running place => role.place place
  | .calls number _ next => number = role.number ∧ ∀ result, role.place (next result)
  | .inCall number _ place => number = role.number ∧ role.place place

/-- Places of the thread that runs the spin task. -/
inductive SpinPlace : Place Code → Prop where
  | entered : SpinPlace (.runner .entered)
  | spin : SpinPlace (.function .inOnlyCall .spin)

inductive BlinkPlace : Place Code → Prop where
  | entered : BlinkPlace (.runner .entered)
  | blink (value : Bool) : BlinkPlace (.function .inOnlyCall (.blink value))
  | wait (value : Bool) : BlinkPlace (.function .inOnlyCall (.wait value))

/-- Places of the thread that runs `blink2`, which is in the loop of the runner. -/
inductive Blink2Place : Place Code → Prop where
  | entered : Blink2Place (.runner .entered)
  | looping (nextRun : AbsoluteTime) : Blink2Place (.runner (.looping nextRun))
  | blink2 (nextRun : AbsoluteTime) : Blink2Place (.function (.inFunction nextRun) .blink2)
  | sleeping (nextRun : AbsoluteTime) : Blink2Place (.runner (.sleeping nextRun))

/-- Pids are handed out in the order of creation. -/
def role : Pid → Role
  | 1 => ⟨SpinPlace, syscallYield⟩
  | 2 => ⟨BlinkPlace, syscallSleepUntil⟩
  | _ => ⟨Blink2Place, syscallSleepUntil⟩

/-- The tasks of the program. -/
def programTasks : Finset Pid := {1, 2, 3}

/-- What they are created with. -/
def Image.args (image : Image) : Pid → CreateTaskArgs
  | 1 => ⟨taskingPriorityUserBase, image.spinTask, image.spinTaskStack, 0⟩
  | 2 => ⟨taskingPriorityUserBase, image.blink, image.blinkStack, 0⟩
  | _ => ⟨taskingPriorityUserBase, image.blink2, image.blink2Stack, 1⟩

section Roles

variable [PicoSdk] {image : Image} {task : Task} {time : AbsoluteTime} {leds leds' : Leds}
variable {place : Place Code} {thread : Thread Code} {event : Option RunnerEvent}

theorem spin_step (function : task.function = image.spinTask) (once : task.runFrequency = 0)
    (at_place : SpinPlace place)
    (moved : place.step image.functions task time leds = some (thread, event, leds')) :
    (role 1).Plays thread := by
  have entry : image.enter task.function task.pid = .spin := by
    rw [Image.enter, function, if_neg image.spin_ne_blink, if_neg image.spin_ne_blink2]
  cases at_place with
  | entered =>
    simp only [Place.step, taskRunnerStep, once, if_true, Thread.afterRunner_inOnlyCall,
      Image.functions, entry, Option.some.injEq, Prod.mk.injEq] at moved
    obtain ⟨rfl, -, -⟩ := moved
    exact SpinPlace.spin
  | spin =>
    simp only [Place.step, Image.functions, Code.move, Option.some.injEq, Prod.mk.injEq] at moved
    obtain ⟨rfl, -, -⟩ := moved
    exact ⟨rfl, fun _ => SpinPlace.spin⟩

theorem blink_step (function : task.function = image.blink) (once : task.runFrequency = 0)
    (at_place : BlinkPlace place)
    (moved : place.step image.functions task time leds = some (thread, event, leds')) :
    (role 2).Plays thread := by
  have entry : image.enter task.function task.pid = .blink true := by
    rw [Image.enter, function, if_pos rfl]
  cases at_place with
  | entered =>
    simp only [Place.step, taskRunnerStep, once, if_true, Thread.afterRunner_inOnlyCall,
      Image.functions, entry, Option.some.injEq, Prod.mk.injEq] at moved
    obtain ⟨rfl, -, -⟩ := moved
    exact BlinkPlace.blink true
  | blink value =>
    simp only [Place.step, Image.functions, Code.move, Option.some.injEq, Prod.mk.injEq] at moved
    obtain ⟨rfl, -, -⟩ := moved
    exact BlinkPlace.wait value
  | wait value =>
    simp only [Place.step, Image.functions, Code.move, Option.some.injEq, Prod.mk.injEq] at moved
    obtain ⟨rfl, -, -⟩ := moved
    exact ⟨rfl, fun _ => BlinkPlace.blink _⟩

theorem blink2_step (function : task.function = image.blink2) (often : 1 ≤ task.runFrequency.toNat)
    (at_place : Blink2Place place)
    (moved : place.step image.functions task time leds = some (thread, event, leds')) :
    (role 3).Plays thread := by
  have entry : image.enter task.function task.pid = .blink2 := by
    rw [Image.enter, function, if_neg image.blink_ne_blink2.symm, if_pos rfl]
  cases at_place with
  | entered =>
    simp only [Place.step, taskRunnerStep_entered often, Thread.afterRunner_looping,
      Option.some.injEq, Prod.mk.injEq] at moved
    obtain ⟨rfl, -, -⟩ := moved
    exact Blink2Place.looping time
  | looping nextRun =>
    simp only [Place.step, taskRunnerStep, Thread.afterRunner_inFunction, Image.functions,
      entry, Option.some.injEq, Prod.mk.injEq] at moved
    obtain ⟨rfl, -, -⟩ := moved
    exact Blink2Place.blink2 _
  | blink2 nextRun =>
    simp only [Place.step, Image.functions, Code.move, taskRunnerStep] at moved
    split_ifs at moved
    · simp only [Thread.afterRunner_sleeping, Option.some.injEq, Prod.mk.injEq] at moved
      obtain ⟨rfl, -, -⟩ := moved
      exact ⟨rfl, fun _ => Blink2Place.sleeping nextRun⟩
    · simp only [Thread.afterRunner_looping, Option.some.injEq, Prod.mk.injEq] at moved
      obtain ⟨rfl, -, -⟩ := moved
      exact Blink2Place.looping nextRun
  | sleeping nextRun =>
    simp only [Place.step, taskRunnerStep, Thread.afterRunner_looping, Option.some.injEq,
      Prod.mk.injEq] at moved
    obtain ⟨rfl, -, -⟩ := moved
    exact Blink2Place.looping nextRun

/-- The step lemma for the code of a thread. -/
theorem role_step {pid : Pid} (isTask : pid ∈ programTasks)
    (born : task.birth = (image.args pid).birth pid) (at_place : (role pid).place place)
    (moved : place.step image.functions task time leds = some (thread, event, leds')) :
    (role pid).Plays thread := by
  have function : task.function = (image.args pid).function := congrArg Birth.function born
  have frequency : task.runFrequency = (image.args pid).runFrequency := congrArg Birth.runFrequency born
  simp only [programTasks, Finset.mem_insert, Finset.mem_singleton] at isTask
  obtain rfl | rfl | rfl := isTask
  · exact spin_step function frequency at_place moved
  · exact blink_step function frequency at_place moved
  · exact blink2_step function (by rw [frequency]; exact Nat.le_refl 1) at_place moved

end Roles

/-! ## Legal calls only -/

namespace Scheduler

variable [PicoSdk] {live : Finset Pid} {s s' : Scheduler} {now : AbsoluteTime}

/-- A live task runs, and one is in the slot. -/
structure Occupied (live : Finset Pid) (s : Scheduler) : Prop where
  running : s.running ∈ live
  queued : s.queued ∈ live

theorem occupied_chooses (occupied : Occupied live s) (invariant : Invariant live s)
    (chooses : s.Chooses now s') : Occupied live s' := by
  have chosen := choice_live now invariant
  refine ⟨?_, ?_⟩
  · rw [chooses.running]
    exact occupied.running
  · rw [chooses.queued, invariant.pid chosen]
    exact chosen

/-- As long as nobody is killed. -/
theorem occupied_step {action : Action} (occupied : Occupied live s) (invariant : Invariant live s)
    (legal : s.Legal live action) (spares : live ⊆ s.liveAfter live action) :
    Occupied (s.liveAfter live action) (s.step action) := by
  have good := invariant.of_record [] s.requested s.taken
  have cleared : Occupied live { s with trace := [] } := ⟨occupied.running, occupied.queued⟩
  have effect := step_effect invariant legal
  generalize s.liveAfter live action = live', s.step action = s' at effect spares ⊢
  cases effect with
  | idle => exact cleared
  | yield _ now => exact occupied_chooses cleared good (yield_chooses _ now)
  | createTask stackptr args now room =>
    obtain ⟨-, running, queued, -⟩ :=
      createTask_fields { s with trace := [] } args.createTask args.itemsAsTasks
    refine ⟨?_, ?_⟩
    · rw [running]
      exact Finset.mem_insert_of_mem occupied.running
    · rw [queued]
      exact Finset.mem_insert_of_mem occupied.queued
  | sleepUntil stackptr args now alive notSpin =>
    obtain ⟨-, running, queued, -⟩ :=
      postpone_fields { s with trace := [] } s.running args.milliseconds args.itemsAsTasks
    have postponed := invariant_postpone args.milliseconds args.itemsAsTasks good alive notSpin
    refine occupied_chooses ⟨?_, ?_⟩ postponed (yield_chooses _ now)
    · rw [running]
      exact occupied.running
    · rw [queued]
      exact occupied.queued
  | kill _ victim now alive notSpin => exact absurd (spares alive) (Finset.notMem_erase victim live)
  | takePendsv => exact ⟨occupied.running, occupied.queued⟩
  | pendsv stackptr now now' =>
    show Occupied live { ({ s with trace := [] } : Scheduler).pendsv stackptr now now' with taken := false }
    unfold pendsv
    split_ifs
    · exact ⟨occupied.running, occupied.queued⟩
    · refine ⟨?_, occupied.queued⟩
      show s.pid s.queued ∈ live
      rw [invariant.pid occupied.queued]
      exact occupied.queued

end Scheduler

/-- The entries say what the tasks were created with. -/
def Image.Tasks (image : Image) (table : TaskPtr → Task) : Prop :=
  ∀ task ∈ programTasks, (table task).birth = (image.args task).birth task

/-- What holds of the board throughout. -/
structure Image.Kept (image : Image) (board : Board Code Leds) : Prop where
  live : board.system.live = programTasks
  created : ∀ task ∈ programTasks, task < board.system.kernel.currentMaxPid
  tasks : image.Tasks board.system.kernel.taskList
  plays : ∀ task ∈ programTasks, (role task).Plays (board.threads task)
  running : board.system.kernel.running ∈ programTasks

section Kept

variable [PicoSdk] [Malloc] {image : Image} {board board' : Board Code Leds} {mask : InterruptMask}
variable {s : Scheduler} {event : Option (Pid × RunnerEvent)} {events : List (Pid × RunnerEvent)}

omit [Malloc] in
/-- What the program starts with. -/
theorem atStart_tasks (image : Image) (now : AbsoluteTime) :
    (atStart image.spinTask image.spinTaskStack image.tasks now).1 = programTasks ∧
      (atStart image.spinTask image.spinTaskStack image.tasks now).2.maxPid = 4 ∧
      image.Tasks (atStart image.spinTask image.spinTaskStack image.tasks now).2.table := by
  refine ⟨?_, rfl, fun task isTask => ?_⟩
  · show insert 3 (insert 2 {1}) = ({1, 2, 3} : Finset Pid)
    decide
  · simp only [programTasks, Finset.mem_insert, Finset.mem_singleton] at isTask
    obtain rfl | rfl | rfl := isTask
    · rfl
    · rfl
    · rfl

theorem kept_started (started : image.Started board) :
    image.Kept board ∧ ∃ s, Good false board.system s ∧ s.Occupied board.system.live := by
  obtain ⟨s, good, initial⟩ := started_good (System.started_iff.mpr ⟨_, started.board.system⟩)
  obtain ⟨⟨pids, launched, alive⟩, threads, -⟩ := started
  obtain ⟨pids', kernel, launched', outside, live⟩ := launch_returns image.spinTask image.spinTaskStack
    image.tasks board.now (by simp [Image.tasks, configMaxTasks])
  obtain ⟨rfl, rfl⟩ := EStateM.Result.ok.inj (launched.symm.trans launched')
  obtain ⟨fromStart, maxPid, tasks⟩ := atStart_tasks image board.now
  have counter : board.system.kernel.currentMaxPid = _ := congrArg Scheduler.maxPid outside.shows
  have table : board.system.kernel.taskList = _ := congrArg Scheduler.table outside.shows
  have spin := initial.invariant.spin
  have occupied : s.Occupied board.system.live :=
    ⟨by rwa [initial.running], by rwa [initial.queued]⟩
  have all := alive.trans (live.trans fromStart)
  refine ⟨⟨all, fun task isTask => ?_, table ▸ tasks, fun task isTask => ?_, ?_⟩, s, good, occupied⟩
  · rw [counter, maxPid]
    revert task isTask
    decide
  · rw [threads]
    simp only [programTasks, Finset.mem_insert, Finset.mem_singleton] at isTask
    obtain rfl | rfl | rfl := isTask
    · exact SpinPlace.entered
    · exact BlinkPlace.entered
    · exact Blink2Place.entered
  · rw [good.running, ← all]
    exact occupied.running

omit [PicoSdk] [Malloc] in
/-- The spin task yields and the others sleep. -/
theorem Image.Kept.legal (kept : image.Kept board) {number : Word} {args : SyscallArgs}
    {next : Word → Place Code} (calls : board.current = .calls number args next) (stackptr : Word)
    (args' : SyscallArgs) (now : AbsoluteTime) :
    (number = syscallYield ∨ number = syscallSleepUntil) ∧
      board.system.Legal (.svc stackptr number args' now) := by
  have isTask := kept.running
  have plays := kept.plays _ isTask
  have current : board.threads board.system.kernel.running = _ := calls
  have caller : board.system.kernel.running ∈ board.system.live := kept.live ▸ isTask
  rw [current] at plays
  generalize named : board.system.kernel.running = pid at *
  simp only [programTasks, Finset.mem_insert, Finset.mem_singleton] at isTask
  obtain rfl | rfl | rfl := isTask
  · exact ⟨.inl plays.1, .inl plays.1⟩
  · have notSpin : board.system.Caller := ⟨named.symm ▸ caller, by rw [named]; decide⟩
    exact ⟨.inr plays.1, .inr (.inr (.inl ⟨plays.1, notSpin⟩))⟩
  · have notSpin : board.system.Caller := ⟨named.symm ▸ caller, by rw [named]; decide⟩
    exact ⟨.inr plays.1, .inr (.inr (.inl ⟨plays.1, notSpin⟩))⟩

omit [PicoSdk] [Malloc] in
/-- A thread that goes on in its role keeps the roles. -/
theorem Image.Kept.resumed (kept : image.Kept board) {thread : Thread Code}
    (plays : (role board.system.kernel.running).Plays board.current →
      (role board.system.kernel.running).Plays thread) :
    ∀ task ∈ programTasks, (role task).Plays (board.resumeWith thread task) := by
  intro task isTask
  by_cases own : task = board.system.kernel.running
  · subst own
    rw [resumeWith_self]
    exact plays (kept.plays _ isTask)
  · rw [resumeWith_other thread own]
    exact kept.plays task isTask

/-- What a handler does to the three tasks. -/
theorem Image.Kept.handled {action : Action} {system : System} (kept : image.Kept board)
    (good : Good mask board.system s) (occupied : s.Occupied board.system.live)
    (permitted : board.system.Permitted action) (stepped : board.system.step action = some system)
    (spares : s.liveAfter board.system.live action = board.system.live) :
    ∃ mask' s', Good mask' system s' ∧ s'.Occupied system.live ∧ system.live = programTasks ∧
      system.kernel.running ∈ programTasks := by
  obtain ⟨good', live⟩ := good_step good permitted.1 stepped
  have occupied' := Scheduler.occupied_step occupied good.invariant ((legal_iff good).mp permitted.1)
    spares.ge
  rw [← live] at occupied'
  have all := live.trans (spares.trans kept.live)
  refine ⟨_, _, good', occupied', all, ?_⟩
  rw [good'.running, ← all]
  exact occupied'.running

/-- The step lemma. -/
theorem kept_step (kept : image.Kept board) (good : Good mask board.system s)
    (occupied : s.Occupied board.system.live) (step : Step image.functions board event board') :
    image.Kept board' ∧ ∃ mask' s', Good mask' board'.system s' ∧ s'.Occupied board'.system.live := by
  have births : ∀ task ∈ programTasks, task < board'.system.kernel.currentMaxPid ∧
      (board'.system.kernel.taskList task).birth = (image.args task).birth task := by
    intro task isTask
    obtain ⟨created, born⟩ := birth_step good step (kept.created task isTask)
    exact ⟨created, born.trans (kept.tasks task isTask)⟩
  have created := fun task isTask => (births task isTask).1
  have tasks : image.Tasks board'.system.kernel.taskList := fun task isTask => (births task isTask).2
  cases step with
  | @interrupt action system next interrupts permitted ordered stepped =>
    have spares : s.liveAfter board.system.live action = board.system.live := by
      cases action with
      | svc stackptr number args now => exact absurd interrupts id
      | _ => rfl
    obtain ⟨mask', s', good', occupied', live, running⟩ :=
      kept.handled good occupied permitted stepped spares
    exact ⟨⟨live, created, tasks, kept.plays, running⟩, mask', s', good', occupied'⟩
  | @code place time thread event globals runs at_place later moved =>
    refine ⟨⟨kept.live, created, tasks, kept.resumed fun plays => ?_, kept.running⟩, mask, s, good,
      occupied⟩
    rw [at_place] at plays
    exact role_step kept.running (kept.tasks _ kept.running) plays moved
  | @svc stackptr number args read now next place system value calls permitted ordered stepped =>
    have legal := kept.legal calls stackptr args now
    have spares : s.liveAfter board.system.live
        (.svc stackptr number { args with itemsAsTasks := read } now) = board.system.live := by
      obtain ⟨rfl | rfl, -⟩ := legal
      · rfl
      · rfl
    obtain ⟨mask', s', good', occupied', live, running⟩ :=
      kept.handled good occupied permitted stepped spares
    refine ⟨⟨live, created, tasks, kept.resumed fun plays => ?_, running⟩, mask', s', good', occupied'⟩
    rw [calls] at plays
    exact ⟨plays.1, plays.2 value⟩
  | @returns number args place time runs called later =>
    refine ⟨⟨kept.live, created, tasks, kept.resumed fun plays => ?_, kept.running⟩, mask, s, good,
      occupied⟩
    rw [called] at plays
    exact plays.2

/-- The run lemma. -/
theorem kept_run {started : Board Code Leds} (isStarted : image.Started started)
    (run : Runs image.functions started events board) :
    image.Kept board ∧ ∃ mask s, Good mask board.system s := by
  obtain ⟨kept, s, good, occupied⟩ := kept_started isStarted
  obtain ⟨mask', s', good', kept', -⟩ := runs_induction
    (fun _ s board _ => image.Kept board ∧ s.Occupied board.system.live)
    (fun good ⟨kept, occupied⟩ step => by
      obtain ⟨kept', mask', s', good', occupied'⟩ := kept_step kept good occupied step
      exact ⟨mask', s', good', kept', occupied'⟩)
    good ⟨kept, occupied⟩ run
  exact ⟨kept', mask', s', good'⟩

/-! ## Where the program stops -/

omit [Malloc] in
/-- Only the runner of a dead task does not go on. -/
theorem place_goes_on {functions : Functions Code Leds} {place : Place Code}
    (alive : place ≠ .runner .dead) (task : Task) (time : AbsoluteTime) (leds : Leds) :
    ∃ moved, place.step functions task time leds = some moved := by
  cases place with
  | runner state =>
    cases state with
    | dead => exact absurd rfl alive
    | _ => exact ⟨_, rfl⟩
  | function state code =>
    simp only [Place.step]
    split
    · exact ⟨_, rfl⟩
    · exact ⟨_, rfl⟩
    · exact ⟨_, rfl⟩

omit [PicoSdk] [Malloc] in
theorem role_alive {pid : Pid} {place : Place Code} (isTask : pid ∈ programTasks)
    (at_place : (role pid).place place) : place ≠ .runner .dead := by
  rintro rfl
  simp only [programTasks, Finset.mem_insert, Finset.mem_singleton] at isTask
  obtain rfl | rfl | rfl := isTask <;> cases at_place

/-- The running thread has come to an `svc` while interrupts are disabled. The hardware
does not take the exception but goes over to HardFault. -/
def Escalates (board : Board Code Leds) : Prop :=
  board.system.kernel.primask = true ∧ board.system.kernel.pendsvActive = false ∧
    ∃ number args next, board.current = .calls number args next

theorem Image.Kept.stuck_iff (kept : image.Kept board) (good : Good mask board.system s) :
    (∀ event board', ¬ Step image.functions board event board') ↔ Escalates board := by
  constructor
  · intro stuck
    have interrupted (action : Action) (interrupts : action.Interrupts)
        (permitted : board.system.Permitted action)
        (now : ∀ time ∈ action.times, time = board.now) : False := by
      obtain ⟨system, stepped, -⟩ := step_simulates good permitted.1
      have ordered : board.Ordered action.times board.now :=
        ⟨fun time read => (now time read) ▸ UInt64.le_refl _, UInt64.le_refl _⟩
      exact stuck none _ (.interrupt interrupts permitted ordered stepped)
    have idle : board.system.kernel.pendsvActive = false := by
      refine Bool.eq_false_iff.mpr fun active => ?_
      exact interrupted (.pendsv 0 board.now board.now) trivial ⟨trivial, active⟩
        (by simp [Action.times])
    have masked : board.system.kernel.primask = true := by
      refine Bool.eq_true_of_not_eq_false fun enabled => ?_
      have mayTake : board.system.MayTake (.systick 0 board.now board.now board.now) :=
        (mayTake_iff good).mpr (good.outside.mask.symm.trans enabled)
      exact interrupted (.systick 0 board.now board.now board.now) trivial ⟨trivial, mayTake⟩
        (by simp [Action.times])
    have runs : board.system.ThreadRuns := ⟨idle, .inr masked⟩
    have plays := kept.plays _ kept.running
    refine ⟨masked, idle, ?_⟩
    cases current : board.current with
    | running place =>
      have at_place : board.threads board.system.kernel.running = .running place := current
      rw [at_place] at plays
      obtain ⟨⟨thread, event, leds⟩, moved⟩ :=
        place_goes_on (role_alive kept.running plays) board.currentTask board.now board.globals
      exact absurd (.code runs current (UInt64.le_refl _) moved) (stuck _ _)
    | calls number args next => exact ⟨number, args, next, rfl⟩
    | inCall number args place =>
      exact absurd (.returns runs current (UInt64.le_refl _)) (stuck _ _)
  · rintro ⟨masked, idle, number, args, next, calls⟩ event board' step
    cases step with
    | @interrupt action system next' interrupts permitted ordered stepped =>
      have mayTake := permitted.2
      cases action with
      | svc stackptr number args now => exact interrupts
      | systick stackptr now now' now'' => exact absurd (mayTake.1.symm.trans masked) Bool.false_ne_true
      | takePendsv => exact absurd (mayTake.1.symm.trans masked) Bool.false_ne_true
      | pendsv stackptr now now' => exact absurd (idle.symm.trans mayTake) Bool.false_ne_true
    | code runs at_place later moved => cases calls.symm.trans at_place
    | svc calls' permitted ordered stepped =>
      exact absurd (permitted.2.1.symm.trans masked) Bool.false_ne_true
    | returns runs called later => cases calls.symm.trans called

/-- Under the program no handler faults: whatever exception comes in, its handler returns,
and so does the one for every system call that a task comes to make. The three tasks stay
alive, and one of them has the core. The program stops in one way only: interrupts were
left disabled, and the running task comes to its next system call. -/
theorem program_stops_iff {started : Board Code Leds} (isStarted : image.Started started)
    (run : Runs image.functions started events board) :
    (∀ action : Action, action.Interrupts → (board.system.step action).isSome) ∧
    (∀ number args next, board.current = .calls number args next →
      ∀ stackptr args' now, (board.system.step (.svc stackptr number args' now)).isSome) ∧
    (board.system.live = {1, 2, 3} ∧ board.system.kernel.running ∈ board.system.live) ∧
    ((∀ event board', ¬ Step image.functions board event board') ↔ Escalates board) := by
  obtain ⟨kept, mask, s, good⟩ := kept_run isStarted run
  have returns : ∀ {action}, board.system.Legal action → (board.system.step action).isSome := by
    intro action legal
    obtain ⟨next, stepped, -⟩ := step_simulates good legal
    rw [stepped]
    rfl
  refine ⟨fun action interrupts => returns ?_, fun number args next calls stackptr args' now =>
    returns (kept.legal calls stackptr args' now).2, ⟨kept.live, kept.live ▸ kept.running⟩,
    kept.stuck_iff good⟩
  cases action with
  | svc stackptr number args now => exact absurd interrupts id
  | _ => trivial

/-- The sketch of the board when `main` has called `gkrtos_start`, all in no time. -/
def Image.sketch (image : Image) (now : AbsoluteTime) : Sketch Code Leds :=
  .initial image.spinTask image.spinTaskStack image.tasks now (.switchedOn now now)

theorem exists_program (image : Image) (now : AbsoluteTime) : ∃ board : Board Code Leds,
    image.Started board ∧ (image.sketch now).Of image.functions board board := by
  obtain ⟨pids, kernel, launched, outside, live⟩ := launch_returns image.spinTask image.spinTaskStack
    image.tasks now (by simp [Image.tasks, configMaxTasks])
  have few : image.tasks.length + 1 < configMaxTasks := by simp [Image.tasks, configMaxTasks]
  have initial := initial_atStart image.spinTask image.spinTaskStack image.tasks now few
  rw [← live] at initial
  have leds : ∃ time time', time ≤ time' ∧ time' ≤ now ∧
      Leds.switchedOn now now = .switchedOn time time' :=
    ⟨now, now, UInt64.le_refl now, UInt64.le_refl now, rfl⟩
  exact ⟨⟨⟨kernel, _⟩, now, fun _ => .fresh, _⟩, ⟨⟨pids, launched, rfl⟩, fun _ => rfl, leds⟩,
    ⟨outside, initial.invariant⟩, live, rfl, rfl, rfl, .none _⟩

end Kept

section Example

attribute [local instance] PicoSdk.reference Malloc.reference

/-- A program image. -/
def Image.sample : Image :=
  ⟨0x10000401, 0x20004000, 0x10000501, 0x20008000, 0x10000601, 0x2000c000, by decide, by decide,
    by decide⟩

/-- `blink` has fallen asleep when the spin task, held up for seven milliseconds, yields to
`blink2`. A SysTick comes in before PendSV and gives the turn back to the spin task, so that
PendSV leaves interrupts disabled, and the spin task comes to its next call. -/
private def heldUp : List Stimulus := [
  .interrupt (.systick 0 7000 7000 7000) 7000, .interrupt .takePendsv 7000,
  .interrupt (.pendsv 0 7001 7002) 7002, .interrupt (.systick 0 14000 14000 14000) 14000,
  .interrupt .takePendsv 14000, .interrupt (.pendsv 0 14001 14002) 14002, .code 14003, .code 14004,
  .code 14005, .svc 0 .zero 14006 14007 0x10000705, .interrupt .takePendsv 14007,
  .interrupt (.pendsv 0 14008 14009) 14009, .interrupt (.systick 0 21000 21000 21000) 21000,
  .interrupt .takePendsv 21000, .interrupt (.pendsv 0 21001 21002) 21002, .code 21003, .code 28003,
  .svc 0 .zero 28004 28005 0x10000705, .interrupt (.systick 0 28006 28006 28006) 28006,
  .interrupt .takePendsv 28006, .interrupt (.pendsv 0 28007 28007) 28007, .returns 28008, .code 28009]

private def stopped : Option (Sketch Code Leds) :=
  Sketch.playAll Image.sample.functions heldUp (Image.sample.sketch 0)

private theorem stopped_isSome : stopped.isSome := by decide +kernel

/-- The number that the thread is about to call. -/
private def calling : Thread Code → Option Word
  | .calls number _ _ => some number
  | _ => none

theorem program_stops_iff_example : ∃ started board : Board Code Leds, ∃ events,
    Image.sample.Started started ∧ Runs Image.sample.functions started events board ∧
      board.system.kernel.running = 1 ∧ board.system.live = {1, 2, 3} ∧
      (∀ action : Action, action.Interrupts → (board.system.step action).isSome) ∧
      ∀ event board', ¬ Step Image.sample.functions board event board' := by
  obtain ⟨started, isStarted, of⟩ := exists_program Image.sample 0
  obtain ⟨board, of'⟩ := of.playsAll (Option.some_get stopped_isSome).symm
  obtain ⟨returns, -, ⟨live, -⟩, stuck⟩ := program_stops_iff isStarted of'.run
  have masked : board.system.kernel.primask = true := of'.good.outside.mask.trans (by decide +kernel)
  have idle : board.system.kernel.pendsvActive = false := by
    have taken := congrArg Scheduler.taken of'.good.outside.shows
    exact taken.trans (by decide +kernel)
  have calls : calling board.current = some syscallYield := by
    rw [of'.current rfl]
    decide +kernel
  have escalates : Escalates board := by
    refine ⟨masked, idle, ?_⟩
    cases current : board.current with
    | calls number args next => exact ⟨number, args, next, rfl⟩
    | _ => simp [current, calling] at calls
  exact ⟨started, board, _, isStarted, of'.run, of'.good.running.trans (by decide +kernel), live,
    returns, stuck.mpr escalates⟩

end Example

end Gkrtos
