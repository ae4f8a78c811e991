import Mathlib.Data.List.Chain
import Gkrtos.Program

/-! What can be seen of the program from outside: how fast its LEDs blink. The task that
sleeps in a loop holds each value for half a second, but for a systick period, and the
task that runs at a frequency changes its LED once in its own period. -/
namespace Gkrtos
open KernelRefinement Board

/-- What was put out at one pin. -/
def Leds.at (leds : Leds) (pin : Pin) : List Put := leds.puts.filter fun put => put.pin = pin

/-- What the task of a pin has put out: everything but the first value, which `main`
has put out. -/
def Leds.blinks (leds : Leds) (pin : Pin) : List Put := (leds.at pin).tail

/-- `main` has put out its values. -/
def Leds.Lit (leds : Leds) : Prop := ∀ pin, leds.at pin ≠ []

section Put

variable {leds : Leds} {pin other : Pin}

theorem Leds.put_at_self (leds : Leds) (pin : Pin) (value : Bool) (time : AbsoluteTime) :
    (leds.put pin value time).at pin = leds.at pin ++ [⟨pin, value, time⟩] := by
  simp [Leds.at, Leds.put]

theorem Leds.put_at_other (leds : Leds) (different : other ≠ pin) (value : Bool)
    (time : AbsoluteTime) : (leds.put other value time).at pin = leds.at pin := by
  simp [Leds.at, Leds.put, different]

theorem Leds.Lit.toggled (lit : leds.Lit) : { leds with led2State := !leds.led2State }.Lit := lit

theorem Leds.Lit.put (lit : leds.Lit) (pin : Pin) (value : Bool) (time : AbsoluteTime) :
    (leds.put pin value time).Lit := by
  intro other
  rcases eq_or_ne pin other with rfl | different
  · rw [put_at_self]
    exact List.append_ne_nil_of_right_ne_nil _ (List.cons_ne_nil _ _)
  · rw [put_at_other leds different]
    exact lit other

theorem Leds.Lit.put_blinks (lit : leds.Lit) (pin : Pin) (value : Bool) (time : AbsoluteTime) :
    (leds.put pin value time).blinks pin = leds.blinks pin ++ [⟨pin, value, time⟩] := by
  rw [blinks, put_at_self, List.tail_append_of_ne_nil (lit pin)]
  rfl

theorem Leds.put_blinks_other (leds : Leds) (different : other ≠ pin) (value : Bool)
    (time : AbsoluteTime) : (leds.put other value time).blinks pin = leds.blinks pin := by
  rw [blinks, put_at_other leds different]
  rfl

variable [PicoSdk] [Malloc] {image : Image} {board board' : Board Code Leds}

theorem lit_started (isStarted : image.Started board) : board.globals.Lit ∧
    (∀ pin, board.globals.blinks pin = []) ∧ board.globals.led2State = false := by
  obtain ⟨-, -, time, time', -, -, leds⟩ := isStarted
  rw [leds]
  refine ⟨fun pin => ?_, fun pin => ?_, rfl⟩
  · cases pin <;> simp [Leds.at, Leds.switchedOn]
  · cases pin <;> simp [Leds.blinks, Leds.at, Leds.switchedOn]

/-- The step lemma. -/
theorem lit_step {event : Option (Pid × RunnerEvent)} (lit : board.globals.Lit)
    (step : Step image.functions board event board') : board'.globals.Lit := by
  cases step with
  | interrupt interrupts permitted ordered stepped => exact lit
  | svc calls permitted ordered stepped => exact lit
  | returns runs called later => exact lit
  | @code place time thread event globals runs at_place later moved =>
    show globals.Lit
    have moves (code : Code) : (code.move time board.globals).2.Lit := by
      cases code with
      | blink value => exact lit.put .default value time
      | blink2 => exact lit.toggled.put .led2 _ time
      | _ => exact lit
    unfold Place.step at moved
    split at moved
    · cases moved
    · cases moved
      exact lit
    · have after := moves ‹Code›
      change (image.functions.move _ time board.globals).2.Lit at after
      split at moved
      all_goals
        rename_i same
        rw [same] at after
        cases moved
        exact after

end Put

/-! ## `blink` -/

/-- The next value is the other one, and comes half a second later, but for a systick
period. -/
def HalfPeriod (earlier later : Put) : Prop :=
  later.value = (!earlier.value) ∧ earlier.time.toNat + 499000 < later.time.toNat

/-- The thread of `blink` when this is what it put out last. -/
def BlinkWaits (last : Option Put) (now : AbsoluteTime) : Thread Code → Prop
  | .running (.function .inOnlyCall (.blink value)) =>
    ∀ put ∈ last, value = (!put.value) ∧ put.time.toNat + 499000 < now.toNat
  | .running (.function .inOnlyCall (.wait value)) =>
    ∃ put ∈ last, value = put.value ∧ put.time.toNat ≤ now.toNat
  | .running (.runner .entered) => last = none
  | .calls _ args next => ∃ put ∈ last, put.time.toNat + 500000 ≤ args.milliseconds.toNat ∧
    args.milliseconds.toNat < 2 ^ 63 ∧ ∀ result, next result = .function .inOnlyCall (.blink !put.value)
  | .inCall _ args place => ∃ put ∈ last, put.time.toNat + 500000 ≤ args.milliseconds.toNat ∧
    args.milliseconds.toNat < 2 ^ 63 ∧ place = .function .inOnlyCall (.blink !put.value)
  | _ => False

theorem BlinkWaits.mono {last : Option Put} {now later : AbsoluteTime} {thread : Thread Code}
    (waits : BlinkWaits last now thread) (le : now.toNat ≤ later.toNat) :
    BlinkWaits last later thread := by
  unfold BlinkWaits at waits ⊢
  split at waits
  · exact fun put member => ⟨(waits put member).1, Nat.lt_of_lt_of_le (waits put member).2 le⟩
  · obtain ⟨put, member, value, time⟩ := waits
    exact ⟨put, member, value, Nat.le_trans time le⟩
  · exact waits
  · exact waits
  · exact waits
  · exact absurd waits id

/-- Every value so far was held long enough, and the next one will be. -/
structure Blinks (board : Board Code Leds) : Prop where
  held : (board.globals.blinks .default).IsChain HalfPeriod
  waits : BlinkWaits (board.globals.blinks .default).getLast? board.now (board.threads 2)

section Blink

variable [PicoSdk] {image : Image} {task : Task} {now time : AbsoluteTime} {leds leds' : Leds}
variable {place : Place Code} {thread : Thread Code} {event : Option RunnerEvent}

/-- The step lemma for the code of `blink`. The clock does not come near the end of
time. -/
theorem blink_waits (function : task.function = image.blink) (once : task.runFrequency = 0)
    (at_place : BlinkPlace place) (lit : leds.Lit) (held : (leds.blinks .default).IsChain HalfPeriod)
    (waits : BlinkWaits (leds.blinks .default).getLast? now (.running place)) (le : now.toNat ≤ time.toNat)
    (bounded : time.toNat + 500000 < 2 ^ 63)
    (moved : place.step image.functions task time leds = some (thread, event, leds')) :
    (leds'.blinks .default).IsChain HalfPeriod ∧
      BlinkWaits (leds'.blinks .default).getLast? time thread := by
  have entry : image.enter task.function task.pid = .blink true := by
    rw [Image.enter, function, if_pos rfl]
  cases at_place with
  | entered =>
    simp only [Place.step, taskRunnerStep, once, if_true, Thread.afterRunner_inOnlyCall,
      Image.functions, entry, Option.some.injEq, Prod.mk.injEq] at moved
    obtain ⟨rfl, -, rfl⟩ := moved
    have nothing : (leds.blinks .default).getLast? = none := waits
    refine ⟨held, fun put member => ?_⟩
    rw [nothing] at member
    cases member
  | blink value =>
    simp only [Place.step, Image.functions, Code.move, Option.some.injEq, Prod.mk.injEq] at moved
    obtain ⟨rfl, -, rfl⟩ := moved
    rw [lit.put_blinks]
    constructor
    · refine List.isChain_append.mpr ⟨held, .singleton _, fun put member next isNext => ?_⟩
      obtain rfl := Option.some.inj isNext
      obtain ⟨other, long⟩ := waits put member
      exact ⟨other, Nat.lt_of_lt_of_le long le⟩
    · refine ⟨⟨.default, value, time⟩, ?_, rfl, Nat.le_refl _⟩
      rw [List.getLast?_concat]
      rfl
  | wait value =>
    simp only [Place.step, Image.functions, Code.move, Option.some.injEq, Prod.mk.injEq] at moved
    obtain ⟨rfl, -, rfl⟩ := moved
    obtain ⟨put, member, rfl, earlier⟩ := waits
    have timeout : (PicoSdk.makeTimeoutTimeMs time 500).toNat = time.toNat + 500000 :=
      PicoSdk.makeTimeoutTimeMs_toNat time 500 bounded
    refine ⟨held, put, member, ?_, ?_, fun _ => rfl⟩
    · show put.time.toNat + 500000 ≤ (PicoSdk.makeTimeoutTimeMs time 500).toNat
      omega
    · show (PicoSdk.makeTimeoutTimeMs time 500).toNat < 2 ^ 63
      omega

/-- The other threads leave the pin alone. -/
theorem others_leave {pid : Pid} (isTask : pid ∈ programTasks) (other : pid ≠ 2)
    (at_place : (role pid).place place)
    (moved : place.step image.functions task time leds = some (thread, event, leds')) :
    leds'.blinks .default = leds.blinks .default := by
  simp only [programTasks, Finset.mem_insert, Finset.mem_singleton] at isTask
  obtain rfl | rfl | rfl := isTask
  · cases at_place with
    | entered =>
      simp only [Place.step, Option.some.injEq, Prod.mk.injEq] at moved
      rw [← moved.2.2]
    | spin =>
      simp only [Place.step, Image.functions, Code.move, Option.some.injEq, Prod.mk.injEq] at moved
      rw [← moved.2.2]
  · exact absurd rfl other
  · cases at_place with
    | blink2 nextRun =>
      simp only [Place.step, Image.functions, Code.move, Option.some.injEq, Prod.mk.injEq] at moved
      rw [← moved.2.2, Leds.put_blinks_other _ (by decide)]
      rfl
    | _ =>
      simp only [Place.step, Option.some.injEq, Prod.mk.injEq] at moved
      rw [← moved.2.2]

end Blink

section Kept

variable [PicoSdk] [Malloc] {image : Image} {board board' started : Board Code Leds}
variable {mask : InterruptMask} {s : Scheduler} {event : Option (Pid × RunnerEvent)}
variable {events : List (Pid × RunnerEvent)}

/-- The step lemma. -/
theorem blinks_step (kept : image.Kept board) (lit : board.globals.Lit) (good : Good mask board.system s)
    (rests : SleepersRest mask s board) (blinks : Blinks board)
    (step : Step image.functions board event board') (bounded : board'.now.toNat + 500000 < 2 ^ 63) :
    Blinks board' := by
  have later := UInt64.le_iff_toNat_le.mp (step_later step)
  obtain ⟨held, waits⟩ := blinks
  -- Of a thread that waits as before nothing has to be shown.
  have other : ∀ {thread : Thread Code}, board.system.kernel.running ≠ 2 →
      BlinkWaits (board.globals.blinks .default).getLast? board'.now (board.resumeWith thread 2) := by
    intro thread different
    rw [resumeWith_other thread (Ne.symm different)]
    exact waits.mono later
  cases step with
  | @interrupt action system next interrupts permitted ordered stepped => exact ⟨held, waits.mono later⟩
  | @code place time thread event globals runs at_place later' moved =>
    have plays := kept.plays _ kept.running
    have current : board.threads board.system.kernel.running = _ := at_place
    rw [current] at plays
    by_cases own : board.system.kernel.running = 2
    · have born := kept.tasks _ kept.running
      rw [own] at plays born current
      rw [current] at waits
      have task : board.currentTask = board.system.kernel.taskList 2 := congrArg _ own
      rw [task] at moved
      have next := blink_waits (congrArg Birth.function born) (congrArg Birth.runFrequency born) plays lit
        held waits later bounded moved
      refine ⟨next.1, ?_⟩
      show BlinkWaits _ _ (board.resumeWith thread 2)
      rw [← own, resumeWith_self]
      exact next.2
    · have same := others_leave kept.running own plays moved
      refine ⟨same ▸ held, ?_⟩
      show BlinkWaits (globals.blinks .default).getLast? _ _
      rw [same]
      exact other own
  | @svc stackptr number args read now next place system value calls permitted ordered stepped =>
    refine ⟨held, ?_⟩
    by_cases own : board.system.kernel.running = 2
    · have current : board.threads 2 = .calls number args place := own ▸ calls
      rw [current] at waits
      obtain ⟨put, member, long, representable, goesOn⟩ := waits
      show BlinkWaits _ _ (board.resumeWith _ 2)
      rw [← own, resumeWith_self]
      exact ⟨put, member, long, representable, goesOn value⟩
    · exact other own
  | @returns number args place time runs called later' =>
    refine ⟨held, ?_⟩
    by_cases own : board.system.kernel.running = 2
    · have current : board.threads 2 = .inCall number args place := own ▸ called
      have plays := kept.plays 2 (by decide)
      rw [current] at waits plays
      obtain ⟨put, member, long, representable, rfl⟩ := waits
      obtain ⟨rfl, -⟩ := plays
      have ended := rests.ended good runs called representable
      show BlinkWaits _ _ (board.resumeWith _ 2)
      rw [← own, resumeWith_self]
      intro latest isLatest
      obtain rfl := Option.mem_unique member isLatest
      refine ⟨rfl, ?_⟩
      have le := UInt64.le_iff_toNat_le.mp later'
      show put.time.toNat + 499000 < time.toNat
      omega
    · exact other own

/-- The run lemma. -/
theorem blinks_run (isStarted : image.Started started)
    (run : Runs image.functions started events board) (bounded : board.now.toNat + 500000 < 2 ^ 63) :
    Blinks board := by
  obtain ⟨kept, s, good, occupied⟩ := kept_started isStarted
  obtain ⟨lit, nothing, -⟩ := lit_started isStarted
  have fresh : Blinks started := by
    refine ⟨by rw [nothing]; exact .nil, ?_⟩
    rw [nothing, isStarted.threads]
    rfl
  have rests : SleepersRest false s started := by
    intro pid args place behind
    rw [isStarted.threads] at behind
    cases behind
  obtain ⟨mask', s', -, -, -, -, -, blinks⟩ := runs_induction
    (fun mask s board _ => image.Kept board ∧ s.Occupied board.system.live ∧ board.globals.Lit ∧
      SleepersRest mask s board ∧ (board.now.toNat + 500000 < 2 ^ 63 → Blinks board))
    (fun {mask s board events event board'} good ⟨kept, occupied, lit, rests, blinks⟩ step => by
      obtain ⟨mask', s', good', rests'⟩ := sleepersRest_step good rests step
      obtain ⟨kept', _, _, good'', occupied'⟩ := kept_step kept good occupied step
      obtain ⟨rfl, rfl⟩ := good_unique good' good''
      refine ⟨mask', s', good', kept', occupied', lit_step lit step, rests', fun bounded => ?_⟩
      have later := UInt64.le_iff_toNat_le.mp (step_later step)
      exact blinks_step kept lit good rests (blinks (by omega)) step bounded)
    good ⟨kept, occupied, lit, rests, fun _ => fresh⟩ run
  exact blinks bounded

/-- What is put out after the value of `main` changes the LED of `blink` every time, and
holds each value for half a second at least, but for a systick period, while the other
tasks and the handlers come in between at any time. -/
theorem blink_half_periods (isStarted : image.Started started)
    (run : Runs image.functions started events board) (bounded : board.now.toNat + 500000 < 2 ^ 63)
    {first earlier later : Put} {before after : List Put}
    (puts : board.globals.at .default = first :: before ++ earlier :: later :: after) :
    later.value = (!earlier.value) ∧ earlier.time.toNat + 499000 < later.time.toNat := by
  have held := (blinks_run isStarted run bounded).held
  rw [Leds.blinks, puts] at held
  exact (List.isChain_append_cons_cons.mp held).2.1

end Kept

/-! ## `blink2` -/

/-- The values alternate from on, and value number `k` does not come before `k` seconds
after the start, but for a systick period. -/
structure Toggles (start : AbsoluteTime) (leds : Leds) : Prop where
  state : leds.led2State = decide ((leds.blinks .led2).length % 2 = 1)
  values : ∀ k put, (leds.blinks .led2)[k]? = some put → put.value = decide (k % 2 = 0)
  times : ∀ k put, (leds.blinks .led2)[k]? = some put →
    start.toNat + k * 1000000 < put.time.toNat + 1000

/-- The function puts out one value for each of its calls. -/
def Blink2Counts (start : AbsoluteTime) (puts calls : Nat) (now : AbsoluteTime) : Thread Code → Prop
  | .running (.function _ _) => calls = puts + 1 ∧ start.toNat + puts * 1000000 < now.toNat + 1000
  | .running (.runner _) => calls = puts
  | .calls _ _ next => calls = puts ∧ ∀ result, ∃ nextRun, next result = .runner (.sleeping nextRun)
  | .inCall _ _ place => calls = puts ∧ ∃ nextRun, place = .runner (.sleeping nextRun)

theorem Blink2Counts.mono {start now later : AbsoluteTime} {puts calls : Nat} {thread : Thread Code}
    (counts : Blink2Counts start puts calls now thread) (le : now.toNat ≤ later.toNat) :
    Blink2Counts start puts calls later thread := by
  unfold Blink2Counts at counts ⊢
  split at counts
  · exact ⟨counts.1, Nat.lt_of_lt_of_le counts.2 (Nat.add_le_add_right le 1000)⟩
  · exact counts
  · exact counts
  · exact counts

theorem Toggles.put {start time : AbsoluteTime} {leds : Leds} (toggles : Toggles start leds)
    (lit : leds.Lit)
    (late : start.toNat + (leds.blinks .led2).length * 1000000 < time.toNat + 1000) :
    Toggles start ({ leds with led2State := !leds.led2State }.put .led2 (!leds.led2State) time) := by
  have puts : ({ leds with led2State := !leds.led2State }.put .led2 (!leds.led2State) time).blinks .led2 =
      leds.blinks .led2 ++ [⟨.led2, !leds.led2State, time⟩] := lit.toggled.put_blinks ..
  have newest : ∀ k put, (leds.blinks .led2 ++ [⟨.led2, !leds.led2State, time⟩])[k]? = some put →
      (leds.blinks .led2)[k]? = some put ∨
        k = (leds.blinks .led2).length ∧ put = ⟨.led2, !leds.led2State, time⟩ := by
    intro k put found
    rw [List.getElem?_append] at found
    split_ifs at found with older
    · exact .inl found
    · obtain ⟨last, rfl⟩ : k - (leds.blinks .led2).length = 0 ∧ _ = put := by
        simpa [List.getElem?_singleton] using found
      exact .inr ⟨by omega, rfl⟩
  have flipped : (!leds.led2State) = decide ((leds.blinks .led2).length % 2 = 0) := by
    rw [toggles.state, ← decide_not]
    exact decide_eq_decide.mpr (by omega)
  constructor
  · rw [puts, List.length_append]
    show (!leds.led2State) = _
    rw [flipped]
    exact decide_eq_decide.mpr (by simp only [List.length_singleton]; omega)
  · rw [puts]
    intro k put found
    obtain old | ⟨rfl, rfl⟩ := newest k put found
    · exact toggles.values k put old
    · exact flipped
  · rw [puts]
    intro k put found
    obtain old | ⟨rfl, rfl⟩ := newest k put found
    · exact toggles.times k put old
    · exact late

section Blink2

variable [PicoSdk] {image : Image} {task : Task} {start now time : AbsoluteTime} {leds leds' : Leds}
variable {place : Place Code} {thread : Thread Code} {event : Option RunnerEvent} {calls : Nat}

/-- The step lemma for the thread of `blink2`, which has begun. -/
theorem blink2_counts (function : task.function = image.blink2)
    (at_place : Blink2Place place) (lit : leds.Lit) (toggles : Toggles start leds)
    (onTime : (Thread.running place).OnTime start.toNat 1000000 calls now)
    (counts : Blink2Counts start (leds.blinks .led2).length calls now (.running place))
    (le : now.toNat ≤ time.toNat)
    (moved : place.step image.functions task time leds = some (thread, event, leds')) :
    Toggles start leds' ∧
      Blink2Counts start (leds'.blinks .led2).length (calls + callsIn event.toList) time thread := by
  have entry : image.enter task.function task.pid = .blink2 := by
    rw [Image.enter, function, if_neg image.blink_ne_blink2.symm, if_pos rfl]
  cases at_place with
  | entered => exact absurd onTime.1 id
  | looping nextRun =>
    simp only [Place.step, taskRunnerStep, Thread.afterRunner_inFunction, Image.functions,
      entry, Option.some.injEq, Prod.mk.injEq] at moved
    obtain ⟨rfl, rfl, rfl⟩ := moved
    have same : calls = (leds.blinks .led2).length := counts
    obtain ⟨release, near⟩ := onTime.1
    refine ⟨toggles, congrArg (· + 1) same, ?_⟩
    rw [← same]
    omega
  | blink2 nextRun =>
    obtain ⟨one, late⟩ := counts
    have toggled := toggles.put lit (Nat.lt_of_lt_of_le late (Nat.add_le_add_right le 1000))
    have puts : ({ leds with led2State := !leds.led2State }.put .led2 (!leds.led2State) time).blinks .led2 =
        leds.blinks .led2 ++ [⟨.led2, !leds.led2State, time⟩] := lit.toggled.put_blinks ..
    have counted : calls = (({ leds with led2State := !leds.led2State }.put .led2
        (!leds.led2State) time).blinks .led2).length := by
      rw [puts, List.length_append]
      exact one
    simp only [Place.step, Image.functions, Code.move, taskRunnerStep] at moved
    split_ifs at moved
    · simp only [Thread.afterRunner_sleeping, Option.some.injEq, Prod.mk.injEq] at moved
      obtain ⟨rfl, rfl, rfl⟩ := moved
      exact ⟨toggled, counted, fun _ => ⟨nextRun, rfl⟩⟩
    · simp only [Thread.afterRunner_looping, Option.some.injEq, Prod.mk.injEq] at moved
      obtain ⟨rfl, rfl, rfl⟩ := moved
      exact ⟨toggled, counted⟩
  | sleeping nextRun =>
    simp only [Place.step, taskRunnerStep, Thread.afterRunner_looping, Option.some.injEq,
      Prod.mk.injEq] at moved
    obtain ⟨rfl, rfl, rfl⟩ := moved
    exact ⟨toggles, counts⟩

/-- The other threads leave the pin and the static variable alone. -/
theorem others_leave_led2 {pid : Pid} (isTask : pid ∈ programTasks) (other : pid ≠ 3)
    (at_place : (role pid).place place)
    (moved : place.step image.functions task time leds = some (thread, event, leds')) :
    leds'.blinks .led2 = leds.blinks .led2 ∧ leds'.led2State = leds.led2State := by
  simp only [programTasks, Finset.mem_insert, Finset.mem_singleton] at isTask
  obtain rfl | rfl | rfl := isTask
  · cases at_place with
    | entered =>
      simp only [Place.step, Option.some.injEq, Prod.mk.injEq] at moved
      rw [← moved.2.2]
      exact ⟨rfl, rfl⟩
    | spin =>
      simp only [Place.step, Image.functions, Code.move, Option.some.injEq, Prod.mk.injEq] at moved
      rw [← moved.2.2]
      exact ⟨rfl, rfl⟩
  · cases at_place with
    | entered =>
      simp only [Place.step, Option.some.injEq, Prod.mk.injEq] at moved
      rw [← moved.2.2]
      exact ⟨rfl, rfl⟩
    | blink value =>
      simp only [Place.step, Image.functions, Code.move, Option.some.injEq, Prod.mk.injEq] at moved
      rw [← moved.2.2]
      exact ⟨Leds.put_blinks_other leds (by decide) value time, rfl⟩
    | wait value =>
      simp only [Place.step, Image.functions, Code.move, Option.some.injEq, Prod.mk.injEq] at moved
      rw [← moved.2.2]
      exact ⟨rfl, rfl⟩
  · exact absurd rfl other

end Blink2

/-- The runner of the third task has not begun, or its function has kept count. -/
def Blinks2 (board : Board Code Leds) (events : List (Pid × RunnerEvent)) : Prop :=
  eventsOf 3 events = [] ∧ board.globals.blinks .led2 = [] ∧ board.globals.led2State = false ∨
    ∃ start since, eventsOf 3 events = .began start :: since ∧ Toggles start board.globals ∧
      Blink2Counts start (board.globals.blinks .led2).length (callsIn since) board.now (board.threads 3)

section Kept

variable [PicoSdk] [Malloc] {image : Image} {board board' started : Board Code Leds}
variable {mask : InterruptMask} {s : Scheduler} {event : Option (Pid × RunnerEvent)}
variable {events : List (Pid × RunnerEvent)}

omit [PicoSdk] [Malloc] in
/-- Nothing that counts has happened. -/
theorem Blinks2.waits (blinks : Blinks2 board events)
    (leds : board'.globals.blinks .led2 = board.globals.blinks .led2)
    (state : board'.globals.led2State = board.globals.led2State)
    {event : List (Pid × RunnerEvent)} (others : eventsOf 3 event = [])
    (counts : ∀ start puts calls, Blink2Counts start puts calls board.now (board.threads 3) →
      Blink2Counts start puts calls board'.now (board'.threads 3)) :
    Blinks2 board' (events ++ event) := by
  unfold Blinks2
  rw [eventsOf_append, others, List.append_nil, leds, state]
  refine blinks.imp id ?_
  rintro ⟨start, since, began, ⟨toggled, values, times⟩, counted⟩
  refine ⟨start, since, began, ⟨?_, ?_, ?_⟩, counts _ _ _ counted⟩
  · rw [state, leds]
    exact toggled
  · rw [leds]
    exact values
  · rw [leds]
    exact times

/-- The step lemma. -/
theorem blinks2_step (kept : image.Kept board) (lit : board.globals.Lit) (blinks : Blinks2 board events)
    (onSchedule : OnSchedule 3 1000000 board events)
    (step : Step image.functions board event board') : Blinks2 board' (events ++ event.toList) := by
  have later := UInt64.le_iff_toNat_le.mp (step_later step)
  cases step with
  | @interrupt action system next interrupts permitted ordered stepped =>
    exact blinks.waits (by rfl) (by rfl) (by rfl) fun _ _ _ counts => Blink2Counts.mono counts later
  | @code place time thread event globals runs at_place later' moved =>
    have plays := kept.plays _ kept.running
    have current : board.threads board.system.kernel.running = _ := at_place
    rw [current] at plays
    by_cases own : board.system.kernel.running = 3
    · have born := kept.tasks _ kept.running
      rw [own] at plays born current
      have task : board.currentTask = board.system.kernel.taskList 3 := congrArg _ own
      rw [task] at moved
      have after : board.resumeWith thread 3 = thread := own ▸ resumeWith_self thread
      unfold Blinks2
      rw [own, eventsOf_append, eventsOf_own]
      obtain ⟨none, dark, off⟩ | ⟨start, since, began, toggles, counts⟩ := blinks
      · obtain rfl : place = .runner .entered := by
          obtain fresh | ⟨start, since, began, -⟩ := onSchedule
          · exact Thread.running.inj (current.symm.trans fresh.2)
          · rw [none] at began
            cases began
        have frequency : (board.system.kernel.taskList 3).runFrequency = 1 :=
          congrArg Birth.runFrequency born
        have often : 1 ≤ (board.system.kernel.taskList 3).runFrequency.toNat := by
          rw [frequency]
          exact Nat.le_refl 1
        have entered := taskRunnerStep_entered often time
        simp only [Place.step, entered, Thread.afterRunner_looping, Option.some.injEq,
          Prod.mk.injEq] at moved
        obtain ⟨rfl, rfl, rfl⟩ := moved
        refine .inr ⟨time, [], by rw [none]; rfl, ⟨?_, ?_, ?_⟩, ?_⟩
        · rw [off, dark]
          rfl
        · simp [dark]
        · simp [dark]
        · show Blink2Counts _ _ _ time (board.resumeWith _ 3)
          rw [after, dark]
          exact rfl
      · obtain ⟨start', since', began', keeps⟩ : ∃ start' since', eventsOf 3 events =
            .began start' :: since' ∧ KeepsTime 3 1000000 board start' since' :=
          onSchedule.resolve_left fun none => by simp [none.1] at began
        obtain ⟨same, rfl⟩ := List.cons.inj (began.symm.trans began')
        cases same
        have onTime := keeps.thread
        rw [current] at onTime counts
        obtain ⟨toggles', counts'⟩ :=
          blink2_counts (congrArg Birth.function born) plays lit toggles onTime counts later moved
        refine .inr ⟨start, since ++ event.toList, by rw [began]; rfl, toggles', ?_⟩
        show Blink2Counts _ _ _ time (board.resumeWith _ 3)
        rw [after, callsIn_append]
        exact counts'
    · obtain ⟨leds, state⟩ := others_leave_led2 kept.running own plays moved
      refine blinks.waits leds state (eventsOf_other own event) fun _ _ _ counts => ?_
      show Blink2Counts _ _ _ time (board.resumeWith thread 3)
      rw [resumeWith_other thread (Ne.symm own)]
      exact counts.mono later
  | @svc stackptr number args read now next place system value calls permitted ordered stepped =>
    refine blinks.waits (by rfl) (by rfl) (by rfl) fun start puts count counts => ?_
    by_cases own : board.system.kernel.running = 3
    · have current : board.threads 3 = .calls number args place := own ▸ calls
      rw [current] at counts
      show Blink2Counts _ _ _ next (board.resumeWith _ 3)
      rw [← own, resumeWith_self]
      exact ⟨counts.1, counts.2 value⟩
    · show Blink2Counts _ _ _ next (board.resumeWith _ 3)
      rw [resumeWith_other _ (Ne.symm own)]
      exact counts.mono later
  | @returns number args place time runs called later' =>
    refine blinks.waits (by rfl) (by rfl) (by rfl) fun start puts count counts => ?_
    by_cases own : board.system.kernel.running = 3
    · have current : board.threads 3 = .inCall number args place := own ▸ called
      rw [current] at counts
      obtain ⟨same, nextRun, rfl⟩ := counts
      show Blink2Counts _ _ _ time (board.resumeWith _ 3)
      rw [← own, resumeWith_self]
      exact same
    · show Blink2Counts _ _ _ time (board.resumeWith _ 3)
      rw [resumeWith_other _ (Ne.symm own)]
      exact counts.mono later

omit [PicoSdk] [Malloc] in
/-- Once a second. -/
theorem Image.Kept.everySecond (kept : image.Kept board) :
    (runnerPeriod (board.system.kernel.taskList 3)).toNat = 1000000 ∧
      1 ≤ (board.system.kernel.taskList 3).runFrequency.toNat := by
  have frequency : (board.system.kernel.taskList 3).runFrequency = 1 :=
    congrArg Birth.runFrequency (kept.tasks 3 (by decide))
  rw [runnerPeriod_toNat, frequency]
  decide

/-- The run lemma. -/
theorem blinks2_run (isStarted : image.Started started)
    (run : Runs image.functions started events board) (bounded : board.now.toNat + 1001000 < 2 ^ 63) :
    Blinks2 board events := by
  obtain ⟨kept, s, good, occupied⟩ := kept_started isStarted
  obtain ⟨lit, nothing, off⟩ := lit_started isStarted
  have fresh : Blinks2 started [] := .inl ⟨rfl, nothing .led2, off⟩
  have rests : SleepersRest false s started := by
    intro pid args place behind
    rw [isStarted.threads] at behind
    cases behind
  have unrun : OnSchedule 3 1000000 started [] := .inl ⟨rfl, isStarted.threads 3⟩
  obtain ⟨mask', s', -, -, -, -, -, blinks⟩ := runs_induction
    (fun mask s board events => image.Kept board ∧ s.Occupied board.system.live ∧ board.globals.Lit ∧
      SleepersRest mask s board ∧ (board.now.toNat + 1001000 < 2 ^ 63 →
        OnSchedule 3 1000000 board events ∧ Blinks2 board events))
    (fun {mask s board events event board'} good ⟨kept, occupied, lit, rests, blinks⟩ step => by
      obtain ⟨mask', s', good', rests'⟩ := sleepersRest_step good rests step
      obtain ⟨kept', _, _, good'', occupied'⟩ := kept_step kept good occupied step
      obtain ⟨rfl, rfl⟩ := good_unique good' good''
      refine ⟨mask', s', good', kept', occupied', lit_step lit step, rests', fun bounded => ?_⟩
      have later := UInt64.le_iff_toNat_le.mp (step_later step)
      obtain ⟨onSchedule, blinks⟩ := blinks (by omega)
      obtain ⟨period, often⟩ := kept.everySecond
      exact ⟨onSchedule_step good rests often period onSchedule step (by omega),
        blinks2_step kept lit blinks onSchedule step⟩)
    good ⟨kept, occupied, lit, rests, fun _ => ⟨unrun, fresh⟩⟩ run
  exact (blinks bounded).2

/-- After the value of `main`, which is number 0, the LED of `blink2` alternates from on,
and counting from the time at which the runner of its task began, value number `k + 1`
does not come before `k` seconds, but for a systick period. -/
theorem blink2_every_second (isStarted : image.Started started)
    (run : Runs image.functions started events board) (bounded : board.now.toNat + 1001000 < 2 ^ 63)
    {k : Nat} {put : Put} (found : (board.globals.at .led2)[k + 1]? = some put) :
    put.value = decide (k % 2 = 0) ∧ ∃ start, (3, .began start) ∈ events ∧
      start.toNat + k * 1000000 < put.time.toNat + 1000 := by
  rw [← List.getElem?_tail] at found
  obtain ⟨-, dark, -⟩ | ⟨start, since, began, toggles, -⟩ := blinks2_run isStarted run bounded
  · rw [← Leds.blinks, dark] at found
    cases found
  · refine ⟨toggles.values k put found, start, ?_, toggles.times k put found⟩
    have member : .began start ∈ eventsOf 3 events := by
      rw [began]
      exact List.mem_cons_self
    obtain ⟨⟨pid, event⟩, kept, rfl⟩ := List.mem_map.mp member
    obtain ⟨happened, own⟩ := List.mem_filter.mp kept
    obtain rfl : pid = 3 := of_decide_eq_true own
    exact happened

end Kept

section Example

attribute [local instance] PicoSdk.reference Malloc.reference

/-- `blink` puts out its first value, sleeps, is woken up half a millisecond early, and
puts out the next one. -/
private def flash : List Stimulus := [
  .interrupt (.systick 0 7000 7000 7000) 7000, .interrupt .takePendsv 7000,
  .interrupt (.pendsv 0 7001 7002) 7002, .interrupt (.systick 0 14000 14000 14000) 14000,
  .interrupt .takePendsv 14000, .interrupt (.pendsv 0 14001 14002) 14002, .code 14003, .code 14004,
  .code 14005, .svc 0 .zero 14006 14007 0x10000705, .interrupt .takePendsv 14007,
  .interrupt (.pendsv 0 14008 14009) 14009, .interrupt (.systick 0 513500 513500 513500) 513500,
  .interrupt .takePendsv 513500, .interrupt (.pendsv 0 513501 513502) 513502, .returns 513503,
  .code 513504]

private def flashed : Option (Sketch Code Leds) :=
  Sketch.playAll Image.sample.functions flash (Image.sample.sketch 0)

private theorem flashed_puts : flashed.map (fun sketch => (sketch.globals.at .default, sketch.now)) =
    some ([⟨.default, true, 0⟩, ⟨.default, true, 14004⟩, ⟨.default, false, 513504⟩], 513504) := by
  decide +kernel

theorem blink_half_periods_example : ∃ started board : Board Code Leds, ∃ events,
    Image.sample.Started started ∧ Runs Image.sample.functions started events board ∧
      board.globals.at .default =
        [⟨.default, true, 0⟩, ⟨.default, true, 14004⟩, ⟨.default, false, 513504⟩] ∧
      false = (!true) ∧ 14004 + 499000 < 513504 := by
  obtain ⟨started, isStarted, of⟩ := exists_program Image.sample 0
  obtain ⟨sketch, ran, shown⟩ := Option.map_eq_some_iff.mp flashed_puts
  obtain ⟨puts, now⟩ := Prod.mk.inj shown
  obtain ⟨board, of'⟩ := of.playsAll ran
  rw [← of'.globals] at puts
  have bounded : board.now.toNat + 500000 < 2 ^ 63 := by
    rw [of'.now, now]
    decide
  obtain ⟨-, long⟩ :=
    @blink_half_periods _ _ Image.sample board started _ isStarted of'.run bounded _ _ _ [] [] puts
  exact ⟨started, board, _, isStarted, of'.run, puts, rfl, long⟩

/-- `blink2` runs twice. -/
private def twice : List Stimulus := [
  .interrupt (.systick 0 7000 7000 7000) 7000, .interrupt .takePendsv 7000,
  .interrupt (.pendsv 0 7001 7002) 7002, .code 7003, .code 7004, .code 7005,
  .svc 0 .zero 7006 7007 0x10000705, .interrupt .takePendsv 7007,
  .interrupt (.pendsv 0 7008 7009) 7009,
  .interrupt (.systick 0 1006500 1006500 1006500) 1006500, .interrupt .takePendsv 1006500,
  .interrupt (.pendsv 0 1006501 1006502) 1006502, .returns 1006503, .code 1006504, .code 1006505,
  .code 1006506]

private def twiceRun : Option (Sketch Code Leds) :=
  Sketch.playAll Image.sample.functions twice (Image.sample.sketch 0)

private theorem twiceRun_puts : twiceRun.map (fun sketch => (sketch.globals.at .led2, sketch.now)) =
    some ([⟨.led2, true, 0⟩, ⟨.led2, true, 7005⟩, ⟨.led2, false, 1006506⟩], 1006506) := by
  decide +kernel

theorem blink2_every_second_example : ∃ started board : Board Code Leds, ∃ events start,
    Image.sample.Started started ∧ Runs Image.sample.functions started events board ∧
      board.globals.at .led2 = [⟨.led2, true, 0⟩, ⟨.led2, true, 7005⟩, ⟨.led2, false, 1006506⟩] ∧
      (3, .began start) ∈ events ∧ start.toNat + 1 * 1000000 < 1006506 + 1000 := by
  obtain ⟨started, isStarted, of⟩ := exists_program Image.sample 0
  obtain ⟨sketch, ran, shown⟩ := Option.map_eq_some_iff.mp twiceRun_puts
  obtain ⟨puts, now⟩ := Prod.mk.inj shown
  obtain ⟨board, of'⟩ := of.playsAll ran
  rw [← of'.globals] at puts
  have bounded : board.now.toNat + 1001000 < 2 ^ 63 := by
    rw [of'.now, now]
    decide
  have second : (board.globals.at .led2)[1 + 1]? = some ⟨.led2, false, 1006506⟩ := by rw [puts]; rfl
  obtain ⟨-, start, began, late⟩ := blink2_every_second isStarted of'.run bounded second
  exact ⟨started, board, _, start, isStarted, of'.run, puts, began, late⟩

end Example

end Gkrtos
