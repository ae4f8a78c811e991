import Mathlib.Logic.Basic

/-! Programs that read and write a state and may stop with a fault, what a run
of one establishes, and what it means for one to carry out a step of a more
abstract machine. A fault keeps the state it happened in. The rules follow the
way programs are put together, so that a property of a program is proved from
the properties of its parts. -/
namespace Gkrtos.Stateful

variable {ε σ τ α β : Type}

/-! ## Running a program -/

@[simp] theorem bind_apply (program : EStateM ε σ α) (rest : α → EStateM ε σ β) (state : σ) :
    (program >>= rest) state = match program state with
      | .ok result state' => rest result state'
      | .error fault state' => .error fault state' := rfl

@[simp] theorem pure_apply (result : α) (state : σ) :
    (pure result : EStateM ε σ α) state = .ok result state := rfl

@[simp] theorem get_apply (state : σ) : (get : EStateM ε σ σ) state = .ok state state := rfl

@[simp] theorem set_apply (state state' : σ) :
    (set state' : EStateM ε σ PUnit) state = .ok ⟨⟩ state' := rfl

@[simp] theorem modify_apply (change : σ → σ) (state : σ) :
    (modify change : EStateM ε σ PUnit) state = .ok ⟨⟩ (change state) := rfl

@[simp] theorem throw_apply (fault : ε) (state : σ) :
    (throw fault : EStateM ε σ α) state = .error fault state := rfl

@[simp] theorem map_apply (change : α → β) (program : EStateM ε σ α) (state : σ) :
    (change <$> program) state = match program state with
      | .ok result state' => .ok (change result) state'
      | .error fault state' => .error fault state' := rfl

@[simp] theorem ite_apply (condition : Prop) [Decidable condition]
    (yes no : EStateM ε σ α) (state : σ) :
    (if condition then yes else no) state = if condition then yes state else no state := by
  split <;> rfl

/-- A run of two programs in turn is a run of the first, then of the second. -/
theorem bind_ok {program : EStateM ε σ α} {rest : α → EStateM ε σ β} {state final : σ} {value : β} :
    (program >>= rest) state = .ok value final ↔
      ∃ result between, program state = .ok result between ∧ rest result between = .ok value final := by
  rw [bind_apply]
  cases program state with
  | ok result between =>
    constructor
    · exact fun run => ⟨result, between, rfl, run⟩
    · rintro ⟨result', between', same, run⟩
      cases same
      exact run
  | error fault between =>
    constructor
    · exact fun run => nomatch run
    · rintro ⟨result', between', same, run⟩
      cases same

theorem get_ok {state found after : σ} (run : (get : EStateM ε σ σ) state = .ok found after) :
    found = state ∧ after = state := by
  rw [get_apply] at run
  injection run with same kept
  exact ⟨same.symm, kept.symm⟩

/-! ## Total correctness -/

/-- From this state the program returns this result, and what it leaves has the
property. -/
def Returns (program : EStateM ε σ α) (state : σ) (result : α) (after : σ → Prop) : Prop :=
  ∃ state', program state = .ok result state' ∧ after state'

section Returns

variable {program : EStateM ε σ α} {rest : α → EStateM ε σ β} {state : σ} {result : α} {value : β}
variable {between after : σ → Prop}

theorem returns_of_run {state' : σ} (run : program state = .ok result state')
    (established : after state') : Returns program state result after :=
  ⟨state', run, established⟩

theorem returns_pure (established : after state) :
    Returns (pure result : EStateM ε σ α) state result after :=
  ⟨state, rfl, established⟩

theorem returns_bind (first : Returns program state result between)
    (second : ∀ state', between state' → Returns (rest result) state' value after) :
    Returns (program >>= rest) state value after := by
  obtain ⟨state', run, established⟩ := first
  obtain ⟨state'', run', established'⟩ := second state' established
  exact ⟨state'', by rw [bind_apply, run]; exact run', established'⟩

theorem returns_get {rest : σ → EStateM ε σ β} (established : Returns (rest state) state value after) :
    Returns (get >>= rest) state value after :=
  established

end Returns

/-! ## Partial correctness -/

/-- From every state with the first property the program returns such a result and ends
in a state with the last property, or stops with a fault that is excused. -/
def Triple (excused : ε → Prop) (before : σ → Prop) (program : EStateM ε σ α) (returns : α → Prop)
    (after : σ → Prop) : Prop :=
  ∀ state, before state → match program state with
    | .ok result state' => returns result ∧ after state'
    | .error fault _ => excused fault

/-- With every fault excused, what counts is the runs that return. -/
abbrev Yields (before : σ → Prop) (program : EStateM ε σ α) (returns : α → Prop) (after : σ → Prop) :
    Prop :=
  Triple (fun _ => True) before program returns after

section Triple

variable {excused : ε → Prop} {before between after : σ → Prop} {program : EStateM ε σ α}
variable {rest : α → EStateM ε σ β} {returns : α → Prop} {returns' : β → Prop}

theorem yields_of_ok (runs : ∀ state result state', before state →
    program state = .ok result state' → returns result ∧ after state') :
    Yields before program returns after := by
  intro state holds
  cases run : program state with
  | ok result state' => exact runs state result state' holds run
  | error fault state' => exact trivial

theorem Triple.ok (triple : Triple excused before program returns after) {state state' : σ} {result : α}
    (start : before state) (run : program state = .ok result state') :
    returns result ∧ after state' := by
  have passed := triple state start
  rw [run] at passed
  exact passed

theorem Triple.error (triple : Triple excused before program returns after) {state state' : σ}
    {fault : ε} (start : before state) (run : program state = .error fault state') : excused fault := by
  have passed := triple state start
  rw [run] at passed
  exact passed

/-- The rule of consequence. -/
theorem Triple.imp {returns' : α → Prop} {before' after' : σ → Prop}
    (triple : Triple excused before program returns after)
    (stronger : ∀ state, before' state → before state)
    (weaker : ∀ result, returns result → returns' result)
    (weaker' : ∀ state, after state → after' state) :
    Triple excused before' program returns' after' := by
  intro state holds
  cases run : program state with
  | ok result state' =>
    obtain ⟨fits, holds'⟩ := triple.ok (stronger state holds) run
    exact ⟨weaker result fits, weaker' state' holds'⟩
  | error fault state' => exact triple.error (stronger state holds) run

theorem Triple.returns_imp {returns' : α → Prop} (triple : Triple excused before program returns after)
    (weaker : ∀ result, returns result → returns' result) :
    Triple excused before program returns' after :=
  triple.imp (fun _ holds => holds) weaker fun _ holds => holds

/-- The rule of conjunction. -/
theorem Triple.and {returns₁ returns₂ : α → Prop} {before₁ before₂ after₁ after₂ : σ → Prop}
    (first : Triple excused before₁ program returns₁ after₁)
    (second : Triple excused before₂ program returns₂ after₂) :
    Triple excused (fun state => before₁ state ∧ before₂ state) program
      (fun result => returns₁ result ∧ returns₂ result) fun state => after₁ state ∧ after₂ state := by
  rintro state ⟨holds₁, holds₂⟩
  cases run : program state with
  | ok result state' =>
    obtain ⟨fits₁, holds₁'⟩ := first.ok holds₁ run
    obtain ⟨fits₂, holds₂'⟩ := second.ok holds₂ run
    exact ⟨⟨fits₁, fits₂⟩, holds₁', holds₂'⟩
  | error fault state' => exact first.error holds₁ run

/-- What holds from a set of states holds from each of them, and the other way. -/
theorem Triple.at (triple : Triple excused before program returns after) {state : σ}
    (holds : before state) : Triple excused (· = state) program returns after := by
  rintro state' rfl
  exact triple state' holds

theorem triple_pure {result : α} (fits : returns result) :
    Triple excused before (pure result : EStateM ε σ α) returns before :=
  fun _ holds => ⟨fits, holds⟩

theorem triple_throw {fault : ε} (excuse : excused fault) :
    Triple excused before (throw fault : EStateM ε σ α) returns after :=
  fun _ _ => excuse

theorem triple_modify {change : σ → σ} (changed : ∀ state, before state → after (change state)) :
    Triple excused before (modify change : EStateM ε σ PUnit) (fun _ => True) after :=
  fun state holds => ⟨trivial, changed state holds⟩

theorem triple_bind (first : Triple excused before program returns between)
    (second : ∀ result, returns result → Triple excused between (rest result) returns' after) :
    Triple excused before (program >>= rest) returns' after := by
  intro state holds
  rw [bind_apply]
  cases run : program state with
  | ok result state' =>
    obtain ⟨fits, holds'⟩ := first.ok holds run
    exact second result fits state' holds'
  | error fault state' => exact first.error holds run

/-- A program that reads the state goes on from the state it has read. -/
theorem triple_get {rest : σ → EStateM ε σ β}
    (follows : ∀ state, before state → Triple excused (· = state) (rest state) returns' after) :
    Triple excused before (get >>= rest) returns' after :=
  fun state holds => follows state holds state rfl

theorem triple_ite {condition : Prop} [Decidable condition] {yes no : EStateM ε σ α}
    (whenYes : Triple excused before yes returns after)
    (whenNo : Triple excused before no returns after) :
    Triple excused before (if condition then yes else no) returns after := by
  split
  · exact whenYes
  · exact whenNo

end Triple

/-! ## What a program leaves alone -/

/-- The program leaves what is observed of the state as it is. -/
def Keeps {ω : Type} (excused : ε → Prop) (observe : σ → ω) (program : EStateM ε σ α) : Prop :=
  ∀ seen, Triple excused (fun state => observe state = seen) program (fun _ => True)
    (fun state => observe state = seen)

section Keeps

variable {ω : Type} {excused : ε → Prop} {observe : σ → ω} {program : EStateM ε σ α}
variable {rest : α → EStateM ε σ β} {holds : σ → Prop}

theorem keeps_pure (result : α) : Keeps excused observe (pure result : EStateM ε σ α) :=
  fun _ => triple_pure trivial

theorem keeps_get : Keeps excused observe (get : EStateM ε σ σ) :=
  fun _ _ seen => ⟨trivial, seen⟩

theorem keeps_throw {fault : ε} (excuse : excused fault) :
    Keeps excused observe (throw fault : EStateM ε σ α) :=
  fun _ => triple_throw excuse

theorem keeps_modify {change : σ → σ} (same : ∀ state, observe (change state) = observe state) :
    Keeps excused observe (modify change : EStateM ε σ PUnit) :=
  fun _ => triple_modify fun state seen => (same state).trans seen

theorem keeps_bind (first : Keeps excused observe program)
    (second : ∀ result, Keeps excused observe (rest result)) :
    Keeps excused observe (program >>= rest) :=
  fun seen => triple_bind (first seen) fun result _ => second result seen

theorem keeps_ite {condition : Prop} [Decidable condition] {yes no : EStateM ε σ α}
    (whenYes : Keeps excused observe yes) (whenNo : Keeps excused observe no) :
    Keeps excused observe (if condition then yes else no) :=
  fun seen => triple_ite (whenYes seen) (whenNo seen)

theorem Keeps.ok (keeps : Keeps excused observe program) {state state' : σ} {result : α}
    (run : program state = .ok result state') : observe state' = observe state :=
  ((keeps (observe state)).ok rfl run).2

/-- It keeps every property that follows from what is observed. -/
theorem Keeps.triple (keeps : Keeps excused observe program)
    (seen : ∀ state state', observe state' = observe state → holds state → holds state') :
    Triple excused holds program (fun _ => True) holds := by
  intro state start
  cases run : program state with
  | ok result state' => exact ⟨trivial, seen state state' (keeps.ok run) start⟩
  | error fault state' => exact (keeps (observe state)).error rfl run

end Keeps

/-! ## Keeping step with an abstract machine -/

/-- In every state that stands for an abstract state the program is ready for,
it returns the `result` of that abstract state and leaves a state that stands
for its `effect`. What a state stands for may change on the way: a program that
takes a lock goes from one relation to another. -/
def Simulates (before after : σ → τ → Prop) (ready : τ → Prop) (program : EStateM ε σ α)
    (result : τ → α) (effect : τ → τ) : Prop :=
  ∀ state abstract, before state abstract → ready abstract →
    Returns program state (result abstract) (after · (effect abstract))

end Gkrtos.Stateful
