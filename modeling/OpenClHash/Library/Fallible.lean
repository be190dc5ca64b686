/-!
Owns reasoning about programs that change a state and may leave by an exception, which
keeps the state reached: what a sequence of two programs does, a rule set for two-state
specifications that hold of every run, and one for the postconditions of a run.
-/

namespace OpenClHash.Library.Fallible

variable {ε σ α β : Type}

theorem run_bind (program : EStateM ε σ α) (next : α → EStateM ε σ β) (state : σ) :
    (program >>= next).run state =
      match program.run state with
      | .ok value after => (next value).run after
      | .error failure after => .error failure after := by
  show EStateM.bind program next state = _
  unfold EStateM.bind EStateM.run
  cases program state <;> rfl

theorem run_bind_ok {program : EStateM ε σ α} {next : α → EStateM ε σ β} {state after : σ}
    {value : α} (returns : program.run state = .ok value after) :
    (program >>= next).run state = (next value).run after := by
  rw [run_bind, returns]

theorem run_bind_error {program : EStateM ε σ α} {next : α → EStateM ε σ β} {state after : σ}
    {failure : ε} (raises : program.run state = .error failure after) :
    (program >>= next).run state = .error failure after := by
  rw [run_bind, raises]

theorem run_map (change : α → β) (program : EStateM ε σ α) (state : σ) :
    (change <$> program).run state =
      match program.run state with
      | .ok value after => .ok (change value) after
      | .error failure after => .error failure after := by
  show EStateM.map change program state = _
  unfold EStateM.map EStateM.run
  cases program state <;> rfl

theorem returned_of_map {change : α → β} {program : EStateM ε σ α} {state after : σ} {value : β}
    (ran : (change <$> program).run state = .ok value after) :
    ∃ result, program.run state = .ok result after ∧ change result = value := by
  rw [run_map] at ran
  generalize program.run state = ended at ran ⊢
  cases ended with
  | ok result between =>
      cases ran
      exact ⟨result, rfl, rfl⟩
  | error failure between => cases ran

theorem raised_of_map {change : α → β} {program : EStateM ε σ α} {state after : σ} {failure : ε}
    (raised : (change <$> program).run state = .error failure after) :
    program.run state = .error failure after := by
  rw [run_map] at raised
  generalize program.run state = ended at raised ⊢
  cases ended with
  | ok result between => cases raised
  | error other between =>
      cases raised
      rfl

theorem run_get_bind (next : σ → EStateM ε σ β) (state : σ) :
    (get >>= next).run state = (next state).run state := rfl

theorem run_modify_bind (change : σ → σ) (next : PUnit → EStateM ε σ β) (state : σ) :
    (modify change >>= next).run state = (next ⟨⟩).run (change state) := rfl

/-- Every run of the program relates the state before to the state after, by one relation
if it returns and by another if it raises. -/
def Moves (returned : σ → σ → Prop) (raised : σ → ε → σ → Prop) (program : EStateM ε σ α) : Prop :=
  ∀ before, match program.run before with
    | .ok _ after => returned before after
    | .error failure after => raised before failure after

/-- Relations that sequencing respects. -/
structure Composable (returned : σ → σ → Prop) (raised : σ → ε → σ → Prop) : Prop where
  refl : ∀ state, returned state state
  trans : ∀ {before between after}, returned before between → returned between after →
    returned before after
  lift : ∀ {before between after failure}, returned before between →
    raised between failure after → raised before failure after

section Rules

variable {returned : σ → σ → Prop} {raised : σ → ε → σ → Prop}
  (composable : Composable returned raised)

include composable

theorem moves_pure (value : α) : Moves returned raised (pure value : EStateM ε σ α) :=
  fun state => composable.refl state

theorem moves_get : Moves returned raised (get : EStateM ε σ σ) :=
  fun state => composable.refl state

theorem Moves.bind {program : EStateM ε σ α} {next : α → EStateM ε σ β}
    (first : Moves returned raised program)
    (second : ∀ value, Moves returned raised (next value)) :
    Moves returned raised (program >>= next) := by
  intro before
  have firstRun := first before
  rw [run_bind]
  cases ran : program.run before with
  | ok value between =>
      rw [ran] at firstRun
      have secondRun := second value between
      cases rest : (next value).run between with
      | ok value' after =>
          rw [rest] at secondRun
          simp only [rest]
          exact composable.trans firstRun secondRun
      | error failure after =>
          rw [rest] at secondRun
          simp only [rest]
          exact composable.lift firstRun secondRun
  | error failure after =>
      rw [ran] at firstRun
      exact firstRun

theorem moves_forM {list : List α} {body : α → EStateM ε σ PUnit}
    (each : ∀ entry ∈ list, Moves returned raised (body entry)) :
    Moves returned raised (list.forM body) := by
  induction list with
  | nil => exact moves_pure composable _
  | cons entry rest inductionHypothesis =>
      show Moves returned raised (body entry >>= fun _ => rest.forM body)
      apply Moves.bind composable (each entry List.mem_cons_self)
      intro _
      exact inductionHypothesis fun other member => each other (List.mem_cons_of_mem _ member)

theorem moves_mapM {list : List α} {body : α → EStateM ε σ β}
    (each : ∀ entry ∈ list, Moves returned raised (body entry)) :
    Moves returned raised (list.mapM body) := by
  induction list with
  | nil =>
      rw [List.mapM_nil]
      exact moves_pure composable _
  | cons entry rest inductionHypothesis =>
      rw [List.mapM_cons]
      apply Moves.bind composable (each entry List.mem_cons_self)
      intro value
      apply Moves.bind composable
      · exact inductionHypothesis fun other member => each other (List.mem_cons_of_mem _ member)
      · intro _
        exact moves_pure composable _

end Rules

/-! ### Postconditions -/

/-- The run from `before` satisfies `returned` if it returns and `raised` if it raises. -/
def Ensures (returned : α → σ → Prop) (raised : ε → σ → Prop) (program : EStateM ε σ α)
    (before : σ) : Prop :=
  match program.run before with
  | .ok value after => returned value after
  | .error failure after => raised failure after

section Ensures

variable {returned : α → σ → Prop} {raised : ε → σ → Prop} {program : EStateM ε σ α}
  {before after : σ}

theorem Ensures.of_ok (ensures : Ensures returned raised program before) {value : α}
    (ran : program.run before = .ok value after) : returned value after := by
  rwa [Ensures, ran] at ensures

theorem Ensures.of_error (ensures : Ensures returned raised program before) {failure : ε}
    (ran : program.run before = .error failure after) : raised failure after := by
  rwa [Ensures, ran] at ensures

theorem ensures_of_ok {value : α} (ran : program.run before = .ok value after)
    (holds : returned value after) : Ensures returned raised program before := by
  rwa [Ensures, ran]

theorem ensures_of_error {failure : ε} (ran : program.run before = .error failure after)
    (holds : raised failure after) : Ensures returned raised program before := by
  rwa [Ensures, ran]

theorem ensures_pure {value : α} (holds : returned value before) :
    Ensures returned raised (pure value) before := holds

theorem Ensures.mono {weaker : α → σ → Prop} {other : ε → σ → Prop}
    (ensures : Ensures returned raised program before)
    (returns : ∀ value after, returned value after → weaker value after)
    (raises : ∀ failure after, raised failure after → other failure after) :
    Ensures weaker other program before := by
  unfold Ensures at ensures ⊢
  cases ran : program.run before with
  | ok value after =>
      rw [ran] at ensures
      exact returns value after ensures
  | error failure after =>
      rw [ran] at ensures
      exact raises failure after ensures

theorem Ensures.bind {next : α → EStateM ε σ β} {last : β → σ → Prop}
    (first : Ensures returned raised program before)
    (second : ∀ value between, returned value between →
      Ensures last raised (next value) between) :
    Ensures last raised (program >>= next) before := by
  unfold Ensures
  cases ran : program.run before with
  | ok value between =>
      rw [run_bind_ok ran]
      exact second value between (first.of_ok ran)
  | error failure after =>
      rw [run_bind_error ran]
      exact first.of_error ran

theorem Ensures.map {change : α → β} {last : β → σ → Prop}
    (ensures : Ensures (fun value after => last (change value) after) raised program before) :
    Ensures last raised (change <$> program) before := by
  unfold Ensures at ensures ⊢
  rw [run_map]
  cases ran : program.run before with
  | ok value after => rwa [ran] at ensures
  | error failure after => rwa [ran] at ensures

/-- A loop over a list, with an invariant that each entry advances. -/
theorem ensures_forM {γ : Type} {list : List α} {body : α → EStateM ε σ PUnit}
    {invariant : γ → σ → Prop} {advance : γ → α → γ} {start : γ}
    (each : ∀ entry ∈ list, ∀ done state, invariant done state →
      Ensures (fun _ next => invariant (advance done entry) next) raised (body entry) state)
    (holds : invariant start before) :
    Ensures (fun _ next => invariant (list.foldl advance start) next) raised (list.forM body)
      before := by
  induction list generalizing start before with
  | nil => exact ensures_pure holds
  | cons entry rest inductionHypothesis =>
      rw [List.forall_mem_cons] at each
      show Ensures _ _ (body entry >>= fun _ => rest.forM body) before
      exact (each.1 start before holds).bind fun _ _ kept => inductionHypothesis each.2 kept

theorem ensures_forM_keeps {list : List α} {body : α → EStateM ε σ PUnit} {invariant : σ → Prop}
    (each : ∀ entry ∈ list, ∀ state, invariant state →
      Ensures (fun _ next => invariant next) raised (body entry) state)
    (holds : invariant before) :
    Ensures (fun _ next => invariant next) raised (list.forM body) before := by
  have advanced : ∀ entry ∈ list, ∀ (done : Unit) (state : σ), invariant state →
      Ensures (fun _ next => invariant next) raised (body entry) state :=
    fun entry member _ => each entry member
  exact @ensures_forM _ _ _ _ _ _ _ _ (fun _ => invariant) (fun done _ => done) () advanced holds

theorem ensures_get_bind {next : σ → EStateM ε σ β} {last : β → σ → Prop}
    (rest : Ensures last raised (next before) before) :
    Ensures last raised (get >>= next) before := rest

end Ensures

end OpenClHash.Library.Fallible
