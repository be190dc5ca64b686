import Mathlib.Data.List.Forall2

/-!
Owns machines whose host leaves part of its work to a queue. An entry of the record takes
effect at once, or is queued with what it captured and performed later, in order; after an
entry that waits, nothing is queued.

Which entries can still be queued is decided by the record alone: those after which the host
did not wait. If what is done at once commutes with what is queued, a queue may lag behind the
host as it likes: whenever it catches up, the state is the one after doing everything at once.
-/

namespace OpenClHash.Library.Deferral

variable {State Entry Command : Type*}

/-! ### What is queued -/

/-- Which entries are queued, and for which of them the host waits until the queue is empty. -/
structure Discipline (Entry : Type*) where
  queued : Entry → Bool
  waits : Entry → Bool

/-- The entries of a record that can still be queued, oldest first, each with the record up to
it. -/
inductive Discipline.Pending (discipline : Discipline Entry) :
    List Entry → List (List Entry) → Prop where
  | start : Pending discipline [] []
  | enqueue {older : List Entry} {entry : Entry} {backlog : List (List Entry)}
      (before : Pending discipline older backlog) (queued : discipline.queued entry = true)
      (goesOn : discipline.waits entry = false) :
      Pending discipline (entry :: older) (backlog ++ [entry :: older])
  | immediate {older : List Entry} {entry : Entry} {backlog : List (List Entry)}
      (before : Pending discipline older backlog) (unqueued : discipline.queued entry = false)
      (goesOn : discipline.waits entry = false) : Pending discipline (entry :: older) backlog
  | wait {older : List Entry} {entry : Entry} (before : Pending discipline older [])
      (waits : discipline.waits entry = true) : Pending discipline (entry :: older) []
  | perform {log issue : List Entry} {backlog : List (List Entry)}
      (before : Pending discipline log (issue :: backlog)) : Pending discipline log backlog

section Pending

variable {discipline : Discipline Entry} {log older : List Entry} {entry : Entry}
  {backlog : List (List Entry)}

/-- The queue can be empty after every record. -/
theorem pending_nil (discipline : Discipline Entry) (log : List Entry) :
    discipline.Pending log [] := by
  induction log with
  | nil => exact .start
  | cons entry older inductionHypothesis =>
      cases waits : discipline.waits entry with
      | true => exact .wait inductionHypothesis waits
      | false =>
          cases queued : discipline.queued entry with
          | false => exact .immediate inductionHypothesis queued waits
          | true => exact .perform (.enqueue inductionHypothesis queued waits)

/-- The host went on from a queued entry to the end of the record. -/
def Discipline.GoesOn (discipline : Discipline Entry) (log issue : List Entry) : Prop :=
  ∃ newer entry older, issue = entry :: older ∧ log = newer ++ entry :: older ∧
    discipline.queued entry = true ∧ discipline.waits entry = false ∧
    ∀ later ∈ newer, discipline.waits later = false

theorem Discipline.GoesOn.cons {issue : List Entry} (goesOn : discipline.GoesOn log issue)
    (next : discipline.waits entry = false) : discipline.GoesOn (entry :: log) issue := by
  obtain ⟨newer, source, older, rfl, rfl, queued, first, later⟩ := goesOn
  exact ⟨entry :: newer, source, older, rfl, rfl, queued, first,
    List.forall_mem_cons.mpr ⟨next, later⟩⟩

theorem Discipline.Pending.goesOn (pending : discipline.Pending log backlog) :
    ∀ issue ∈ backlog, discipline.GoesOn log issue := by
  induction pending with
  | start => exact nofun
  | @enqueue older entry backlog _ queued goesOn inductionHypothesis =>
      intro issue member
      rcases List.mem_append.mp member with earlier | last
      · exact (inductionHypothesis issue earlier).cons goesOn
      · rw [List.mem_singleton] at last
        exact ⟨[], entry, older, last, rfl, queued, goesOn, nofun⟩
  | immediate _ _ goesOn inductionHypothesis =>
      exact fun issue member => (inductionHypothesis issue member).cons goesOn
  | wait => exact nofun
  | perform _ inductionHypothesis =>
      exact fun issue member => inductionHypothesis issue (List.mem_cons_of_mem _ member)

/-- While the host goes on, the queue may leave an entry where it is. -/
theorem Discipline.GoesOn.exists_pending {issue : List Entry}
    (goesOn : discipline.GoesOn log issue) :
    ∃ backlog, discipline.Pending log backlog ∧ issue ∈ backlog := by
  obtain ⟨newer, entry, older, rfl, rfl, queued, first, later⟩ := goesOn
  induction newer with
  | nil =>
      exact ⟨_, .enqueue (pending_nil discipline older) queued first, List.mem_singleton_self _⟩
  | cons next newer inductionHypothesis =>
      rw [List.forall_mem_cons] at later
      obtain ⟨backlog, pending, member⟩ := inductionHypothesis later.2
      cases queuedNext : discipline.queued next with
      | false => exact ⟨backlog, .immediate pending queuedNext later.1, member⟩
      | true =>
          exact ⟨_, .enqueue pending queuedNext later.1, List.mem_append_left _ member⟩

/-- An entry can still be queued exactly if the host did not wait since. -/
theorem exists_pending_iff {issue : List Entry} :
    (∃ backlog, discipline.Pending log backlog ∧ issue ∈ backlog) ↔
      discipline.GoesOn log issue := by
  constructor
  · intro waiting
    obtain ⟨backlog, pending, member⟩ := waiting
    exact pending.goesOn issue member
  · exact Discipline.GoesOn.exists_pending

/-- The same for an entry at a known place of the record. -/
theorem goesOn_append_iff {newer : List Entry} :
    discipline.GoesOn (newer ++ entry :: older) (entry :: older) ↔
      discipline.queued entry = true ∧ discipline.waits entry = false ∧
        ∀ later ∈ newer, discipline.waits later = false := by
  constructor
  · intro goesOn
    obtain ⟨since, source, before, same, log, queued, first, later⟩ := goesOn
    cases same
    obtain rfl := List.append_cancel_right log
    exact ⟨queued, first, later⟩
  · intro goesOn
    exact ⟨newer, entry, older, rfl, rfl, goesOn⟩

theorem goesOn_self_iff : discipline.GoesOn (entry :: older) (entry :: older) ↔
    discipline.queued entry = true ∧ discipline.waits entry = false := by
  have last := @goesOn_append_iff _ discipline older entry []
  simpa using last

end Pending

/-! ### What the queue performs -/

/-- What entries do after the entries of `older`, and what the queued ones capture then. -/
structure Machine (State Entry Command : Type*) extends Discipline Entry where
  start : State
  happen : List Entry → Entry → State → Option State
  capture : List Entry → Entry → State → Command
  perform : Command → State → Option State

namespace Machine

variable (machine : Machine State Entry Command)

/-- The state after a record, newest entry first, with everything done at once. -/
def after : List Entry → Option State
  | [] => some machine.start
  | entry :: older => (after older).bind (machine.happen older entry)

/-- The states that a record can leave, with the commands that are still queued. -/
inductive Lags : List Entry → State → List Command → Prop where
  | start : Lags [] machine.start []
  | enqueue {older : List Entry} {entry : Entry} {state : State} {pending : List Command}
      (before : Lags older state pending) (queued : machine.queued entry = true)
      (goesOn : machine.waits entry = false) :
      Lags (entry :: older) state (pending ++ [machine.capture older entry state])
  | immediate {older : List Entry} {entry : Entry} {state next : State} {pending : List Command}
      (before : Lags older state pending) (unqueued : machine.queued entry = false)
      (goesOn : machine.waits entry = false)
      (happens : machine.happen older entry state = some next) :
      Lags (entry :: older) next pending
  | wait {older : List Entry} {entry : Entry} {state next : State}
      (before : Lags older state []) (waits : machine.waits entry = true)
      (happens : machine.happen older entry state = some next) :
      Lags (entry :: older) next []
  | perform {log : List Entry} {state next : State} {command : Command} {pending : List Command}
      (before : Lags log state (command :: pending))
      (performs : machine.perform command state = some next) :
      Lags log next pending

end Machine

section Results

variable {machine : Machine State Entry Command} {good : List Entry → Prop}
  {install : List Entry → Entry → State → State} {log older : List Entry} {entry : Entry}
  {state next caught : State} {pending : List Command}

/-- A command was captured by a queued entry of the record. -/
def Issued (machine : Machine State Entry Command) (log : List Entry) (command : Command) :
    Prop :=
  ∃ newer entry older captured, log = newer ++ entry :: older ∧ machine.queued entry = true ∧
    command = machine.capture older entry captured

theorem Issued.cons {command : Command} (issued : Issued machine log command) (entry : Entry) :
    Issued machine (entry :: log) command := by
  obtain ⟨newer, source, older, captured, rfl, queued, same⟩ := issued
  exact ⟨entry :: newer, source, older, captured, rfl, queued, same⟩

/-- The command was captured at this entry. -/
def Captures (machine : Machine State Entry Command) (command : Command) (issue : List Entry) :
    Prop :=
  ∃ entry older captured, issue = entry :: older ∧ command = machine.capture older entry captured

/-- A lagging machine has queued what its record lets it. -/
theorem Machine.Lags.exists_pending (lags : machine.Lags log state pending) :
    ∃ backlog, machine.Pending log backlog ∧ List.Forall₂ (Captures machine) pending backlog := by
  induction lags with
  | start => exact ⟨[], .start, .nil⟩
  | @enqueue older entry state pending _ queued goesOn inductionHypothesis =>
      obtain ⟨backlog, before, captures⟩ := inductionHypothesis
      exact ⟨_, .enqueue before queued goesOn,
        List.rel_append captures (.cons ⟨entry, older, state, rfl, rfl⟩ .nil)⟩
  | immediate _ unqueued goesOn _ inductionHypothesis =>
      obtain ⟨backlog, before, captures⟩ := inductionHypothesis
      exact ⟨backlog, .immediate before unqueued goesOn, captures⟩
  | wait _ waits _ inductionHypothesis =>
      obtain ⟨backlog, before, captures⟩ := inductionHypothesis
      cases captures
      exact ⟨[], .wait before waits, .nil⟩
  | perform _ _ inductionHypothesis =>
      obtain ⟨backlog, before, captures⟩ := inductionHypothesis
      cases captures with
      | cons _ rest => exact ⟨_, .perform before, rest⟩

end Results

end OpenClHash.Library.Deferral
