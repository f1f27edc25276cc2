/-
  CorpusQuery.Log.Logged

  Computations that report events on their way to a result or an error. What
  was reported before an error is kept.
-/
import CorpusQuery.Log.Event

namespace CorpusQuery

/-- The events of a computation, in order, and how it ended. -/
structure Logged (ε α : Type) where
  events : List Log.Event
  outcome : Except ε α

namespace Logged

variable {ε α β : Type}

/-- Ends with a result and reports nothing. -/
def ok (result : α) : Logged ε α :=
  ⟨[], .ok result⟩

/-- Goes on with the result of a computation; an error ends both. -/
def andThen (first : Logged ε α) (next : α → Logged ε β) : Logged ε β :=
  match first.outcome with
  | .ok result => ⟨first.events ++ (next result).events, (next result).outcome⟩
  | .error error => ⟨first.events, .error error⟩

instance : Monad (Logged ε) where
  pure := ok
  bind := andThen

/-- Ends with an error. -/
def fail (error : ε) : Logged ε α :=
  ⟨[], .error error⟩

/-- Reports an event. -/
def report (event : Log.Event) : Logged ε Unit :=
  ⟨[event], .ok ()⟩

/-- A computation that reports nothing. -/
def ofExcept (outcome : Except ε α) : Logged ε α :=
  ⟨[], outcome⟩

theorem ok_bind (result : α) (next : α → Logged ε β) :
    ((ok result : Logged ε α) >>= next) = next result := rfl

theorem fail_bind (error : ε) (next : α → Logged ε β) :
    ((fail error : Logged ε α) >>= next) = fail error := rfl

theorem ofExcept_ok (result : α) : (ofExcept (.ok result) : Logged ε α) = ok result := rfl

theorem ofExcept_error (error : ε) : (ofExcept (.error error) : Logged ε α) = fail error := rfl

theorem report_bind (event : Log.Event) (next : Unit → Logged ε β) :
    (report event >>= next) = ⟨event :: (next ()).events, (next ()).outcome⟩ := rfl

/-! ### How a computation ends

The events play no part in how a computation ends, so that its outcome is that of its parts. -/

@[simp] theorem outcome_ok (result : α) : (ok result : Logged ε α).outcome = .ok result := rfl

@[simp] theorem outcome_pure (result : α) :
    (pure result : Logged ε α).outcome = .ok result := rfl

@[simp] theorem outcome_fail (error : ε) :
    (fail error : Logged ε α).outcome = .error error := rfl

@[simp] theorem outcome_report (event : Log.Event) :
    (report event : Logged ε Unit).outcome = .ok () := rfl

@[simp] theorem outcome_ofExcept (outcome : Except ε α) :
    (ofExcept outcome).outcome = outcome := rfl

@[simp] theorem outcome_bind (first : Logged ε α) (next : α → Logged ε β) :
    (first >>= next).outcome = first.outcome.bind fun result => (next result).outcome := by
  show (first.andThen next).outcome = _
  unfold andThen
  cases first.outcome with
  | ok result => rfl
  | error error => rfl

/-! ### Laws

What is reported before a step stays in front of what the step reports, however the steps are
grouped. -/

theorem ok_andThen (result : α) (next : α → Logged ε β) : (ok result).andThen next = next result :=
  rfl

theorem andThen_ok (computation : Logged ε α) : computation.andThen ok = computation := by
  obtain ⟨events, outcome⟩ := computation
  cases outcome with
  | ok result => exact congrArg (Logged.mk · _) (List.append_nil events)
  | error error => rfl

theorem andThen_assoc {γ : Type} (first : Logged ε α) (next : α → Logged ε β)
    (last : β → Logged ε γ) :
    (first.andThen next).andThen last = first.andThen fun result => (next result).andThen last := by
  obtain ⟨events, outcome⟩ := first
  cases outcome with
  | error error => rfl
  | ok result =>
      simp only [andThen]
      cases (next result).outcome with
      | ok later => exact congrArg (Logged.mk · _) (List.append_assoc ..)
      | error error => rfl

/-- What is done with a result changes neither the events nor, up to the result, the ending. -/
theorem andThen_ok_comp (computation : Logged ε α) (f : α → β) :
    computation.andThen (fun result => ok (f result)) =
      ⟨computation.events, computation.outcome.map f⟩ := by
  obtain ⟨events, outcome⟩ := computation
  cases outcome with
  | ok result => exact congrArg (Logged.mk · _) (List.append_nil events)
  | error error => rfl

instance : LawfulMonad (Logged ε) :=
  LawfulMonad.mk' (Logged ε) andThen_ok ok_andThen andThen_assoc

/-- The same computation with other errors. -/
def mapError {ε' : Type} (f : ε → ε') (computation : Logged ε α) : Logged ε' α :=
  ⟨computation.events, computation.outcome.mapError f⟩

/-- The warnings reported. -/
def warnings (computation : Logged ε α) : List Log.Event :=
  computation.events.filter Log.Event.isWarning

@[simp] theorem warnings_pure (result : α) : (pure result : Logged ε α).warnings = [] := rfl

@[simp] theorem warnings_ofExcept (outcome : Except ε α) : (ofExcept outcome).warnings = [] := rfl

@[simp] theorem warnings_report (event : Log.Event) :
    (report event : Logged ε Unit).warnings = if event.isWarning then [event] else [] := by
  show [event].filter Log.Event.isWarning = _
  rw [List.filter_cons, List.filter_nil]

/-- The warnings of a first step, and those of the step after it if there is one. -/
theorem warnings_bind (first : Logged ε α) (next : α → Logged ε β) :
    (first >>= next).warnings = first.warnings ++
      match first.outcome with
      | .ok result => (next result).warnings
      | .error _ => [] := by
  show (first.andThen next).warnings = _
  unfold andThen warnings
  cases first.outcome with
  | ok result => exact List.filter_append ..
  | error error => exact (List.append_nil _).symm

/-- What is done with a result adds no warning. -/
@[simp] theorem warnings_bind_pure (computation : Logged ε α) (f : α → β) :
    (computation >>= fun result => pure (f result)).warnings = computation.warnings := by
  rw [warnings_bind]
  cases computation.outcome with
  | ok result => exact List.append_nil _
  | error error => exact List.append_nil _

/-- What a caller sees of a computation: how it ended, and the warnings. -/
def answer (computation : Logged ε α) : Except ε α × List Log.Event :=
  (computation.outcome, computation.warnings)

end Logged

end CorpusQuery
