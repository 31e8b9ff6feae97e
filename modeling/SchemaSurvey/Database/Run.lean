/-
  `Run` — what work with a database came to, and what it did on the way.

  A run has an outcome; beside it stand the statements that were sent and the events that happened,
  in order. Runs are put one after another with `>>=`: a failure ends the run and keeps what had
  been done by then.
-/
import SchemaSurvey.Database.Server
import SchemaSurvey.Event

namespace SchemaSurvey.Database

/-- The outcome of some work, with what was sent and what happened. -/
structure Run (ε α : Type) where
  outcome : Except ε α
  /-- The statements sent, in order. -/
  statements : List Statement := []
  /-- The events, in order. -/
  events : List Event := []

namespace Run

variable {ε ε' α β : Type}

/-- Goes on with what a run came to, unless it failed. -/
def bind (r : Run ε α) (next : α → Run ε β) : Run ε β :=
  match r.outcome with
  | .ok a =>
    let rest := next a
    { outcome := rest.outcome
      statements := r.statements ++ rest.statements
      events := r.events ++ rest.events }
  | .error e => { outcome := .error e, statements := r.statements, events := r.events }

instance : Monad (Run ε) where
  pure a := { outcome := .ok a }
  bind := bind

/-- A run that does nothing but come to `outcome`. -/
def of (outcome : Except ε α) : Run ε α := { outcome }

/-- Reports events. -/
def report (events : List Event) : Run ε Unit := { outcome := .ok (), events }

/-- Reports failures as `f` says. -/
def mapError (f : ε → ε') (r : Run ε α) : Run ε' α :=
  { r with outcome := r.outcome.mapError f }

end Run

end SchemaSurvey.Database
