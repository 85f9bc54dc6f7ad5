import LogSieve.Failure
import LogSieve.Journal.Event

/-!
# Accounts

An account of a piece of work is its outcome together with the events noted on the way.  Work that
fails keeps the events from before the failure.

* `Account.andThen` — work that continues with the outcome of other work.
-/

namespace LogSieve

/-- The outcome of a piece of work and the events noted on the way to it. -/
structure Account (α : Type) where
  events : List Event
  outcome : Except Failure α

namespace Account

variable {α β : Type}

def done (a : α) : Account α :=
  ⟨[], .ok a⟩

/-- Work that fails without a trace. -/
def failed (failure : Failure) : Account α :=
  ⟨[], .error failure⟩

/-- Continues with the outcome.  Events keep their order, and a failure ends the work. -/
def andThen (account : Account α) (next : α → Account β) : Account β :=
  match account.outcome with
  | .error failure => ⟨account.events, .error failure⟩
  | .ok a => ⟨account.events ++ (next a).events, (next a).outcome⟩

/-- Changes the outcome without further events. -/
def map (f : α → β) (account : Account α) : Account β :=
  ⟨account.events, account.outcome.map f⟩

@[simp] theorem done_andThen (a : α) (next : α → Account β) : (done a).andThen next = next a := rfl

@[simp] theorem failed_andThen (failure : Failure) (next : α → Account β) :
    (failed failure).andThen next = failed failure := rfl

end Account

end LogSieve
