/-!
# Histories

A history is a list of steps that are taken one after the other.  Each step finds the state that the
one before it has left, and is answered.

* `History.after` — the state that a history leaves.
* `History.answers` — the answers to its steps.
-/

namespace LogSieve.History

variable {State Step Answer : Type}

def after (step : State → Step → Answer × State) (state : State) (steps : List Step) : State :=
  steps.foldl (fun state s => (step state s).2) state

def answers (step : State → Step → Answer × State) (state : State) : List Step → List Answer
  | [] => []
  | s :: steps =>
    let (answer, next) := step state s
    answer :: answers step next steps

end LogSieve.History
