import Columnar.Feed.Lines
import Columnar.Session.Run
/-!
# Lines to batches in one call

A whole session on a byte stream of JSON lines, from its type and options to its totals.
-/

set_option autoImplicit false

namespace Columnar

/-- What a session that is over leaves behind: its totals or the failure that ended it, the state of
its consumer, and its events. -/
structure Outcome (τ : Type) where
  result : Except Failure Totals
  consumer : τ
  log : List Event

/-- What a pipeline leaves behind. -/
def Attempt.outcome {σ τ : Type} (attempt : Attempt (Pipeline σ τ)) : Outcome τ where
  result :=
    match attempt.failure with
    | some failure => .error failure
    | none => .ok attempt.state.session.totals
  consumer := attempt.state.consumer
  log := attempt.state.log

/-- A session on a byte stream of JSON lines. A fault of the type or the options ends it before
anything is read. -/
def ingestLines {τ : Type} (type : DataType) (options : Options) (stream : ByteStream)
    (consumer : Consumer τ) (state : τ) : Outcome τ :=
  match Session.start type options with
  | .error failure => ⟨.error failure, state, []⟩
  | .ok session =>
    let pipeline : Pipeline LineReader τ := ⟨session, .ofStream stream, state, []⟩
    (pipeline.run LineReader.feed consumer).outcome

end Columnar
