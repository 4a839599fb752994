import Schemata.Outcome.Run
import Schemata.Validator.Basic
/-!
# Parse — the four ways to ask for a verdict

A caller that does not wait takes what is there at once: `Outcome.parse` refuses work that would have to be awaited, and
`Outcome.safeParse` reports that refusal as an issue.  A caller that waits starts the outcome and awaits the rest
(`Launch.await`); what happens before that point and what happens after it are logged apart.
-/
namespace Schemata

inductive ParseError where
  | invalid (report : Report)
  | mustWait
  deriving DecidableEq

/-- The words for work met by a caller that does not wait. -/
def mustWaitText : String := "asynchronous validation encountered during synchronous parse; use parse_async"

def ParseError.text : ParseError → String
  | .invalid report => report.listing
  | .mustWait => mustWaitText

variable {α : Type}

/-- Awaits what is left, if anything is. -/
def Launch.await : Launch α → Counters → Run α
  | .ready a, counters => ⟨a, [], counters⟩
  | .pending work, counters => work.await counters

/-- What a caller that does not wait makes of a launch. -/
def Launch.verdictNow : Launch (Verdict α) → Except ParseError α
  | .ready (.ok a) => .ok a
  | .ready (.error report) => .error (.invalid report)
  | .pending _ => .error .mustWait

/-- The refusal to wait as an issue at the root. -/
def ParseError.toReport : ParseError → Report
  | .invalid report => report
  | .mustWait => .custom .root mustWaitText

def Outcome.parse (o : Outcome (Verdict α)) (counters : Counters) : Run (Except ParseError α) :=
  (o.start counters).map Launch.verdictNow

/-- A verdict at once, with every failure a report. -/
def Outcome.safeParse (o : Outcome (Verdict α)) (counters : Counters) : Run (Verdict α) :=
  (o.parse counters).map fun
    | .ok a => .ok a
    | .error e => .error e.toReport

def Outcome.parseAsync (o : Outcome (Verdict α)) (counters : Counters) : Run (Verdict α) := o.settle counters

/-- An awaited verdict with every failure a report, which a verdict that was awaited has already. -/
def Outcome.safeParseAsync (o : Outcome (Verdict α)) (counters : Counters) : Run (Verdict α) :=
  (o.parseAsync counters).map fun
    | .ok a => .ok a
    | .error report => .error report

/-- **Waiting is awaiting what was started.** -/
theorem Outcome.result_parseAsync (o : Outcome (Verdict α)) (counters : Counters) :
    (o.parseAsync counters).result = ((o.start counters).result.await (o.start counters).counters).result := by
  rw [Outcome.parseAsync, Outcome.settle_eq]
  cases (o.start counters).result <;> rfl

end Schemata
