import Schemata.Validator.Basic
/-!
# Union — the first candidate that accepts

Candidates are asked in order.  One that accepts at once decides, and no further one is asked; work that earlier ones
left pending is dropped.  If none does, the work of all pending ones is awaited together and the first of them that
accepts decides.  If still none does, the report holds the issues of those that refused at once and then of those that
refused later, each in order.
-/
namespace Schemata

/-- The first output among verdicts, or the reports after those gathered before. -/
def Verdict.firstOutput {α : Type} (refused : Report) : List (Verdict α) → Verdict α
  | [] => .error refused
  | .ok a :: _ => .ok a
  | .error r :: rest => firstOutput (refused.merge r) rest

/-- Asks candidates in order, with the reports of those that refused and the work of those left pending. -/
def scanCandidates (v : Value) (path : Path) (refused : Report) (waiting : List (Deferred (Verdict Value))) :
    List Check → Outcome (Verdict Value)
  | [] =>
    match waiting with
    | [] => .failure refused
    | work => .pending ((Deferred.all work).map (Verdict.firstOutput refused))
  | c :: rest =>
    (c v path).launch.bind fun
      | .ready (.ok out) => .success out
      | .ready (.error r) => scanCandidates v path (refused.merge r) waiting rest
      | .pending work => scanCandidates v path refused (waiting ++ [work]) rest

def emptyUnionText : String := "union has no candidate schemas"

/-- Whatever one of the candidates accepts. -/
def Check.union (candidates : List Check) : Check := fun v path =>
  if candidates.isEmpty then .failure (.custom path emptyUnionText) else scanCandidates v path .empty [] candidates

end Schemata
