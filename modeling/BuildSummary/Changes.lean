import BuildSummary.Phase
import BuildSummary.Text.Blank

/-!
# Changed files

The build script lists the files that a change touches in a phase of its own, one file on each
line that carries the item marker. The list counts only if the phase was completed.
-/

namespace BuildSummary

namespace Phase

/-- The files that the lines list, given whether the phase is open. The line that opens it lists
nothing, and a line that carries the item marker does not end the list. -/
def listedFrom (phase : Phase) (item : Text) (isOpen : Bool) : List Text → List Text
  | [] => []
  | line :: rest =>
    if !isOpen then phase.listedFrom item (phase.opens line) rest
    else if item.occursIn line then Text.lastWord line :: phase.listedFrom item true rest
    else if phase.closes line then []
    else phase.listedFrom item true rest

/-- The files listed in the phase, in order; none if the phase was not completed. -/
def changedFiles (phase : Phase) (item : Text) (log : List Text) : List Text :=
  if phase.status log = .passed then phase.listedFrom item false log else []

end Phase

end BuildSummary
