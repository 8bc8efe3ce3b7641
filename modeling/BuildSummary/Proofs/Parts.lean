import BuildSummary.BuildRecord

/-!
# The parts of a build

The build script marks where the parts of a build begin and end. A phase has one stretch of the log
to itself, a checker has one for each file.

## Main definitions

* `Part`: the parts of a build that stand between two markers
* `Part.phase`, `Part.markers`: the markers of a part
* `Part.status`: what a record says of a part
-/

namespace BuildSummary

/-- The parts of a build that stand between two markers, in the order of the markers: the setups,
the runs of the checkers, and the phases of the build itself. -/
inductive Part where
  | veraSetup
  | cppcheckSetup
  | clangFormatSetup
  | vera
  | cppcheck
  | clangFormat
  | pep8
  | configuration
  | compilation
  | installation
  | testing
  deriving DecidableEq

namespace Part

/-- The checker whose runs are the part, if they are. -/
def checker? : Part → Option Checker
  | vera => some .vera
  | cppcheck => some .cppcheck
  | clangFormat => some .clangFormat
  | pep8 => some .pep8
  | _ => none

/-- The markers around the part; those of checkers stand around each run. -/
def phase : Part → Phase
  | veraSetup => .veraSetup
  | cppcheckSetup => .cppcheckSetup
  | clangFormatSetup => .clangFormatSetup
  | vera => Checker.vera.run
  | cppcheck => Checker.cppcheck.run
  | clangFormat => Checker.clangFormat.run
  | pep8 => Checker.pep8.run
  | configuration => .configuration
  | compilation => .compilation
  | installation => .installation
  | testing => .testing

/-- The markers of the part, that of message lines included. -/
def markers (part : Part) : List Text :=
  part.phase.opening :: part.phase.closing :: (part.checker?.map Checker.item).toList

/-- What a record says of the part. -/
def status (record : BuildRecord) : Part → Status
  | veraSetup => record.veraSetup
  | cppcheckSetup => record.cppcheckSetup
  | clangFormatSetup => record.clangFormatSetup
  | vera => Findings.statusOf record.vera
  | cppcheck => Findings.statusOf record.cppcheck
  | clangFormat => Findings.statusOf record.clangFormat
  | pep8 => Findings.statusOf record.pep8
  | configuration => record.configuration
  | compilation => record.compilation.status
  | installation => record.installation
  | testing => record.tests.status

end Part

end BuildSummary
