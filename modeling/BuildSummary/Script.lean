import BuildSummary.Checker

/-!
# The build script's log format

The phases of the build in the order in which the script runs them, with the markers that it
prints, and the four static checkers that it runs.
-/

namespace BuildSummary

/-! ## Phases -/

namespace Phase

def veraSetup : Phase := ⟨"MSGBLD0010", "MSGBLD0020"⟩

def cppcheckSetup : Phase := ⟨"MSGBLD0030", "MSGBLD0040"⟩

def clangFormatSetup : Phase := ⟨"MSGBLD0050", "MSGBLD0060"⟩

def changes : Phase := ⟨"MSGBLD0070", "MSGBLD0100"⟩

def configuration : Phase := ⟨"MSGBLD0230", "MSGBLD0240"⟩

def compilation : Phase := ⟨"MSGBLD0250", "MSGBLD0260"⟩

def installation : Phase := ⟨"MSGBLD0270", "MSGBLD0280"⟩

def testing : Phase := ⟨"MSGBLD0290", "MSGBLD0300"⟩

end Phase

/-! ## Other markers -/

/-- Carried by the lines that list changed files. -/
def changedFileItem : Text := "MSGBLD0095"

/-- Carried by the line that says that nothing is uploaded. -/
def uploadSkipped : Text := "MSGBLD0330"

namespace Checker

/-- The style checker for C++. -/
def vera : Checker where
  name := "VERA++"
  run := ⟨"MSGBLD0130", "MSGBLD0140"⟩
  item := "MSGBLD0135"
  placement := .afterColons

/-- The bug finder for C++. Progress, unused functions and remarks on the check itself are noise. -/
def cppcheck : Checker where
  name := "Cppcheck"
  run := ⟨"MSGBLD0150", "MSGBLD0160"⟩
  item := "MSGBLD0155"
  placement := .fromParenthesis
  noiseInLines := ["Checking"]
  noiseInMessages := ["is never used", "(information)"]

/-- The formatter for C++. -/
def clangFormat : Checker where
  name := "clang-format"
  run := ⟨"MSGBLD0170", "MSGBLD0180"⟩
  item := "MSGBLD0175"
  placement := .afterColons

/-- The style checker for Python. -/
def pep8 : Checker where
  name := "PEP8"
  run := ⟨"MSGBLD0190", "MSGBLD0200"⟩
  item := "MSGBLD0195"
  placement := .afterColons

/-- The checkers in the order of reports. -/
def all : List Checker :=
  [vera, cppcheck, clangFormat, pep8]

theorem mem_all_iff {checker : Checker} : checker ∈ all ↔
    checker = vera ∨ checker = cppcheck ∨ checker = clangFormat ∨ checker = pep8 := by
  simp only [all, List.mem_cons, List.not_mem_nil, or_false]

end Checker

end BuildSummary
