import BemLint.Violation

/-!
# Reports

What a run of the linter has found: the violations of each file, and how many files and
violations there are. A report read from elsewhere keeps the counts that it came with; a report
put together from others counts anew.
-/
namespace BemLint

structure FileReport where
  path : Text
  violations : List Violation
deriving DecidableEq, Repr

/-- The violations of some files, with two counts. -/
structure Report where
  fileCount : Tally
  violationCount : Tally
  files : List FileReport
deriving DecidableEq, Repr

namespace Report

/-- A report whose counts are those of its files and violations. -/
def ofFiles (files : List FileReport) : Report where
  fileCount := .ofNat files.length
  violationCount := .ofNat (Text.total (files.map fun f => f.violations.length))
  files := files

def merge (reports : List Report) : Report := ofFiles (reports.flatMap (·.files))

end Report
end BemLint
