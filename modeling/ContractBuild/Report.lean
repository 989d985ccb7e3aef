import ContractBuild.Run

/-!
# Reporting diagnostics

`DiagnosticReporter.report` of the program. Every diagnostic becomes one line, in the order of the
engine: errors on the error channel, everything else on the output channel. The lines are written
before any artifact and whether or not the compilation succeeded, and a record with the counts
goes to the log behind them.
-/

namespace ContractBuild.Report

/-- The channel of a diagnostic. -/
def channel (d : Diagnostic) : Channel := if d.isError then .err else .out

/-- The lines of diagnostics. -/
def lines (ds : List Diagnostic) : List Line := ds.map fun d => ⟨channel d, d.text⟩

/-- The record of a report. -/
def reportedRecord (ds : List Diagnostic) : Log.Record where
  level := .debug
  event := "diagnostics_reported"
  logger := "nccs_core.reporter"
  fields := [("total", .int ds.length), ("errors", .int (Diagnostic.count ds .error)),
    ("warnings", .int (Diagnostic.count ds .warning))]

/-- Reports diagnostics. -/
def report (ds : List Diagnostic) : Running Unit := do
  modify fun s => { s with lines := s.lines ++ lines ds }
  Running.record (reportedRecord ds)

end ContractBuild.Report
