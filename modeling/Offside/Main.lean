import Offside.CommandLine.Dump

/-! The command line: lists the tokens of a file with the layout made visible. -/
namespace Offside.CommandLine

/-- How the tool is used. -/
def usage : String :=
  "usage: offside [-h] [-v] [--tab-width N] [--blank-lines] [--no-check] FILE"

/-- Looks up a file by its name. -/
def lookUp (name : String) : IO FileContent := do
  try
    return .bytes (← IO.FS.readBinFile name).toList
  catch
    | .noFileOrDirectory .. => return .missing
    | .inappropriateType .. => return .unreadable 21 "Is a directory"
    | .permissionDenied .. => return .unreadable 13 "Permission denied"
    | other => throw other

end Offside.CommandLine

/-- Runs the tool and gives its exit code. -/
def main (arguments : List String) : IO UInt32 := do
  match Offside.CommandLine.request arguments with
  | .help =>
    IO.println Offside.CommandLine.usage
    return 0
  | .rejected =>
    IO.eprintln Offside.CommandLine.usage
    return 2
  | .dump options =>
    let report := Offside.CommandLine.dump options (← Offside.CommandLine.lookUp options.file)
    IO.eprint report.log
    IO.print report.output
    return report.exitCode.toUInt32
