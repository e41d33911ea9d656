import BucketMount.CommandLine.Run

/-!
# The program

Reads the environment and the configuration file, runs the command line, and
prints what it comes to. The program carries no network of its own: every request
fails as it does on a machine without one.
-/

namespace BucketMount.Program

/-- The words of a machine without a network. -/
def noNetwork : String := "Network is unreachable (os error 101)"

/-- The variables that a command line may be given by. -/
def variableNames : List String :=
  ["COSI_NODE_LOG_JSON", "COSI_NODE_CONNECT_TIMEOUT_SECS", "COSI_NODE_READ_TIMEOUT_SECS"]

/-- Reads the variables that are set. -/
def readVariables : IO (List (String × String)) := do
  let entries ← variableNames.mapM fun name => do
    let value ← IO.getEnv name
    pure (value.map fun text => (name, text))
  pure (entries.filterMap id)

/-- Reads the configuration file. -/
def readConfiguration : IO (Except ConfigurationFault Configuration) := do
  let named ← IO.getEnv "KUBECONFIG"
  let home ← IO.getEnv "HOME"
  let path := named.getD (home.getD "" ++ "/.kube/config")
  try
    let text ← IO.FS.readFile path
    pure (Configuration.ofText text)
  catch _ => pure (.error (.noFile path ClientFailure.noSuchFile))

/-- The text of a written event. -/
def entryText : Log.Entry → String
  | .tree value => value.text
  | .line text => text

end BucketMount.Program

open BucketMount in
/-- Runs the command line. -/
def main (arguments : List String) : IO UInt32 := do
  let environment ← Program.readVariables
  let filterSetting ← IO.getEnv "RUST_LOG"
  let found ← Program.readConfiguration
  let report := CommandLine.run arguments ⟨environment, filterSetting, found⟩
    (Http.Transport.unreachable Program.noNetwork) ()
  for entry in report.entries do
    IO.eprintln (Program.entryText entry)
  IO.print report.output
  if let some complaint := report.complaint then IO.eprintln complaint
  pure report.exitCode.toUInt32
