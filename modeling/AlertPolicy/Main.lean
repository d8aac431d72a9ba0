import AlertPolicy.CommandLine
import Std.Time.DateTime.Timestamp

/-!
The command line program. It has no link to a network, so a sample server is never reached from it.
-/

open AlertPolicy

/-- The octets of a file, if it can be read. -/
def readFile? (path : String) : IO (Option ByteArray) := do
  try
    return some (← IO.FS.readBinFile path)
  catch _ =>
    return none

/-- The variables in a list of entries `NAME=value`, each with a zero octet after it. -/
def environmentOf (octets : ByteArray) : Environment :=
  let entries := (octets.toList.splitOn 0).map fun entry =>
    (entry.takeWhile (· != 61), (entry.dropWhile (· != 61)).drop 1)
  fun name => (entries.lookup name.toUTF8.toList).map fun value => ⟨value.toArray⟩

def main (args : List String) : IO UInt32 := do
  let environment := environmentOf ((← readFile? "/proc/self/environ").getD ByteArray.empty)
  let env := EnvironmentFile.load environment (← readFile? ".env")
  let profile := match Invocation.read args with
    | .command profile _ => profile.getD (Settings.activeProfile env)
    | _ => ""
  let path := match Invocation.read args with
    | .command _ (.run (some path) ..) | .command _ (.check (some path)) => path
    | _ => (Settings.forProfile env profile).policyFile
  let files := [(".env", ← readFile? ".env"), (path, ← readFile? path)]
  let r := CommandLine.respond {
    environment := environment
    file? := fun p => (files.lookup p).join
    endpoint := .unreachable
    now := ⟨(← Std.Time.Timestamp.now).toNanosecondsSinceUnixEpoch.val⟩
    signals := [] } args
  IO.print r.out
  IO.eprint r.err
  return r.code
