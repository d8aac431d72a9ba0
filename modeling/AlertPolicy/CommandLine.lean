import AlertPolicy.Engine.Supervision
import AlertPolicy.EnvironmentFile
import AlertPolicy.Invocation
import AlertPolicy.Text.Json
import AlertPolicy.Store.Server

/-!
What each command prints and the code it ends with: zero if all is well, one if the command fails
or finds an error, two for a command line that cannot be understood.
-/

namespace AlertPolicy.CommandLine

open AlertPolicy.Expr Engine Policy Store Text Time

/-- What a command can see. -/
structure Surroundings where
  environment : Environment
  /-- What a file holds, by its path. -/
  file? : String → Option ByteArray
  endpoint : Endpoint
  now : Instant
  /-- The signals that come while the engine runs. -/
  signals : List Arrival

structure Response where
  code : UInt32
  out : String
  err : String
  deriving DecidableEq

def succeeded (out : String) : Response := ⟨0, out, ""⟩

def failed (err : String) : Response := ⟨1, "", err⟩

def lines (ls : List String) : String := String.join (ls.map (· ++ "\n"))

/-! ### Parsing one expression -/

def operatorName : Operator → String
  | .equal => "equal"
  | .notEqual => "not_equal"
  | .lessOrEqual => "less_or_equal"
  | .greaterOrEqual => "greater_or_equal"
  | .less => "less"
  | .greater => "greater"

def operandJson (o : Operand) : Json :=
  .record [("kind", .text o.kind.name), ("text", .text o.text)]

def conditionJson (c : Condition) : Json :=
  .record [("left", operandJson c.left), ("operator", .text (operatorName c.operator)),
    ("right", operandJson c.right)]

/-- How many characters of the text begin before a byte offset. -/
def columnOf (s : String) (position : Nat) : Nat :=
  let rec count : Nat → List Char → Nat
    | _, [] => 0
    | offset, c :: cs => if offset < position then count (offset + c.utf8Size) cs + 1 else 0
  count 0 s.toList

/-- The condition, or the expression with a mark under the place where reading got stuck. -/
def parse (s : String) : Response :=
  match Condition.parse s with
  | .ok c => succeeded (lines [(conditionJson c).pretty 0])
  | .error (.parse e) =>
      let mark := String.ofList (List.replicate (columnOf s e.position) ' ') ++ "^"
      failed (lines [s, mark, e.message])
  | .error e => failed (lines [e.message])

/-! ### Checking a file -/

def findingLines (severity : String) (f : Finding) : List String :=
  let path := f.location.path
  let place := if path.isEmpty then "<document>" else path
  (severity ++ ": " ++ place ++ ": " ++ f.message) ::
    (f.suggestion.map fun s => "  hint: " ++ s).toList

/-- All findings, errors first, and how many there are. -/
def check (w : Surroundings) (path : String) : Response :=
  match fileText? (w.file? path) with
  | none => failed (lines ["Error: failed to read " ++ path])
  | some s =>
      let found := findingsIn s
      let counts := path ++ ": " ++ toString found.errors.length ++ " error(s), " ++
        toString found.warnings.length ++ " warning(s)"
      let out := lines (found.errors.flatMap (findingLines "error") ++
        found.warnings.flatMap (findingLines "warning") ++ [counts])
      ⟨if found.isValid then 0 else 1, out, ""⟩

/-! ### Running the engine -/

def reportLine : ReportFormat → Report → String
  | .text => Report.textLine
  | .json => Report.jsonLine

/-- Seconds since 1970, in 64 bits. -/
def secondsOf (t : Instant) : Int64 := Int64.ofInt (t.nanoseconds.fdiv Instant.nanosPerSecond)

/-- The reports of one tick, or of all ticks until a signal ends the run. -/
def run (w : Surroundings) (s : Settings) (once : Bool) : Response :=
  match (w.endpoint.connect s.server).result with
  | .error _ => failed (lines ["Error: failed to connect to redis"])
  | .ok replies =>
      let file := w.file? s.policyFile
      match State.ofFile s.policyFile file with
      | .error _ => failed (lines ["Error: failed to load " ++ s.policyFile])
      | .ok (state, _) =>
          let source := replies.toSource s.server (secondsOf w.now)
          let ticks :=
            if once then [(state.tick source w.now).1]
            else
              let pace := Pace.ofDuration s.tick w.now
              (state.supervise file pace source w.signals).1.done.map (·.tick)
          succeeded (lines (ticks.flatMap fun t => t.reports.map (reportLine s.format)))

/-! ### Commands -/

def usage : String := lines [
  "Usage: policy-engine [--profile <PROFILE>] <COMMAND>",
  "",
  "Commands:",
  "  run    Evaluate the policy file on every tick",
  "         [--policy <FILE>] [--tick <DURATION>] [--format <FORMAT>] [--once]",
  "  check  Validate a policy file [--policy <FILE>]",
  "  parse  Parse one expression and print the condition <EXPR>"]

def versionLine : String := "policy-engine 0.1.0"

/-- The settings with what the command line says in place of the environment. -/
def override (s : Settings) (policy : Option String) (tick : Option Duration)
    (format : Option ReportFormat) : Settings :=
  { s with
    policyFile := policy.getD s.policyFile
    tick := tick.getD s.tick
    format := format.getD s.format }

def perform (w : Surroundings) (s : Settings) : Command → Response
  | .run policy tick format once => run w (override s policy tick format) once
  | .check policy => check w (policy.getD s.policyFile)
  | .parse expr => parse expr

/-- Answers a command line. Variables are first taken from the file `.env`, and the profile on the
command line wins over that in the environment. -/
def respond (w : Surroundings) (args : List String) : Response :=
  let w := { w with environment := EnvironmentFile.load w.environment (w.file? ".env") }
  match Invocation.read args with
  | .help => succeeded usage
  | .version => succeeded (lines [versionLine])
  | .usageError => ⟨2, "", usage⟩
  | .command profile c =>
      let profile := profile.getD (Settings.activeProfile w.environment)
      perform w (Settings.forProfile w.environment profile) c

end AlertPolicy.CommandLine
