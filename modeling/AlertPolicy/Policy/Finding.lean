import AlertPolicy.Expr.Error
import AlertPolicy.Policy.Document

/-!
Findings of validation: what is wrong or doubtful, where, and what to write instead. An error says
that something can never work, a warning that it probably is not meant.
-/

namespace AlertPolicy.Policy

open AlertPolicy.Expr

/-- A place in a document, or the document as a whole. -/
inductive Location where
  | document
  | groupName (group : Nat)
  | groupInterval (group : Nat)
  | groupRules (group : Nat)
  | record (group rule : Nat)
  | expr (group rule : Nat)
  deriving DecidableEq, Repr

namespace Location

def groupPath (i : Nat) : String := "groups[" ++ toString i ++ "]"

def rulePath (i j : Nat) : String := groupPath i ++ ".rules[" ++ toString j ++ "]"

def path : Location → String
  | document => ""
  | groupName i => groupPath i ++ ".name"
  | groupInterval i => groupPath i ++ ".interval"
  | groupRules i => groupPath i ++ ".rules"
  | record i j => rulePath i j ++ ".record"
  | expr i j => rulePath i j ++ ".expr"

end Location

inductive Severity where
  | error
  | warning
  deriving DecidableEq, Repr

/-- What a finding is about. -/
inductive Cause where
  | unreadable
  | emptyGroupName
  | duplicateGroupName (name : String)
  | invalidInterval (raw : String)
  | noRules
  | emptyRecord
  | duplicateRecord (record group : String)
  | noCondition (expr : String) (e : ExprError)
  | noThreshold (e : ThresholdError)
  | literalOnTheLeft (operand : Operand)
  | unknownVariable (text : String)
  deriving DecidableEq, Repr

namespace Cause

def severity : Cause → Severity
  | noRules | emptyRecord | duplicateRecord .. | literalOnTheLeft _ | unknownVariable _ => .warning
  | _ => .error

def message : Cause → String
  | unreadable => "YAML parse error"
  | emptyGroupName => "Group name must not be empty"
  | duplicateGroupName name => "Duplicate group name '" ++ name ++ "'"
  | invalidInterval raw =>
      "Invalid duration format '" ++ raw ++ "', expected e.g. '10ms', '1s', '2m30s'"
  | noRules => "Group has no rules"
  | emptyRecord => "Empty record name; reports will be hard to tell apart"
  | duplicateRecord record group =>
      "Duplicate record name '" ++ record ++ "' in group '" ++ group ++ "'"
  | noCondition expr (.parse e) =>
      "Expression does not parse: expected " ++ e.production.name ++ " at position " ++
        toString e.position ++ " in '" ++ expr ++ "'"
  | noCondition expr e => "Invalid expression '" ++ expr ++ "': " ++ e.message
  | noThreshold e => "Right operand must be a numeric literal: " ++ e.message
  | literalOnTheLeft o =>
      "Left operand " ++ o.source ++ " is a " ++ o.kind.name ++
        " literal; no samples can be fetched for it"
  | unknownVariable text =>
      "Variable '" ++ text ++
        "' is not a 'vm[.<resource>[.<interface>]].\x7brx|tx\x7d' reference"

end Cause

structure Finding where
  location : Location
  cause : Cause
  /-- What to write instead, where that is known. -/
  replacement : Option String
  deriving DecidableEq, Repr

namespace Finding

def severity (f : Finding) : Severity := f.cause.severity

def message (f : Finding) : String := f.cause.message

def suggestion (f : Finding) : Option String :=
  f.replacement.map fun r => "Did you mean '" ++ r ++ "'?"

end Finding

/-- Findings in the order in which they were made. -/
abbrev Findings := List Finding

namespace Findings

def errors (fs : Findings) : List Finding := fs.filter (·.severity = .error)

def warnings (fs : Findings) : List Finding := fs.filter (·.severity = .warning)

def isValid (fs : Findings) : Bool := fs.errors.isEmpty

def isClean (fs : Findings) : Bool := fs.errors.isEmpty && fs.warnings.isEmpty

end Findings

end AlertPolicy.Policy
