import AlertPolicy.Evaluation
import AlertPolicy.Log
import AlertPolicy.Policy.Document
import AlertPolicy.Report
import AlertPolicy.Store.Memory

/-!
What comes of one rule at one time: a report, or the reason why there is none. Nothing is fetched
for a rule that cannot be evaluated whatever the samples are, and at most one fetch is made for any
rule.
-/

namespace AlertPolicy.Engine

open AlertPolicy.Expr Policy Sample Store Time

inductive RuleFailure where
  | expr (e : ExprError)
  | notVariable (operand : Operand)
  | store (e : StoreError)
  deriving DecidableEq, Repr

def RuleFailure.message : RuleFailure → String
  | .expr e => e.message
  | .notVariable o => "left operand " ++ o.source ++ " is not a variable"
  | .store e => "sample store error: " ++ e.message

structure Outcome where
  group : String
  index : Nat
  rule : Rule
  /-- The variable that was fetched. -/
  fetched : Option String
  result : Except RuleFailure Report

/-- Evaluates the rule at `index` of the group. The threshold is looked at before any sample is. -/
def evaluateRule (source : Source) (time : Instant) (g : Group) (index : Nat) (r : Rule) :
    Outcome :=
  let failed (f : RuleFailure) : Outcome := ⟨g.name, index, r, none, .error f⟩
  match Condition.parse r.expr with
  | .error e => failed (.expr e)
  | .ok c =>
      match c.threshold with
      | .error e => failed (.expr (.threshold e))
      | .ok _ =>
          match c.left.reference? with
          | none => failed (.notVariable c.left)
          | some v =>
              let result :=
                match source v with
                | .error e => .error (.store e)
                | .ok series =>
                    match c.evaluate series with
                    | .error e => .error (.expr (.threshold e))
                    | .ok labels => .ok ⟨g.name, index, r.record, g.annotations, labels, time⟩
              ⟨g.name, index, r, some v, result⟩

namespace Outcome

def report? (o : Outcome) : Option Report := o.result.toOption

/-- What is said of a rule that gave no report. -/
def events (o : Outcome) : List LogEvent :=
  let place := [("group", o.group), ("index", toString o.index), ("record", o.rule.record)]
  match o.result with
  | .ok _ => []
  | .error (.expr (.parse e)) =>
      [⟨.warn, "expression syntax error",
        place ++ [("expr", o.rule.expr), ("position", toString e.position),
          ("rule", e.production.name)]⟩]
  | .error f => [⟨.warn, "rule evaluation failed", place ++ [("error", f.message)]⟩]

end Outcome

end AlertPolicy.Engine
