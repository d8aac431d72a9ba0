import AlertPolicy.Policy.Finding
import AlertPolicy.Policy.Reading
import AlertPolicy.Policy.Suggestion

/-!
Validation of a document: names first, then group by group the interval, the records and each
expression. Nothing is removed from a document; a rule with an error stays and fails on each tick.
-/

namespace AlertPolicy.Policy

open AlertPolicy.Expr Store

/-- Faults of the group names from `index` on. A blank name is not counted among the names seen. -/
def nameFindings (seen : List String) (index : Nat) : List Group → Findings
  | [] => []
  | g :: gs =>
      if Text.isBlankText g.name then
        ⟨.groupName index, .emptyGroupName, none⟩ :: nameFindings seen (index + 1) gs
      else if seen.contains g.name then
        ⟨.groupName index, .duplicateGroupName g.name, none⟩ :: nameFindings seen (index + 1) gs
      else nameFindings (g.name :: seen) (index + 1) gs

def intervalFindings (i : Nat) (g : Group) : Findings :=
  match g.period with
  | .ok _ => []
  | .error raw => [⟨.groupInterval i, .invalidInterval raw, none⟩]

/-- Doubts about the record names from rule `j` on. -/
def recordFindings (i : Nat) (group : String) (seen : List String) (j : Nat) :
    List Rule → Findings
  | [] => []
  | r :: rs =>
      if Text.isBlankText r.record then
        ⟨.record i j, .emptyRecord, none⟩ :: recordFindings i group seen (j + 1) rs
      else if seen.contains r.record then
        ⟨.record i j, .duplicateRecord r.record group, none⟩ ::
          recordFindings i group seen (j + 1) rs
      else recordFindings i group (r.record :: seen) (j + 1) rs

def thresholdFindings (place : Location) (c : Condition) : Findings :=
  match c.threshold with
  | .ok _ => []
  | .error e => [⟨place, .noThreshold e, unquotedThreshold? c⟩]

def leftFindings (place : Location) (c : Condition) : Findings :=
  match c.left.reference? with
  | none => [⟨place, .literalOnTheLeft c.left, none⟩]
  | some v =>
      match VariableRef.parse v with
      | .ok _ => []
      | .error _ => [⟨place, .unknownVariable v, mendedVariable? v⟩]

def exprFindings (place : Location) (expr : String) : Findings :=
  match Condition.parse expr with
  | .error e => [⟨place, .noCondition expr e, none⟩]
  | .ok c => thresholdFindings place c ++ leftFindings place c

def ruleFindings (i : Nat) (g : Group) : Findings :=
  if g.rules.isEmpty then [⟨.groupRules i, .noRules, none⟩]
  else recordFindings i g.name [] 0 g.rules

def groupFindings (i : Nat) (g : Group) : Findings :=
  intervalFindings i g ++ ruleFindings i g ++
    g.rules.zipIdx.flatMap fun (r, j) => exprFindings (.expr i j) r.expr

def Document.validate (d : Document) : Findings :=
  nameFindings [] 0 d.groups ++ d.groups.zipIdx.flatMap fun (g, i) => groupFindings i g

/-- What is found in a text that is no document. -/
def unreadableFindings : Findings := [⟨.document, .unreadable, none⟩]

/-- What is found in a text. -/
def findingsIn [Yaml.Library] (s : String) : Findings :=
  match Document.ofYaml? s with
  | some d => d.validate
  | none => unreadableFindings

end AlertPolicy.Policy
