import AlertPolicy.Policy.Check
import AlertPolicy.Policy.Reading

/-!
Loading of a policy file: its octets must be UTF-8 text, the text must be a document, and the
document must be one that can be scheduled. Nothing is kept between loads.
-/

namespace AlertPolicy.Policy

inductive LoadError where
  | unreadable
  | notDocument
  | invalid (fault : DocumentFault)
  deriving DecidableEq, Repr

def LoadError.message : LoadError → String
  | .unreadable => "IO error"
  | .notDocument => "YAML parse error"
  | .invalid fault => "Validation error: " ++ fault.message

/-- Loads a document from text. -/
def Document.load [Yaml.Library] (s : String) : Except LoadError Document :=
  match Document.ofYaml? s with
  | none => .error .notDocument
  | some d =>
      match d.fault? with
      | some fault => .error (.invalid fault)
      | none => .ok d

/-- The text of a file that is there, if it is UTF-8. -/
def fileText? (file : Option ByteArray) : Option String := file.bind String.fromUTF8?

def Document.loadFile [Yaml.Library] (file : Option ByteArray) : Except LoadError Document :=
  match fileText? file with
  | none => .error .unreadable
  | some s => Document.load s

end AlertPolicy.Policy
