import AlertPolicy.OrderedSet

/-!
Labels of sample series. A label names a machine and, where the samples are those of one of its
network interfaces, the interface. Labels are ordered by the resource first; a label without an
interface comes before those with one.
-/

namespace AlertPolicy.Sample

structure Label where
  resource : String
  interface : Option String
  deriving DecidableEq, Repr

namespace Label

instance : Ord Label where
  compare := compareLex (compareOn Label.resource) (compareOn Label.interface)

instance : Std.TransOrd Label :=
  inferInstanceAs
    (Std.TransCmp (compareLex (compareOn Label.resource) (compareOn Label.interface)))

instance : Std.LawfulEqOrd Label where
  compare_self := Std.ReflCmp.compare_self
  eq_of_compare {l m} h := by
    obtain ⟨hr, hi⟩ := Ordering.then_eq_eq.1 h
    cases l
    cases m
    exact congr (congrArg Label.mk (Std.LawfulEqOrd.eq_of_compare hr))
      (Std.LawfulEqOrd.eq_of_compare hi)

def text (l : Label) : String :=
  match l.interface with
  | some i => l.resource ++ "/" ++ i
  | none => l.resource

end Label

end AlertPolicy.Sample
