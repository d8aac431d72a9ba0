import AlertPolicy.Number.Decimal
import AlertPolicy.Sample.Label

/-!
Sample series: what was observed of one labelled resource within a window of time. The order of
the values carries no meaning.
-/

namespace AlertPolicy.Sample

structure Series where
  label : Label
  values : List Number.Binary64
  deriving DecidableEq, Repr

end AlertPolicy.Sample
