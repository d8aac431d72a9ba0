import AlertPolicy.Sample.Series
import AlertPolicy.Store.Variable

/-!
Sources: what answers a fetch of a variable with sample series. The memory store keeps series under
the exact text of a variable and has an empty answer for every other text.
-/

namespace AlertPolicy.Store

open Sample

/-- The answer to a fetch of each variable. -/
abbrev Source := String → Except StoreError (List Series)

structure MemoryStore where
  entries : List (String × List Series)
  deriving DecidableEq, Repr

namespace MemoryStore

def empty : MemoryStore := ⟨[]⟩

def remove (m : MemoryStore) (v : String) : MemoryStore :=
  ⟨m.entries.filter (·.1 != v)⟩

/-- Replaces what was stored for the variable. -/
def insert (m : MemoryStore) (v : String) (series : List Series) : MemoryStore :=
  ⟨(v, series) :: (m.remove v).entries⟩

def fetch (m : MemoryStore) (v : String) : List Series := (m.entries.lookup v).getD []

def toSource (m : MemoryStore) : Source := fun v => .ok (m.fetch v)

end MemoryStore

end AlertPolicy.Store
