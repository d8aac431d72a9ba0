/-!
Shutdown handles. Handles come in families, each made by cloning from one first handle; a family
shares one flag, which is set by any of its handles and never taken back.
-/

namespace AlertPolicy

/-- All handles there are, by their numbers. -/
structure Shutdown where
  /-- The family of each handle, named by the number of its first handle. -/
  families : List Nat
  /-- The families the flag of which is set. -/
  triggeredFamilies : List Nat
  deriving DecidableEq, Repr

namespace Shutdown

/-- One handle, not triggered. -/
def start : Shutdown := ⟨[0], []⟩

/-- A first handle of a new family. -/
def create (s : Shutdown) : Shutdown := { s with families := s.families ++ [s.families.length] }

/-- A further handle of the family of `handle`. -/
def clone (s : Shutdown) (handle : Nat) : Shutdown :=
  { s with families := s.families ++ s.families[handle]?.toList }

def trigger (s : Shutdown) (handle : Nat) : Shutdown :=
  { s with triggeredFamilies := s.families[handle]?.toList ++ s.triggeredFamilies }

def isTriggered (s : Shutdown) (handle : Nat) : Bool :=
  s.families[handle]?.any s.triggeredFamilies.contains

/-- Whether waiting for the trigger of a handle ends at once. Waiting changes nothing. -/
def resolves (s : Shutdown) (handle : Nat) : Bool := s.isTriggered handle

/-- What can be done with handles. -/
inductive Use where
  | create
  | clone (handle : Nat)
  | trigger (handle : Nat)
  deriving DecidableEq, Repr

def use (s : Shutdown) : Use → Shutdown
  | .create => s.create
  | .clone handle => s.clone handle
  | .trigger handle => s.trigger handle

/-- A flag that is set stays set. -/
theorem isTriggered_use {s : Shutdown} {handle : Nat} (u : Use) (h : s.isTriggered handle = true) :
    (s.use u).isTriggered handle = true := by
  rw [isTriggered, Option.any_eq_true] at h
  obtain ⟨family, hfamily, hset⟩ := h
  have hlt := (List.getElem?_eq_some_iff.1 hfamily).1
  have hkept (more : List Nat) : (s.families ++ more)[handle]? = some family := by
    rw [List.getElem?_append_left hlt, hfamily]
  rw [isTriggered, Option.any_eq_true]
  cases u with
  | create => exact ⟨family, hkept _, hset⟩
  | clone other => exact ⟨family, hkept _, hset⟩
  | trigger other =>
      refine ⟨family, hfamily, ?_⟩
      rw [List.contains_iff_mem] at hset ⊢
      exact List.mem_append_right _ hset

end Shutdown

end AlertPolicy
