import AlertPolicy.Shutdown
import AlertPolicy.Shutdown.Watch

/-!
Shutdown handles on watch channels. A handle has the sender of its family, which is shared, and a
receiver of its own; to wait is to look at a further receiver again whenever the channel changes.
-/

namespace AlertPolicy.Shutdown

variable {c : WatchLibrary}

structure Handle (c : WatchLibrary) where
  tx : c.Sender
  rx : c.Receiver

/-- How far waiting has come: to its end, or it goes on with a receiver. -/
inductive Waiting (c : WatchLibrary) where
  | ended
  | pending (rx : c.Receiver)

mutual

/-- The head of the loop of waiting, which is left once the flag is seen to be set. -/
def look (rx : c.Receiver) (w : c.World) : Waiting c × c.World :=
  match _ : c.borrowAndUpdate rx w with
  | (set, rx', w') => if set then (.ended, w') else await rx' w'
termination_by 2 * (c.hasChanged rx w).toNat + 1
decreasing_by
  rename_i hlooked _
  rw [c.hasChanged_borrowAndUpdate hlooked, Bool.toNat_false]
  omega

/-- The rest of the loop, which is where waiting is taken up again. Nothing is waited for if there can
be no change any more. -/
def await (rx : c.Receiver) (w : c.World) : Waiting c × c.World :=
  match _ : c.changed rx w with
  | (.pending, rx', w') => (.pending rx', w')
  | (.ready (.error _), _, w') => (.ended, w')
  | (.ready (.ok _), rx', w') => look rx' w'
termination_by 2 * (c.hasChanged rx w).toNat
decreasing_by
  rename_i hchanged
  -- A second round is begun only with a change that has been told, and with none left to tell.
  obtain ⟨hbefore, hafter⟩ := c.hasChanged_changed hchanged
  rw [hbefore, hafter, Bool.toNat_true, Bool.toNat_false]
  omega

end

namespace Handle

def new (w : c.World) : Handle c × c.World :=
  let (tx, rx, w) := c.channel false w
  (⟨tx, rx⟩, w)

def clone (h : Handle c) (w : c.World) : Handle c × c.World :=
  let (rx, w) := c.clone h.rx w
  (⟨h.tx, rx⟩, w)

def trigger (h : Handle c) (w : c.World) : c.World := (c.sendReplace h.tx true w).2

def isTriggered (h : Handle c) (w : c.World) : Bool := c.borrow h.rx w

/-- The first poll of waiting for the trigger. -/
def cancelled (h : Handle c) (w : c.World) : Waiting c × c.World :=
  let (rx, w) := c.clone h.rx w
  look rx w

end Handle

/-! ### All handles -/

structure Registry (c : WatchLibrary) where
  world : c.World
  /-- The handles in the order in which they were made. -/
  handles : List (Handle c)
  /-- What was waited for, each with the number of the handle. -/
  waits : List (Nat × Waiting c)

inductive Act where
  | use (u : Use)
  | poll (handle : Nat)
  /-- To poll again what was pending. -/
  | resume (wait : Nat)
  deriving DecidableEq, Repr

namespace Registry

def start (w : c.World) : Registry c := ⟨w, [], []⟩

def use (s : Registry c) : Use → Registry c
  | .create =>
      let (h, w) := Handle.new s.world
      { s with world := w, handles := s.handles ++ [h] }
  | .clone i =>
      match s.handles[i]? with
      | some h =>
          let (h, w) := h.clone s.world
          { s with world := w, handles := s.handles ++ [h] }
      | none => s
  | .trigger i =>
      match s.handles[i]? with
      | some h => { s with world := h.trigger s.world }
      | none => s

def poll (s : Registry c) (i : Nat) : Registry c :=
  match s.handles[i]? with
  | some h =>
      let (wait, w) := h.cancelled s.world
      { s with world := w, waits := s.waits ++ [(i, wait)] }
  | none => s

def resume (s : Registry c) (j : Nat) : Registry c :=
  match s.waits[j]? with
  | some (i, .pending rx) =>
      let (wait, w) := await rx s.world
      { s with world := w, waits := s.waits.set j (i, wait) }
  | _ => s

def act (s : Registry c) : Act → Registry c
  | .use u => s.use u
  | .poll i => s.poll i
  | .resume j => s.resume j

def run (s : Registry c) (acts : List Act) : Registry c := acts.foldl act s

end Registry

end AlertPolicy.Shutdown
