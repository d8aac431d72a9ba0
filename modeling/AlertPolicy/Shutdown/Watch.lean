/-!
Watch channels, as a library gives them. A channel holds one value at a time, which its sender
replaces. Each receiver keeps for itself up to where it has seen the values of its channel. The code
relies on the library by its laws only; an implementation that counts the values stands beside them.
-/

namespace AlertPolicy

/-- What polling a future comes to. -/
inductive Poll (α : Type) where
  | pending
  | ready (a : α)
  deriving DecidableEq, Repr

/-- No sender of the channel is left. -/
inductive ReceiveError where
  | closed
  deriving DecidableEq, Repr

structure WatchLibrary where
  /-- What all channels hold. -/
  World : Type
  Sender : Type
  Receiver : Type
  channel : Bool → World → Sender × Receiver × World
  /-- The old value is returned. -/
  sendReplace : Sender → Bool → World → Bool × World
  clone : Receiver → World → Receiver × World
  borrow : Receiver → World → Bool
  borrowAndUpdate : Receiver → World → Bool × Receiver × World
  /-- Whether there is a value that the receiver has not seen. -/
  hasChanged : Receiver → World → Bool
  /-- One poll for such a value. -/
  changed : Receiver → World → Poll (Except ReceiveError Unit) × Receiver × World
  /-- What was looked at counts as seen. -/
  hasChanged_borrowAndUpdate : ∀ {rx w b rx' w'}, borrowAndUpdate rx w = (b, rx', w') →
    hasChanged rx' w' = false
  /-- A change is a value that was not seen, and counts as seen once it has been told. -/
  hasChanged_changed : ∀ {rx w a rx' w'}, changed rx w = (.ready (.ok a), rx', w') →
    hasChanged rx w = true ∧ hasChanged rx' w' = false

namespace WatchLibrary

variable {c : WatchLibrary}

/-! ### Laws -/

/-- What the laws of a library speak of. -/
structure View (c : WatchLibrary) where
  Channel : Type
  sends : c.Sender → Channel
  receives : c.Receiver → Channel
  /-- The receiver is one of those that the library gave out. -/
  Held : c.Receiver → c.World → Prop

namespace View

/-- No receiver is told anything. -/
structure Keeps (v : c.View) (w w' : c.World) : Prop where
  held : ∀ {rx}, v.Held rx w → v.Held rx w'
  borrow : ∀ {rx}, v.Held rx w → c.borrow rx w' = c.borrow rx w
  hasChanged : ∀ {rx}, v.Held rx w → c.hasChanged rx w' = c.hasChanged rx w

/-- There is a receiver in the place of another, of the same channel. -/
structure Continues (v : c.View) (rx : c.Receiver) (w : c.World) (rx' : c.Receiver)
    (w' : c.World) : Prop where
  keeps : v.Keeps w w'
  held : v.Held rx' w'
  receives : v.receives rx' = v.receives rx

/-- A channel that is new to all receivers, and holds a value. -/
structure Opens (v : c.View) (b : Bool) (w : c.World) (tx : c.Sender) (rx : c.Receiver)
    (w' : c.World) : Prop where
  keeps : v.Keeps w w'
  held : v.Held rx w'
  sends : v.sends tx = v.receives rx
  borrow : c.borrow rx w' = b
  fresh : ∀ r, v.Held r w → v.receives r ≠ v.receives rx

/-- The documented behaviour of the operations. Senders are not dropped, so that one is left for each
channel, and waiting for a change never fails. -/
structure Lawful (v : c.View) : Prop where
  /-- All receivers of a channel read the one value that it holds. -/
  borrow_eq : ∀ {rx rx' w}, v.Held rx w → v.Held rx' w → v.receives rx = v.receives rx' →
    c.borrow rx w = c.borrow rx' w
  channel : ∀ {b w tx rx w'}, c.channel b w = (tx, rx, w') → v.Opens b w tx rx w'
  /-- To send is to tell every receiver of the channel, even if the value is the same. -/
  sent : ∀ {tx b w old w' rx}, c.sendReplace tx b w = (old, w') → v.Held rx w →
    v.receives rx = v.sends tx →
      v.Held rx w' ∧ c.borrow rx w' = b ∧ c.hasChanged rx w' = true
  sent_elsewhere : ∀ {tx b w old w' rx}, c.sendReplace tx b w = (old, w') → v.Held rx w →
    v.receives rx ≠ v.sends tx →
      v.Held rx w' ∧ c.borrow rx w' = c.borrow rx w ∧ c.hasChanged rx w' = c.hasChanged rx w
  clone : ∀ {rx w rx' w'}, c.clone rx w = (rx', w') → v.Held rx w → v.Continues rx w rx' w'
  borrowAndUpdate : ∀ {rx w b rx' w'}, c.borrowAndUpdate rx w = (b, rx', w') → v.Held rx w →
    b = c.borrow rx w ∧ v.Continues rx w rx' w'
  changed : ∀ {rx w a rx' w'}, c.changed rx w = (a, rx', w') → v.Held rx w →
    v.Continues rx w rx' w' ∧ a = if c.hasChanged rx w then .ready (.ok ()) else .pending
  /-- Nothing is seen by waiting in vain. -/
  changed_pending : ∀ {rx w rx' w'}, c.changed rx w = (.pending, rx', w') → v.Held rx w →
    c.hasChanged rx' w' = false

end View

end WatchLibrary

/-! ### Counted values -/

/-- The value of a channel and how many there were before it. -/
structure CountedValue where
  value : Bool
  version : Nat
  deriving DecidableEq, Repr

/-- A receiver of the channel of that number, and the version that it has seen last. -/
structure CountedReceiver where
  channel : Nat
  seen : Nat
  deriving DecidableEq, Repr

/-- Channels in the order in which they were made. -/
abbrev WatchLibrary.counted : WatchLibrary where
  World := List CountedValue
  Sender := Nat
  Receiver := CountedReceiver
  channel b w := (w.length, ⟨w.length, 0⟩, w ++ [⟨b, 0⟩])
  sendReplace tx b w := (w[tx]?.any (·.value), w.modify tx fun x => ⟨b, x.version + 1⟩)
  clone rx w := (rx, w)
  borrow rx w := w[rx.channel]?.any (·.value)
  borrowAndUpdate rx w :=
    match w[rx.channel]? with
    | some x => (x.value, { rx with seen := x.version }, w)
    | none => (false, rx, w)
  hasChanged rx w := w[rx.channel]?.any (·.version != rx.seen)
  changed rx w :=
    match w[rx.channel]? with
    | some x =>
        if x.version = rx.seen then (.pending, rx, w)
        else (.ready (.ok ()), { rx with seen := x.version }, w)
    | none => (.ready (.error .closed), rx, w)
  hasChanged_borrowAndUpdate := by
    intro rx w b rx' w' h
    split at h
    · next x hx =>
        cases h
        simp [hx]
    · next hx =>
        cases h
        simp [hx]
  hasChanged_changed := by
    intro rx w a rx' w' h
    split at h
    · next x hx =>
        split at h
        · cases h
        · next hne =>
            cases h
            simp [hx, hne]
    · cases h

end AlertPolicy
