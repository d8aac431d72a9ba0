import AlertPolicy.Proofs.Expr.Cursor

/-!
What attempts come to, whatever was known before them. An attempt is judged from all farthest
obstacles up to a bound: it succeeds and knows none behind the place where it stops, it fails and
knows none behind a second bound, or it fails at one obstacle that is the farthest of all.
-/

namespace AlertPolicy.Expr

variable {α β : Type}

/-- The obstacle, if one is known, is no farther than the offset. -/
def KnownUpTo (bound : Nat) (known : Option Obstacle) : Prop :=
  ∀ o ∈ known, o.cursor.offset ≤ bound

theorem knownUpTo_none (bound : Nat) : KnownUpTo bound none := by simp [KnownUpTo]

theorem KnownUpTo.mono {n m : Nat} {known : Option Obstacle} (h : KnownUpTo n known)
    (hnm : n ≤ m) : KnownUpTo m known :=
  fun o ho => Nat.le_trans (h o ho) hnm

theorem farthest_eq {known : Option Obstacle} {o : Obstacle}
    (h : KnownUpTo o.cursor.offset known) : Obstacle.farthest known o = o := by
  cases known with
  | none => rfl
  | some k =>
      have hk : ¬ o.cursor.offset < k.cursor.offset := Nat.not_lt.2 (h k rfl)
      simp [Obstacle.farthest, hk]

theorem knownUpTo_farthest {bound : Nat} {known : Option Obstacle} {o : Obstacle}
    (h : KnownUpTo bound known) (ho : o.cursor.offset ≤ bound) :
    KnownUpTo bound (some (Obstacle.farthest known o)) := by
  cases known with
  | none => simpa [KnownUpTo, Obstacle.farthest] using ho
  | some k =>
      simp only [KnownUpTo, Obstacle.farthest, Option.mem_def, Option.some.injEq]
      rintro _ rfl
      split
      · exact h k rfl
      · exact ho

theorem farthest_of_lt {k o : Obstacle} (h : o.cursor.offset < k.cursor.offset) :
    Obstacle.farthest (some k) o = k := by
  simp [Obstacle.farthest, h]

theorem runFrom_pure (x : α) (known : Option Obstacle) :
    Attempt.runFrom (pure x) known = (some x, known) := rfl

theorem runFrom_missing (expected : Production) (c : Cursor) (known : Option Obstacle) :
    Attempt.runFrom (missing expected c : Attempt α) known =
      (none, some (Obstacle.farthest known ⟨c, expected⟩)) := rfl

theorem runFrom_bind (a : Attempt α) (f : α → Attempt β) (known : Option Obstacle) :
    (a >>= f).runFrom known =
      match a.runFrom known with
      | (some x, later) => (f x).runFrom later
      | (none, later) => (none, later) := by
  simp only [Attempt.runFrom, OptionT.run_bind, Option.elimM, StateT.run_bind]
  generalize a.run.run known = r
  obtain ⟨_ | x, later⟩ := r <;> rfl

theorem runFrom_orElse (a b : Attempt α) (known : Option Obstacle) :
    (a <|> b).runFrom known =
      match a.runFrom known with
      | (some x, later) => (some x, later)
      | (none, later) => b.runFrom later := by
  simp only [Attempt.runFrom, OptionT.run_orElse, Option.elimM, StateT.run_bind]
  generalize a.run.run known = r
  obtain ⟨_ | x, later⟩ := r <;> rfl

/-- The attempt reads `x` and stops at the cursor, and no obstacle behind it is known then. -/
def Succeeds (a : Attempt (α × Cursor)) (bound : Nat) (x : α) (stop : Cursor) : Prop :=
  ∀ known, KnownUpTo bound known →
    ∃ later, KnownUpTo stop.offset later ∧ a.runFrom known = (some (x, stop), later)

/-- The attempt fails, and no obstacle behind the second bound is known then. -/
def FailsWithin (a : Attempt α) (bound after : Nat) : Prop :=
  ∀ known, KnownUpTo bound known → ∃ later, KnownUpTo after later ∧ a.runFrom known = (none, later)

/-- The attempt fails, and the obstacle is the farthest then. -/
def FailsAt (a : Attempt α) (bound : Nat) (o : Obstacle) : Prop :=
  ∀ known, KnownUpTo bound known → a.runFrom known = (none, some o)

variable {a b : Attempt (α × Cursor)} {bound middle after : Nat} {x : α} {stop : Cursor}
  {o : Obstacle}

theorem succeeds_pure (h : bound ≤ stop.offset) :
    Succeeds (pure (x, stop)) bound x stop :=
  fun known hk => ⟨known, hk.mono h, rfl⟩

theorem Succeeds.bind {f : α × Cursor → Attempt (β × Cursor)} {y : β} {stop' : Cursor}
    (ha : Succeeds a bound x stop) (hf : Succeeds (f (x, stop)) stop.offset y stop') :
    Succeeds (a >>= f) bound y stop' := by
  intro known hk
  obtain ⟨later, hl, hrun⟩ := ha known hk
  obtain ⟨last, hlast, hrun'⟩ := hf later hl
  exact ⟨last, hlast, by rw [runFrom_bind, hrun]; exact hrun'⟩

theorem Succeeds.bind_failsAt {f : α × Cursor → Attempt β} (ha : Succeeds a bound x stop)
    (hf : FailsAt (f (x, stop)) stop.offset o) : FailsAt (a >>= f) bound o := by
  intro known hk
  obtain ⟨later, hl, hrun⟩ := ha known hk
  rw [runFrom_bind, hrun]
  exact hf later hl

theorem FailsAt.bind {f : α × Cursor → Attempt β} (ha : FailsAt a bound o) :
    FailsAt (a >>= f) bound o := by
  intro known hk
  rw [runFrom_bind, ha known hk]

theorem Succeeds.orElse (ha : Succeeds a bound x stop) : Succeeds (a <|> b) bound x stop := by
  intro known hk
  obtain ⟨later, hl, hrun⟩ := ha known hk
  exact ⟨later, hl, by rw [runFrom_orElse, hrun]⟩

theorem FailsWithin.orElse_succeeds (ha : FailsWithin a bound middle)
    (hb : Succeeds b middle x stop) : Succeeds (a <|> b) bound x stop := by
  intro known hk
  obtain ⟨later, hl, hrun⟩ := ha known hk
  obtain ⟨last, hlast, hrun'⟩ := hb later hl
  exact ⟨last, hlast, by rw [runFrom_orElse, hrun]; exact hrun'⟩

theorem FailsWithin.orElse_failsAt {a b : Attempt α} (ha : FailsWithin a bound middle)
    (hb : FailsAt b middle o) : FailsAt (a <|> b) bound o := by
  intro known hk
  obtain ⟨later, hl, hrun⟩ := ha known hk
  rw [runFrom_orElse, hrun]
  exact hb later hl

theorem failsWithin_missing {expected : Production} {c : Cursor} (h : c.offset ≤ after)
    (hb : bound ≤ after) : FailsWithin (missing expected c : Attempt α) bound after := by
  intro known hk
  exact ⟨_, knownUpTo_farthest (hk.mono hb) h, runFrom_missing expected c known⟩

theorem failsAt_missing {expected : Production} {c : Cursor} (h : bound ≤ c.offset) :
    FailsAt (missing expected c : Attempt α) bound ⟨c, expected⟩ := by
  intro known hk
  rw [runFrom_missing, farthest_eq (hk.mono h)]

/-- What is expected in vain nearer than a known obstacle does not hide it. -/
theorem runFrom_missing_of_lt {expected : Production} {c : Cursor}
    (h : c.offset < o.cursor.offset) :
    Attempt.runFrom (missing expected c : Attempt α) (some o) = (none, some o) := by
  rw [runFrom_missing, farthest_of_lt h]

theorem FailsAt.orElse {a b : Attempt α} {o' : Obstacle} (ha : FailsAt a bound o)
    (hb : b.runFrom (some o) = (none, some o')) : FailsAt (a <|> b) bound o' := by
  intro known hk
  rw [runFrom_orElse, ha known hk]
  exact hb

end AlertPolicy.Expr
