import Mathlib.Algebra.Order.Floor.Div
import AlertPolicy.Proofs.Engine.History
import AlertPolicy.Proofs.Engine.Rounds

/-!
How far the ticks of a loop are apart, and which groups they run. The times of two ticks are never
closer than the period, so a group that has no longer interval runs in every tick; and as long as no
tick comes late, the times are multiples of the period and so are the waits of every group.
-/

namespace AlertPolicy.Engine

open Policy Store Time

/-- No other group of the document has the name of the group. -/
def Sole (d : Document) (g : Group) : Prop := d.groups.filter (·.name == g.name) = [g]

namespace Sole

variable {d : Document} {g : Group}

theorem mem (h : Sole d g) : g ∈ d.groups := by
  have hmem : g ∈ d.groups.filter (·.name == g.name) := by
    rw [h]
    exact List.mem_singleton_self g
  exact (List.mem_filter.1 hmem).1

theorem eq_of_name (h : Sole d g) {x : Group} (hx : x ∈ d.groups) (hname : x.name = g.name) :
    x = g := by
  have hmem : x ∈ d.groups.filter (·.name == g.name) :=
    List.mem_filter.2 ⟨hx, beq_iff_eq.2 hname⟩
  rw [h] at hmem
  exact List.mem_singleton.1 hmem

theorem group? (h : Sole d g) : d.group? g.name = some g := by
  rw [Document.group?, ← List.head?_filter, h]
  rfl

theorem lastNamed (h : Sole d g) : ∃ i, Schedule.lastNamed g.name 0 d.groups = some (i, g) := by
  cases hlast : Schedule.lastNamed g.name 0 d.groups with
  | none => exact absurd (List.mem_map_of_mem h.mem) (Schedule.lastNamed_eq_none.1 hlast)
  | some found =>
      obtain ⟨i, x⟩ := found
      obtain ⟨hmem, hname⟩ := Schedule.mem_of_lastNamed hlast
      have heq : x = g := h.eq_of_name (List.fst_mem_of_mem_zipIdx hmem) hname
      subst heq
      exact ⟨i, rfl⟩

/-- Where all names differ, as in every document that was loaded, this holds of every group. -/
theorem of_namesDiffer (hd : d.NamesDiffer) (hg : g ∈ d.groups) : Sole d g := by
  have hcount : (d.groups.map (·.name)).count g.name = 1 :=
    List.count_eq_one_of_mem hd (List.mem_map_of_mem hg)
  rw [List.count, List.countP_map, List.countP_eq_length_filter, List.length_eq_one_iff] at hcount
  obtain ⟨x, hx⟩ := hcount
  have hmem : g ∈ d.groups.filter ((· == g.name) ∘ (·.name)) :=
    List.mem_filter.2 ⟨hg, beq_self_eq_true _⟩
  rw [hx, List.mem_singleton] at hmem
  rw [hmem] at hx ⊢
  exact hx

theorem mem_running {s : State} (h : Sole s.document g)
    (hs : s.schedule.Follows s.document.groups) (time : Instant) :
    g ∈ s.running time ↔ Schedule.periodOf g = none ∨ s.schedule.lastRun? g.name = none ∨
      ∃ p last, Schedule.periodOf g = some p ∧ s.schedule.lastRun? g.name = some last ∧
        (p.milliseconds * 1000000 : Int) ≤ time.nanoseconds - last.nanoseconds := by
  obtain ⟨i, hlast⟩ := h.lastNamed
  rw [← Schedule.shouldRun_iff_of_lastNamed hs hlast, ← Schedule.mem_due, State.running,
    List.mem_filterMap]
  constructor
  · intro ⟨name, hdue, hfound⟩
    rw [name_of_group? hfound]
    exact hdue
  · intro hdue
    exact ⟨g.name, hdue, h.group?⟩

theorem lastRun?_tickFrom {sources : Sources} {s : State} (h : Sole s.document g)
    (hs : s.schedule.Follows s.document.groups) (n : Nat) (time : Instant) :
    (s.tickFrom sources n time).state.schedule.lastRun? g.name =
      if g ∈ s.running time then some time else s.schedule.lastRun? g.name := by
  have hnamed : g.name ∈ (s.running time).map (·.name) ↔ g ∈ s.running time := by
    constructor
    · intro hname
      obtain ⟨x, hx, hname⟩ := List.mem_map.1 hname
      rw [← h.eq_of_name (mem_of_group? hx) hname]
      exact hx
    · exact fun hg => List.mem_map_of_mem hg
  have hran : ∀ x ∈ s.running time, x ∈ s.document.groups := fun x hx => mem_of_group? hx
  rw [State.schedule_tickFrom, lastRun?_recordRuns hs hran]
  simp only [hnamed]

end Sole

/-! ### Deadlines -/

variable {p : Pace} {sources : Sources} {first s : State} {g : Group} {beats : List Beat}
  {n deadline : Nat}

theorem add_le_nextDeadline (period due reached : Nat) :
    due + period ≤ nextDeadline period due reached := by
  rw [nextDeadline]
  split <;> omega

theorem nextDeadline_of_le {period due reached : Nat} (h : reached ≤ due + 5000000) :
    nextDeadline period due reached = due + period := by
  rw [nextDeadline, if_neg (by omega)]

theorem timeOf_of_le {due : Nat} (h : p.origin.nanoseconds + due ≤ Instant.last.nanoseconds)
    (begun : Nat) : p.timeOf due begun = p.origin.add due := by
  have hdate : p.origin.add? due = some (p.origin.add due) := if_pos h
  rw [Pace.timeOf, hdate]
  rfl

/-- The ticks are due and begin one after the other, each at the time of its deadline, and the next
one is due at the deadline given. -/
inductive Paced (p : Pace) : List Beat → Nat → Prop where
  | start : Paced p [] 0
  | beat {beats : List Beat} {b : Beat} (h : Paced p beats b.due) (hbegun : b.due ≤ b.begun)
      (htime : b.tick.time = p.timeOf b.due b.begun) :
      Paced p (beats ++ [b]) (nextDeadline p.period b.due b.begun)

theorem Rounds.paced (h : Rounds p sources first beats s n deadline) : Paced p beats deadline := by
  induction h with
  | start => exact .start
  | @round beats s n deadline begun q h hbegun hq ih =>
      refine Paced.beat ih hbegun ?_
      rw [hq, State.time_tickFrom]

theorem Loop.Sound.paced {l : Loop} (h : l.Sound p sources first) :
    Paced p l.started l.deadline := by
  obtain ⟨state, fetches, handles, handle, clock, deadline, done, phase⟩ := l
  cases phase with
  | waiting => exact Rounds.paced h
  | stopped => exact Rounds.paced h
  | ticking b tasks =>
      obtain ⟨s, n, hrounds, -⟩ := h.rounds
      have hnext := hrounds.paced.beat h.begun h.time
      rw [← h.deadline] at hnext
      exact hnext

theorem Paced.of_mem (h : Paced p beats deadline) {b : Beat} (hb : b ∈ beats) :
    b.due ≤ b.begun ∧ b.tick.time = p.timeOf b.due b.begun := by
  induction h with
  | start => exact absurd hb List.not_mem_nil
  | @beat beats c h hbegun htime ih =>
      cases List.mem_append.1 hb with
      | inl hb => exact ih hb
      | inr hb =>
          rw [List.mem_singleton.1 hb]
          exact ⟨hbegun, htime⟩

theorem Paced.deadline_eq (h : Paced p beats deadline) :
    deadline = (beats.getLast?.map fun b => nextDeadline p.period b.due b.begun).getD 0 := by
  cases h with
  | start => rfl
  | beat h hbegun htime => simp

theorem Paced.due_first (h : Paced p beats deadline) {b : Beat} (hb : beats[0]? = some b) :
    b.due = 0 := by
  induction h with
  | start => contradiction
  | @beat beats c h hbegun htime ih =>
      cases beats with
      | nil =>
          cases hb
          exact h.deadline_eq
      | cons x xs => exact ih hb

/-- Each tick is due as the one before it was due and began. -/
theorem Paced.due_next (h : Paced p beats deadline) {k : Nat} {b b' : Beat}
    (hb : beats[k]? = some b) (hb' : beats[k + 1]? = some b') :
    b'.due = nextDeadline p.period b.due b.begun := by
  induction h with
  | start => contradiction
  | @beat beats c h hbegun htime ih =>
      have hk : k + 1 < (beats ++ [c]).length := (List.getElem?_eq_some_iff.1 hb').1
      rw [List.length_append, List.length_singleton] at hk
      rw [List.getElem?_append_left (by omega)] at hb
      by_cases hlast : k + 1 < beats.length
      · rw [List.getElem?_append_left hlast] at hb'
        exact ih hb hb'
      · have hlength : beats.length = k + 1 := by omega
        rw [← hlength, List.getElem?_concat_length] at hb'
        cases hb'
        have hdue := h.deadline_eq
        rw [List.getLast?_eq_getElem?, hlength, Nat.add_sub_cancel, hb] at hdue
        exact hdue

/-! ### Multiples of the period -/

/-- Since the last multiple of `m` before `k`, `m` numbers have passed just if `k` is one too. -/
theorem le_sub_multiple_iff {m k : Nat} (hm : 0 < m) (hk : 0 < k) :
    m ≤ k - (k - 1) / m * m ↔ m ∣ k := by
  have hsplit := Nat.div_add_mod (k - 1) m
  have hlt := Nat.mod_lt (k - 1) hm
  rw [Nat.mul_comm] at hsplit
  constructor
  · intro hle
    have hk' : k = ((k - 1) / m + 1) * m := by
      rw [Nat.add_mul, Nat.one_mul]
      omega
    rw [hk']
    exact Nat.dvd_mul_left m _
  · intro hdvd
    exact Nat.le_of_dvd (by omega) (Nat.dvd_sub hdvd (Nat.dvd_mul_left m _))

theorem div_eq_of_not_dvd {m k : Nat} (hk : 0 < k) (h : ¬ m ∣ k) : k / m = (k - 1) / m := by
  obtain ⟨j, rfl⟩ : ∃ j, k = j + 1 := ⟨k - 1, by omega⟩
  exact Nat.succ_div_of_not_dvd h

/-- When the ticks so far were at multiples of the period, and the group ran in every `m`-th. -/
def lastRunAfter (p : Pace) (m ticks : Nat) : Option Instant :=
  if ticks = 0 then none else some (p.origin.add ((ticks - 1) / m * m * p.period))

theorem lastRunAfter_succ (p : Pace) (m k : Nat) :
    lastRunAfter p m (k + 1) =
      if m ∣ k then some (p.origin.add (k * p.period)) else lastRunAfter p m k := by
  rw [lastRunAfter, if_neg (Nat.succ_ne_zero k), Nat.add_sub_cancel]
  split
  · next hdvd => rw [Nat.div_mul_cancel hdvd]
  · next hdvd =>
    have hk : k ≠ 0 := by
      intro heq
      rw [heq] at hdvd
      exact hdvd (Nat.dvd_zero m)
    rw [lastRunAfter, if_neg hk, div_eq_of_not_dvd (Nat.pos_of_ne_zero hk) hdvd]

theorem mem_running_iff_dvd (hg : Sole s.document g) (hs : s.schedule.Follows s.document.groups)
    {d : Duration} (hd : Schedule.periodOf g = some d) {m k : Nat}
    (hm : m = (d.milliseconds * 1000000) ⌈/⌉ p.period)
    (hlast : s.schedule.lastRun? g.name = lastRunAfter p m k) :
    g ∈ s.running (p.origin.add (k * p.period)) ↔ m ∣ k := by
  have hceil (j : Nat) : m ≤ j ↔ d.milliseconds * 1000000 ≤ p.period * j := by
    rw [hm]
    exact ceilDiv_le_iff_le_mul p.positive
  rw [hg.mem_running hs, hd, hlast, lastRunAfter]
  split
  · next hk => simp [hk]
  · next hk =>
    have hpositive : 0 < m := by
      have hzero := hceil 0
      have hduration := d.positive
      omega
    rw [← le_sub_multiple_iff hpositive (Nat.pos_of_ne_zero hk), hceil, Nat.mul_sub,
      Nat.mul_comm p.period, Nat.mul_comm p.period]
    have hle : (k - 1) / m * m * p.period ≤ k * p.period := by
      refine Nat.mul_le_mul_right _ ?_
      have hdiv := Nat.div_mul_le_self (k - 1) m
      omega
    simp only [reduceCtorEq, false_or, Option.some.injEq, exists_and_left, exists_eq_left',
      Instant.add]
    omega

/-! ### Groups -/

section AnyLibrary

variable [Yaml.Library]

theorem Rounds.follows (h : Rounds p sources first beats s n deadline) (hfirst : Started first) :
    s.document = first.document ∧ s.schedule.Follows s.document.groups := by
  induction h with
  | start => exact ⟨rfl, started_follows hfirst⟩
  | @round beats s n deadline begun q h hbegun hq ih =>
      subst hq
      rw [State.schedule_tickFrom, State.document_tickFrom]
      exact ⟨ih.1, follows_recordRuns ih.2 _ _⟩

theorem Rounds.sole (h : Rounds p sources first beats s n deadline) (hfirst : Started first)
    (hg : Sole first.document g) : Sole s.document g := by
  rw [(h.follows hfirst).1]
  exact hg

/-- From the last run of a group to the next tick it is a period at least. -/
theorem Rounds.lastRun_add_le (h : Rounds p sources first beats s n deadline)
    (hfirst : Started first) (hg : Sole first.document g)
    (hrange : ∀ b ∈ beats, p.origin.nanoseconds + b.due ≤ Instant.last.nanoseconds)
    {last : Instant} (hlast : s.schedule.lastRun? g.name = some last) :
    last.nanoseconds + p.period ≤ p.origin.nanoseconds + deadline := by
  induction h with
  | start =>
      rw [started_lastRun? hfirst] at hlast
      contradiction
  | @round beats s n deadline begun q h hbegun hq ih =>
      subst hq
      have hfollows := (h.follows hfirst).2
      have hg' := h.sole hfirst hg
      have htime : p.timeOf deadline begun = p.origin.add deadline :=
        timeOf_of_le (hrange _ (List.mem_append_right _ (List.mem_singleton_self _))) begun
      have hnext := add_le_nextDeadline p.period deadline begun
      rw [hg'.lastRun?_tickFrom hfollows, htime] at hlast
      split at hlast
      · cases hlast
        simp only [Instant.add]
        omega
      · have hbefore := ih (fun b hb => hrange b (List.mem_append_left _ hb)) hlast
        omega

theorem Rounds.runs_every (h : Rounds p sources first beats s n deadline) (hfirst : Started first)
    (hg : Sole first.document g)
    (hrange : ∀ b ∈ beats, p.origin.nanoseconds + b.due ≤ Instant.last.nanoseconds)
    (hshort : ∀ d, Schedule.periodOf g = some d → d.milliseconds * 1000000 ≤ p.period) :
    ∀ b ∈ beats, g ∈ b.tick.groups := by
  induction h with
  | start => exact fun b hb => absurd hb List.not_mem_nil
  | @round beats s n deadline begun q h hbegun hq ih =>
      subst hq
      have hbefore : ∀ b ∈ beats, p.origin.nanoseconds + b.due ≤ Instant.last.nanoseconds :=
        fun b hb => hrange b (List.mem_append_left _ hb)
      intro b hb
      cases List.mem_append.1 hb with
      | inl hb => exact ih hbefore b hb
      | inr hb =>
          have hfollows := (h.follows hfirst).2
          have hg' := h.sole hfirst hg
          have htime : p.timeOf deadline begun = p.origin.add deadline :=
            timeOf_of_le (hrange _ (List.mem_append_right _ (List.mem_singleton_self _))) begun
          rw [List.mem_singleton.1 hb, State.groups_tickFrom, hg'.mem_running hfollows, htime]
          cases hperiod : Schedule.periodOf g with
          | none => exact .inl rfl
          | some d =>
              cases hlast : s.schedule.lastRun? g.name with
              | none => exact .inr (.inl rfl)
              | some last =>
                  have hspace := h.lastRun_add_le hfirst hg hbefore hlast
                  have hle := hshort d hperiod
                  refine .inr (.inr ⟨d, last, rfl, rfl, ?_⟩)
                  simp only [Instant.add]
                  omega

/-- The induction carries the deadline and the last run along, since these decide the next tick. -/
theorem Rounds.multiples (h : Rounds p sources first beats s n deadline) (hfirst : Started first)
    (hg : Sole first.document g) {d : Duration} (hd : Schedule.periodOf g = some d)
    (hrange : ∀ b ∈ beats, p.origin.nanoseconds + b.due ≤ Instant.last.nanoseconds)
    (hpunctual : ∀ b ∈ beats, b.begun ≤ b.due + 5000000) {m : Nat}
    (hm : m = (d.milliseconds * 1000000) ⌈/⌉ p.period) :
    deadline = beats.length * p.period ∧
    s.schedule.lastRun? g.name = lastRunAfter p m beats.length ∧
    ∀ k b, beats[k]? = some b → (g ∈ b.tick.groups ↔ m ∣ k) := by
  induction h with
  | start =>
      refine ⟨(Nat.zero_mul _).symm, started_lastRun? hfirst _, ?_⟩
      intro k b hb
      contradiction
  | @round beats s n deadline begun q h hbegun hq ih =>
      subst hq
      obtain ⟨hdeadline, hlast, hmultiples⟩ := ih
        (fun b hb => hrange b (List.mem_append_left _ hb))
        (fun b hb => hpunctual b (List.mem_append_left _ hb))
      have hfollows := (h.follows hfirst).2
      have hg' := h.sole hfirst hg
      have hself (b : Beat) : b ∈ beats ++ [b] :=
        List.mem_append_right _ (List.mem_singleton_self b)
      have htime : p.timeOf deadline begun = p.origin.add (beats.length * p.period) := by
        rw [timeOf_of_le (hrange _ (hself _)), hdeadline]
      have hruns := mem_running_iff_dvd hg' hfollows hd hm hlast
      rw [htime, List.length_append, List.length_singleton]
      refine ⟨?_, ?_, ?_⟩
      · rw [nextDeadline_of_le (hpunctual _ (hself _)), hdeadline, Nat.add_mul, Nat.one_mul]
      · rw [hg'.lastRun?_tickFrom hfollows, lastRunAfter_succ, hlast]
        simp only [hruns]
      · intro k b hb
        by_cases hk : k < beats.length
        · rw [List.getElem?_append_left hk] at hb
          exact hmultiples k b hb
        · have hlt := (List.getElem?_eq_some_iff.1 hb).1
          rw [List.length_append, List.length_singleton] at hlt
          have heq : k = beats.length := by omega
          subst heq
          rw [List.getElem?_concat_length] at hb
          cases hb
          rw [State.groups_tickFrom]
          exact hruns

/-- As long as there is a date for every tick, a tick has the time of its deadline, and the next one
is due a period after that or, if it began late, after its beginning; so their times are a period
apart at least. A group whose name no other group has runs in every tick if its interval is no
longer than the period; and if no tick begins late, it runs in every tick whose number is a multiple
of the periods that its interval takes up, and in no other. -/
theorem ticks_keep_apart (hs : Started s) (p : Pace) (sources : Sources) (handles : Shutdown)
    (handle : Nat) (moves : List Move)
    (hrange : ∀ b ∈ ((Loop.start s handles handle).play p sources moves).started,
      p.origin.nanoseconds + b.due ≤ Instant.last.nanoseconds) :
    let l := (Loop.start s handles handle).play p sources moves
    (∀ b ∈ l.started, b.tick.time = p.origin.add b.due ∧ b.due ≤ b.begun) ∧
    (∀ b, l.started[0]? = some b → b.due = 0) ∧
    (∀ k (b b' : Beat), l.started[k]? = some b → l.started[k + 1]? = some b' →
      b'.due = nextDeadline p.period b.due b.begun ∧
        b.tick.time.nanoseconds + p.period ≤ b'.tick.time.nanoseconds) ∧
    (∀ g, Sole s.document g →
      (∀ d, Schedule.periodOf g = some d → d.milliseconds * 1000000 ≤ p.period) →
        ∀ b ∈ l.done, g ∈ b.tick.groups) ∧
    ((∀ b ∈ l.done, b.begun ≤ b.due + 5000000) →
      ∀ g d, Sole s.document g → Schedule.periodOf g = some d → ∀ k b, l.done[k]? = some b →
        (g ∈ b.tick.groups ↔ (d.milliseconds * 1000000) ⌈/⌉ p.period ∣ k)) := by
  intro l
  have hsound : l.Sound p sources s := (Loop.sound_start p sources s handles handle).play moves
  have hpaced := hsound.paced
  obtain ⟨s', n, deadline, hrounds⟩ := hsound.exists_rounds
  have hrange' : ∀ b ∈ l.done, p.origin.nanoseconds + b.due ≤ Instant.last.nanoseconds :=
    fun b hb => hrange b ((done_started l).mem hb)
  have htime : ∀ b ∈ l.started, b.tick.time = p.origin.add b.due := by
    intro b hb
    rw [(hpaced.of_mem hb).2, timeOf_of_le (hrange b hb)]
  refine ⟨fun b hb => ⟨htime b hb, (hpaced.of_mem hb).1⟩, fun b => hpaced.due_first, ?_, ?_, ?_⟩
  · intro k b b' hb hb'
    have hnext := hpaced.due_next hb hb'
    refine ⟨hnext, ?_⟩
    rw [htime b (List.mem_of_getElem? hb), htime b' (List.mem_of_getElem? hb'), hnext]
    have hle := add_le_nextDeadline p.period b.due b.begun
    simp only [Instant.add]
    omega
  · intro g hg hshort
    exact hrounds.runs_every hs hg hrange' hshort
  · intro hpunctual g d hg hd
    exact (hrounds.multiples hs hg hd hrange' hpunctual rfl).2.2

end AnyLibrary

theorem ticks_keep_apart_two_seconds :
    let g : Group := ⟨"a", .empty, some "2s", []⟩
    let l := (Loop.start (State.ofDocument ⟨[g]⟩) .start 0).play (Pace.ofDuration .oneSecond ⟨0⟩)
      (fun _ _ => .ok []) [.work, .work, .work, .pass 1000000000, .work, .work]
    l.done.length = 2 ∧ (∀ b, l.done[0]? = some b → g ∈ b.tick.groups) ∧
      ∀ b, l.done[1]? = some b → g ∉ b.tick.groups := by
  intro g l
  have hrange : ∀ b ∈ l.started, (0 : Int) + b.due ≤ Instant.last.nanoseconds := by decide +kernel
  have hpunctual : ∀ b ∈ l.done, b.begun ≤ b.due + 5000000 := by decide +kernel
  have hd : Schedule.periodOf g = some ⟨2000, by decide, by decide⟩ := by decide +kernel
  have hsole : Sole ⟨[g]⟩ g := .of_namesDiffer (List.nodup_singleton _) List.mem_cons_self
  obtain ⟨-, -, -, -, hmultiples⟩ :=
    ticks_keep_apart (.ofDocument ⟨[g]⟩) (Pace.ofDuration .oneSecond ⟨0⟩) (fun _ _ => .ok [])
      .start 0 _ hrange
  have hiff := hmultiples hpunctual g _ hsole hd
  refine ⟨by decide +kernel, fun b hb => (hiff 0 b hb).2 (Nat.dvd_zero _), fun b hb hmem => ?_⟩
  have hdvd := (hiff 1 b hb).1 hmem
  exact absurd hdvd (by decide)

/-- Of two groups of one name the second never runs, even if it has no interval. -/
theorem second_group_of_name_never_runs :
    let g : Group := ⟨"a", .empty, none, [⟨"s", "vm.tx > 1"⟩]⟩
    let s := State.ofDocument ⟨[⟨"a", .empty, none, [⟨"r", "vm.rx > 1"⟩]⟩, g]⟩
    let p := Pace.ofDuration .oneSecond ⟨0⟩
    let l := (Loop.start s .start 0).play p (fun _ _ => .ok []) (List.replicate 5 .work)
    Started s ∧ g ∈ s.document.groups ∧ Schedule.periodOf g = none ∧
      (∀ b ∈ l.started, p.origin.nanoseconds + b.due ≤ Instant.last.nanoseconds) ∧
        ∃ b ∈ l.done, g ∉ b.tick.groups := by
  intro g s p l
  refine ⟨.ofDocument _, by decide +kernel, rfl, ?_, ?_⟩
  · decide +kernel
  · decide +kernel

end AlertPolicy.Engine
