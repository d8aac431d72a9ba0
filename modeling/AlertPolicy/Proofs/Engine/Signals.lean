import AlertPolicy.Proofs.Engine.Reload
import AlertPolicy.Proofs.Engine.Supervision
import Mathlib.Data.List.Induction

/-!
Runs under signals. The engine does ticks and reloads in turn, as told by the script of signals, up
to the first signal that is no hangup, and nothing that comes after that signal matters.
-/

namespace AlertPolicy.Engine

open Policy Store Time

/-! ### Ticks and reloads in turn -/

/-- The signals that come at the ends of so many ticks. -/
def delivered (script : List Arrival) (ticks : Nat) : List Arrival :=
  (List.range ticks).flatMap fun k => arrivalsAt script (k + 1)

theorem delivered_succ (script : List Arrival) (ticks : Nat) :
    delivered script (ticks + 1) = delivered script ticks ++ arrivalsAt script (ticks + 1) := by
  simp [delivered, List.range_succ]

theorem all_delivered_of_le {script : List Arrival} {m n : Nat} (hle : m ≤ n)
    (h : (delivered script n).all Arrival.isHangup = true) :
    (delivered script m).all Arrival.isHangup = true := by
  induction hle with
  | refl => exact h
  | step _ ih =>
      rw [delivered_succ, List.all_append, Bool.and_eq_true] at h
      exact ih h.1

theorem all_isHangup_iff {arrivals : List Arrival} :
    arrivals.all Arrival.isHangup = true ↔ ∀ a ∈ arrivals, a.signal = .hangup := by
  simp [Arrival.isHangup]

theorem hangups_append_stop {early : List Arrival} {stop : Arrival}
    (hearly : ∀ a ∈ early, a.signal = .hangup) (hstop : stop.signal ≠ .hangup)
    (late : List Arrival) : hangups (early ++ stop :: late) = early := by
  have hhangups : ∀ a ∈ early, a.isHangup = true := fun a ha => beq_iff_eq.2 (hearly a ha)
  have hends : ¬ stop.isHangup = true := fun h => hstop (beq_iff_eq.1 h)
  rw [hangups, List.takeWhile_append_of_pos hhangups, List.takeWhile_cons_of_neg hends,
    List.append_nil]

theorem le_foldl_max (first : Nat) (ns : List Nat) : ∀ m ∈ first :: ns, m ≤ ns.foldl max first := by
  induction ns generalizing first with
  | nil => exact fun m hm => Nat.le_of_eq (List.mem_singleton.1 hm)
  | cons k ns ih =>
      have hacc := ih (max first k) _ List.mem_cons_self
      intro m hm
      rcases List.mem_cons.1 hm with rfl | hm
      · exact Nat.le_trans (Nat.le_max_left m k) hacc
      · rcases List.mem_cons.1 hm with rfl | hm
        · exact Nat.le_trans (Nat.le_max_right first m) hacc
        · exact ih _ m (List.mem_cons_of_mem _ hm)

/-- The times of the ticks that are done. -/
def Loop.times (l : Loop) : List Instant := l.done.map (·.tick.time)

namespace Circumstances

/-- What the engine does in a tick, which comes after so many others, and at its end. -/
def round (c : Circumstances) (file : Option ByteArray) (script : List Arrival) (tick : Nat)
    (time : Instant) : List Action :=
  .tick (c.store tick) time ::
    (reloads (fileAfter file (delivered script tick))
      (hangups (arrivalsAt script (tick + 1)))).map .reload

/-- What the engine does over ticks at the times. -/
def course (c : Circumstances) (file : Option ByteArray) (script : List Arrival)
    (times : List Instant) : List Action :=
  times.zipIdx.flatMap fun (time, tick) => c.round file script tick time

theorem course_concat (c : Circumstances) (file : Option ByteArray) (script : List Arrival)
    (times : List Instant) (time : Instant) :
    c.course file script (times ++ [time]) =
      c.course file script times ++ c.round file script times.length time := by
  simp [course, List.zipIdx_append]

end Circumstances

/-- The file that an action tries to load. -/
def Action.file? : Action → Option (Option ByteArray)
  | .tick _ _ => none
  | .reload file => some file

theorem files_round (c : Circumstances) (file : Option ByteArray) (script : List Arrival)
    (tick : Nat) (time : Instant) :
    (c.round file script tick time).filterMap Action.file? =
      reloads (fileAfter file (delivered script tick))
        (hangups (arrivalsAt script (tick + 1))) := by
  rw [Circumstances.round, List.filterMap_cons_none rfl, List.filterMap_map]
  exact List.filterMap_some

/-- Over ticks after which only hangups come, every one of these is a reload. -/
theorem files_course (c : Circumstances) (file : Option ByteArray) {script : List Arrival}
    {times : List Instant} (h : (delivered script times.length).all Arrival.isHangup = true) :
    (c.course file script times).filterMap Action.file? =
      reloads file (delivered script times.length) := by
  induction times using List.reverseRecOn with
  | nil => rfl
  | append_singleton times time ih =>
      rw [List.length_append, List.length_singleton] at h ⊢
      rw [Circumstances.course_concat, List.filterMap_append, files_round,
        ih (all_delivered_of_le (Nat.le_succ _) h), delivered_succ, reloads_append]
      rw [delivered_succ, List.all_append, Bool.and_eq_true] at h
      rw [hangups_of_all h.2]

section AnyLibrary

variable [Yaml.Library]

/-- What holds of a supervised loop between two of its ticks, and in the end. -/
structure Steered (c : Circumstances) (s : State) (file : Option ByteArray)
    (script : List Arrival) (v : Supervised) : Prop where
  idle : v.listening = true → v.Idle
  stopped : v.listening = false → v.loop.phase = .stopped
  listening : v.listening = (delivered script v.loop.done.length).all Arrival.isHangup
  holds : v.file = fileAfter file (delivered script v.loop.done.length)
  state : v.loop.state = s.afterAll (c.course file script v.loop.times)

namespace Steered

variable {c : Circumstances} {s : State} {file : Option ByteArray} {script : List Arrival}
  {v : Supervised}

theorem start (c : Circumstances) (s : State) (file : Option ByteArray) (script : List Arrival) :
    Steered c s file script (.start s file) where
  idle := fun _ => ⟨rfl, rfl, rfl, rfl⟩
  stopped := fun h => by cases h
  listening := rfl
  holds := rfl
  state := rfl

/-- The next tick, with the signals at its end. -/
theorem tick (h : Steered c s file script v) (hl : v.listening = true) :
    let next := (v.tick c (arrivalsAt script (v.loop.done.length + 1))).1
    Steered c s file script next ∧ next.loop.done.length = v.loop.done.length + 1 := by
  intro next
  obtain ⟨b, ht⟩ := Supervised.exists_ticked (h.idle hl) c
    (arrivalsAt script (v.loop.done.length + 1))
  have hlength : next.loop.done.length = v.loop.done.length + 1 := by
    rw [ht.done, List.length_append]
    rfl
  have htimes : next.loop.times = v.loop.times ++ [b.tick.time] := by
    rw [Loop.times, ht.done, List.map_append]
    rfl
  have hcount : v.loop.times.length = v.loop.done.length := List.length_map _
  refine ⟨?_, hlength⟩
  constructor
  case idle => exact ht.idle
  case stopped => exact ht.stopped
  case listening =>
    rw [hlength, delivered_succ, List.all_append, ← h.listening, hl, ht.listening, Bool.true_and]
  case holds => rw [hlength, delivered_succ, fileAfter_append, ← h.holds, ht.holds]
  case state =>
    rw [htimes, Circumstances.course_concat, State.afterAll_append, ← h.state, hcount, ht.state,
      h.holds]
    rfl

theorem runFor (h : Steered c s file script v) (limit : Nat) :
    Steered c s file script (v.runFor c script limit).1 := by
  induction limit generalizing v with
  | zero => exact h
  | succ limit ih =>
      cases hl : v.listening with
      | true =>
          rw [Supervised.runFor_idle (h.idle hl)]
          exact ih (h.tick hl).1
      | false =>
          rw [Supervised.runFor_stopped (h.stopped hl)]
          exact h

/-- As long as only hangups come, each tick is followed by the next. -/
theorem goes_on (h : Steered c s file script v) {n : Nat} (hl : v.listening = true)
    (hhangups : (delivered script (v.loop.done.length + n)).all Arrival.isHangup = true) :
    (v.runFor c script n).1.listening = true ∧
      (v.runFor c script n).1.loop.done.length = v.loop.done.length + n := by
  induction n generalizing v with
  | zero => exact ⟨hl, rfl⟩
  | succ n ih =>
      obtain ⟨hnext, hlength⟩ := h.tick hl
      have hdelivered : v.loop.done.length + (n + 1) = v.loop.done.length + 1 + n := by omega
      rw [hdelivered, ← hlength] at hhangups ⊢
      rw [Supervised.runFor_idle (h.idle hl)]
      apply ih hnext _ hhangups
      rw [hnext.listening]
      exact all_delivered_of_le (Nat.le_add_right _ n) hhangups

/-- The ticks to come see no more of the script than the signals at their ends. -/
theorem runFor_congr (h : Steered c s file script v) {script' : List Arrival} {n : Nat}
    (hsame : ∀ k, v.loop.done.length < k → k ≤ v.loop.done.length + n →
      arrivalsAt script' k = arrivalsAt script k) :
    v.runFor c script' n = v.runFor c script n := by
  induction n generalizing v with
  | zero => rfl
  | succ n ih =>
      cases hl : v.listening with
      | true =>
          obtain ⟨hnext, hlength⟩ := h.tick hl
          have hfirst := hsame (v.loop.done.length + 1) (by omega) (by omega)
          rw [Supervised.runFor_idle (h.idle hl), Supervised.runFor_idle (h.idle hl), hfirst]
          have hrest := ih hnext fun k hlt hle => hsame k (by omega) (by omega)
          simp only [hrest]
      | false =>
          have hstopped := h.stopped hl
          rw [Supervised.runFor_stopped hstopped, Supervised.runFor_stopped hstopped]

end Steered

/-! ### The document in force -/

/-- The document in force once the engine has tried to load these files one after the other: the
last that could be loaded. -/
def State.documentAfter (s : State) (files : List (Option ByteArray)) : Document :=
  match s.path with
  | none => s.document
  | some _ =>
      (files.filterMap fun file => (Document.loadFile file).toOption).getLast?.getD s.document

theorem documentAfter_act (s : State) (a : Action) (files : List (Option ByteArray)) :
    (s.act a).documentAfter files = s.documentAfter (a.file?.toList ++ files) := by
  cases a with
  | tick source time => rfl
  | reload file =>
      cases hpath : s.path with
      | none =>
          have hkept : s.act (.reload file) = s := afterReload_of_path_eq_none hpath file
          simp [hkept, State.documentAfter, hpath]
      | some path =>
          cases hload : Document.loadFile file with
          | error e =>
              have hkept : s.act (.reload file) = s := afterReload_of_error hload
              simp [hkept, State.documentAfter, hpath, Action.file?, hload, Except.toOption]
          | ok d =>
              have hadopt : s.act (.reload file) = s.adopt d :=
                afterReload_of_loadFile (by simp [hpath]) hload
              simp [hadopt, State.adopt, State.documentAfter, hpath, Action.file?, hload,
                Except.toOption, List.getLast?_cons]

theorem document_afterAll (s : State) (actions : List Action) :
    (s.afterAll actions).document = s.documentAfter (actions.filterMap Action.file?) := by
  induction actions generalizing s with
  | nil =>
      rw [State.documentAfter]
      cases s.path <;> rfl
  | cons a as ih =>
      have hnext : s.afterAll (a :: as) = (s.act a).afterAll as := rfl
      rw [hnext, ih, documentAfter_act]
      cases ha : a.file? <;> simp [ha]

/-- The document of an engine after ticks that only hangups followed. -/
theorem document_course (c : Circumstances) (s : State) (file : Option ByteArray)
    {script : List Arrival} {n : Nat} {times : List Instant} (hcount : times.length = n)
    (h : (delivered script n).all Arrival.isHangup = true) :
    (s.afterAll (c.course file script times)).document =
      s.documentAfter (reloads file (delivered script n)) := by
  subst hcount
  rw [document_afterAll, files_course c file h]

/-- The same after one more tick, which other signals may follow. -/
theorem document_course_concat (c : Circumstances) (s : State) (file : Option ByteArray)
    {script : List Arrival} {n : Nat} {times : List Instant} (hcount : times.length = n)
    (h : (delivered script n).all Arrival.isHangup = true) (time : Instant) :
    (s.afterAll (c.course file script (times ++ [time]))).document =
      s.documentAfter (reloads file
        (delivered script n ++ hangups (arrivalsAt script (n + 1)))) := by
  subst hcount
  rw [document_afterAll, Circumstances.course_concat, List.filterMap_append, files_course c file h,
    files_round, reloads_append]

/-! ### Whole runs -/

variable {c : Circumstances} {s : State} {past : List Event} {file : Option ByteArray}
  {script : List Arrival} {n : Nat}

/-- While only hangups come the loop does one tick after the other, and waits after each. -/
theorem runFor_of_hangups (c : Circumstances) (s : State) (file : Option ByteArray)
    (hquiet : (delivered script n).all Arrival.isHangup = true) :
    let w := (Supervised.start s file).runFor c script n
    Steered c s file script w.1 ∧ w.1.listening = true ∧ w.1.loop.done.length = n := by
  have hstart := Steered.start c s file script
  obtain ⟨hlistening, hcount⟩ := hstart.goes_on (n := n) rfl ((Nat.zero_add n).symm ▸ hquiet)
  exact ⟨hstart.runFor n, hlistening, hcount.trans (Nat.zero_add n)⟩

theorem runFor_of_hangups_add (c : Circumstances) (s : State) (file : Option ByteArray)
    (hquiet : (delivered script n).all Arrival.isHangup = true) (more : Nat) :
    let w := (Supervised.start s file).runFor c script n
    let t := w.1.tick c (arrivalsAt script (n + 1))
    (Supervised.start s file).runFor c script (n + (more + 1)) =
      ((t.1.runFor c script more).1, w.2 ++ (t.2 ++ (t.1.runFor c script more).2)) := by
  intro w t
  obtain ⟨hw, hlistening, hcount⟩ := runFor_of_hangups c s file hquiet
  rw [Supervised.runFor_add]
  simp only [Supervised.runFor_idle (hw.idle hlistening), hcount]
  rfl

/-- The run up to the first signal that stops the engine is the whole run. -/
theorem runFor_of_stop (c : Circumstances) (s : State) (file : Option ByteArray)
    (hquiet : (delivered script n).all Arrival.isHangup = true)
    (hstop : (arrivalsAt script (n + 1)).all Arrival.isHangup = false) (more : Nat) :
    let w := (Supervised.start s file).runFor c script n
    let t := w.1.tick c (arrivalsAt script (n + 1))
    (Supervised.start s file).runFor c script (n + (more + 1)) = (t.1, w.2 ++ t.2) ∧
      Steered c s file script t.1 ∧ t.1.loop.phase = .stopped ∧ t.1.loop.done.length = n + 1 := by
  intro w t
  obtain ⟨hw, hlistening, hcount⟩ := runFor_of_hangups c s file hquiet
  obtain ⟨hnext, hdone⟩ := hw.tick hlistening
  rw [hcount] at hnext hdone
  have hdeaf : t.1.listening = false := by
    rw [hnext.listening, hdone, delivered_succ, List.all_append, hstop, Bool.and_false]
  have hphase := hnext.stopped hdeaf
  refine ⟨?_, hnext, hphase, hdone⟩
  rw [runFor_of_hangups_add c s file hquiet, Supervised.runFor_stopped hphase, List.append_nil]

theorem superviseUnder_of_stop (hquiet : (delivered script n).all Arrival.isHangup = true)
    (hstop : (arrivalsAt script (n + 1)).all Arrival.isHangup = false) :
    let w := (Supervised.start s file).runFor c script n
    let t := w.1.tick c (arrivalsAt script (n + 1))
    s.superviseUnder c file script =
      (t.1.loop, startedEvent c.pace :: (w.2 ++ t.2) ++
        [stoppedEvent, ⟨.info, "shutdown complete", []⟩]) := by
  intro w t
  obtain ⟨a, ha, -⟩ := List.all_eq_false.1 hstop
  obtain ⟨hmem, htick⟩ := List.mem_filter.1 ha
  have hlimit : n + 1 ≤ (script.map (·.afterTick)).foldl max 0 := by
    rw [← beq_iff_eq.1 htick]
    exact le_foldl_max 0 _ _ (List.mem_cons_of_mem _ (List.mem_map_of_mem hmem))
  obtain ⟨more, hmore⟩ := Nat.exists_eq_add_of_le hlimit
  obtain ⟨hrun, -, hphase, -⟩ := runFor_of_stop c s file hquiet hstop more
  rw [State.superviseUnder, hmore, Nat.add_assoc, Nat.add_comm 1 more, hrun]
  simp only [hphase]
  rfl

/-- Nothing that comes after the first signal that is no hangup matters. -/
theorem superviseUnder_congr {script' : List Arrival}
    (hquiet : (delivered script n).all Arrival.isHangup = true) {early late late' : List Arrival}
    {stop : Arrival} (hstop : stop.isHangup = false)
    (hsame : ∀ k, 0 < k → k ≤ n → arrivalsAt script' k = arrivalsAt script k)
    (harrivals : arrivalsAt script (n + 1) = early ++ stop :: late)
    (harrivals' : arrivalsAt script' (n + 1) = early ++ stop :: late') :
    s.superviseUnder c file script' = s.superviseUnder c file script := by
  have hends (rest : List Arrival) : (early ++ stop :: rest).all Arrival.isHangup = false := by
    simp [hstop]
  have hdelivered : delivered script' n = delivered script n := by
    rw [delivered, delivered, List.flatMap_def, List.flatMap_def, List.map_congr_left]
    intro k hk
    exact hsame (k + 1) (Nat.succ_pos k) (List.mem_range.1 hk)
  have hquiet' : (delivered script' n).all Arrival.isHangup = true := hdelivered ▸ hquiet
  have hstart := Steered.start c s file script
  have hruns : (Supervised.start s file).runFor c script' n =
      (Supervised.start s file).runFor c script n := by
    refine hstart.runFor_congr ?_
    intro k hlt hle
    exact hsame k hlt (Nat.zero_add n ▸ hle)
  have hlistening := (runFor_of_hangups c s file hquiet).2.1
  have hlate := Supervised.tick_of_stop (c := c) hlistening hstop early late
  have hlate' := Supervised.tick_of_stop (c := c) hlistening hstop early late'
  rw [superviseUnder_of_stop hquiet' (harrivals' ▸ hends late'),
    superviseUnder_of_stop hquiet (harrivals ▸ hends late)]
  simp only [hruns, harrivals, harrivals', hlate.1, hlate.2, hlate'.1, hlate'.2]

/-- As long as only hangups come, whether the file loads then or not, the loop does one tick after
the other. Each tick is that of the engine after the ticks and reloads before it: with the document
that was loaded last, and with the last runs that these leave behind. When a signal comes that is no
hangup, the run stops after that tick, which is done whole. Of what comes after the signal nothing
is applied, and nothing is said of it. -/
theorem signals_steer_run (h : Reached s past) (c : Circumstances) (file : Option ByteArray)
    (hquiet : ∀ a ∈ delivered script n, a.signal = .hangup) :
    let l := ((Supervised.start s file).runFor c script n).1.loop
    let next := ((Supervised.start s file).runFor c script (n + 1)).1.loop
    l.phase = .waiting ∧ l.done.length = n ∧
    l.state = s.afterAll (c.course file script l.times) ∧
    l.state.document = s.documentAfter (reloads file (delivered script n)) ∧
    (∀ name last, l.state.schedule.lastRun? name = some last ↔
      LastRun name last (s.story (c.course file script l.times) ++ past)) ∧
    (∃ b, next.done = l.done ++ [b] ∧ b.tick = (l.state.tick (c.store n) b.tick.time).1) ∧
    ∀ early stop late, arrivalsAt script (n + 1) = early ++ stop :: late →
      (∀ a ∈ early, a.signal = .hangup) → stop.signal ≠ .hangup →
      (s.superviseUnder c file script).1 = next ∧ next.phase = .stopped ∧
      next.state = s.afterAll (c.course file script next.times) ∧
      next.state.document = s.documentAfter (reloads file (delivered script n ++ early)) ∧
      ∀ script', (∀ k, 0 < k → k ≤ n → arrivalsAt script' k = arrivalsAt script k) →
        (∃ late', arrivalsAt script' (n + 1) = early ++ stop :: late') →
          s.superviseUnder c file script' = s.superviseUnder c file script := by
  intro l next
  rw [← all_isHangup_iff] at hquiet
  obtain ⟨hsteered, hlistening, hcount⟩ := runFor_of_hangups c s file hquiet
  have hidle := hsteered.idle hlistening
  have htimes : l.times.length = n := (List.length_map _).trans hcount
  refine ⟨hidle.phase, hcount, hsteered.state, ?_, ?_, ?_, ?_⟩
  · rw [← document_course c s file htimes hquiet]
    exact congrArg State.document hsteered.state
  · have hstate : l.state = _ := hsteered.state
    rw [hstate]
    exact (h.afterAll _).lastRun?
  · obtain ⟨b, ht⟩ := Supervised.exists_ticked hidle c (arrivalsAt script (n + 1))
    have hnext := congrArg (·.1.loop.done) (runFor_of_hangups_add c s file hquiet 0)
    refine ⟨b, hnext.trans ht.done, ?_⟩
    rw [← hcount]
    exact ht.beat
  · intro early stop late harrivals hearly hstop
    have hends : stop.isHangup = false := by simpa [Arrival.isHangup] using hstop
    have hnot : (arrivalsAt script (n + 1)).all Arrival.isHangup = false := by
      rw [harrivals]
      simp [hends]
    obtain ⟨hrun, hlast, hphase, hlength⟩ := runFor_of_stop c s file hquiet hnot 0
    rw [← congrArg Prod.fst hrun] at hlast hphase hlength
    refine ⟨?_, hphase, hlast.state, ?_, ?_⟩
    · rw [superviseUnder_of_stop hquiet hnot]
      exact congrArg (·.1.loop) hrun.symm
    · -- The last tick is the one that the signal follows; its hangups are those before the signal.
      have htimes' : next.times.length = n + 1 := (List.length_map _).trans hlength
      obtain ⟨times, time, hsplit⟩ := (List.eq_nil_or_concat next.times).resolve_left
        (List.ne_nil_of_length_eq_add_one htimes')
      rw [List.concat_eq_append] at hsplit
      rw [hsplit, List.length_append] at htimes'
      have hdocument := document_course_concat c s file (Nat.succ.inj htimes') hquiet time
      rw [← hsplit, harrivals, hangups_append_stop hearly hstop] at hdocument
      exact (congrArg State.document hlast.state).trans hdocument
    · intro script' hsame ⟨late', harrivals'⟩
      exact superviseUnder_congr hquiet hends hsame harrivals harrivals'

end AnyLibrary

theorem signals_steer_run_to_second_tick :
    let d : Document := ⟨[⟨"a", .empty, none, []⟩]⟩
    let s : State := { State.ofDocument d with path := some "p" }
    let file := some "groups:\n- name: a\n".toUTF8
    let script : List Arrival := [
      ⟨1, .hangup, some (some "groups:\n- name: b\n".toUTF8)⟩, ⟨1, .hangup, some none⟩,
      ⟨2, .terminate, none⟩, ⟨2, .hangup, some file⟩]
    let c : Circumstances :=
      ⟨Pace.ofDuration .oneSecond ⟨0⟩, fun _ _ => .ok [], fun _ => 0⟩
    let l := (s.superviseUnder c file script).1
    l.phase = .stopped ∧ l.done.length = 2 ∧ l.state.document = ⟨[⟨"b", .empty, none, []⟩]⟩ := by
  intro d s file script c l
  have hread : Reads file d := by
    unfold Reads
    decide +kernel
  have hload := loadFile_eq_ok_iff.2 ⟨hread, by decide +kernel⟩
  have hstart : Started s := .ofFile (ofFile_eq_ok hload)
  have hquiet : ∀ a ∈ delivered script 1, a.signal = .hangup := by decide +kernel
  have harrivals : arrivalsAt script 2 =
      [] ++ ⟨2, .terminate, none⟩ :: [⟨2, .hangup, some file⟩] := rfl
  obtain ⟨-, hlength, -, -, -, ⟨b, hdone, -⟩, hends⟩ :=
    signals_steer_run (.start hstart) c file hquiet
  obtain ⟨hwhole, hphase, -, hdocument, -⟩ :=
    hends _ _ _ harrivals (by decide) Signal.noConfusion
  have hl : l = _ := hwhole
  rw [hl]
  refine ⟨hphase, ?_, hdocument.trans ?_⟩
  · rw [hdone, List.length_append, hlength]
    rfl
  · decide +kernel

end AlertPolicy.Engine
