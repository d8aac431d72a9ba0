import AlertPolicy.Engine.Interleaving
import AlertPolicy.Proofs.Engine.Stopping

/-!
What one step of a tick or a reload can do, and what the steps come to when nothing comes between
them: a tick and a reload of the engine.
-/

namespace AlertPolicy.Engine

open Policy Store Time

theorem outcomes_groupTasks (source : Source) (time : Instant) (g : Group) :
    (groupTasks g).flatMap (Task.outcomes source time) = outcomes source time g := by
  rw [groupTasks, List.flatMap_append, List.flatMap_map, List.flatMap_singleton, outcomes,
    outcomesFrom]
  exact (List.append_nil _).trans List.map_eq_flatMap.symm

variable [Yaml.Library] {w : Interplay}

namespace Interplay

/-- The step, if it is the next of its tick or reload, or else nothing. -/
inductive Turned (w : Interplay) : Turn → Interplay → Prop where
  | idle (t : Turn) : Turned w t w
  | begin (time : Instant) (h : w.tick = .idle) :
      Turned w (.begin time) { w with tick := .opened ⟨w.state.document, .start time, []⟩ }
  | readDue {v : Visit} (h : w.tick = .opened v) :
      Turned w .readDue { w with
        tick := .working v
          (((w.state.schedule.due v.tick.time).filterMap v.document.group?).flatMap groupTasks) }
  | look {v : Visit} {g : Group} {i : Nat} {r : Rule} {left : List Task} {o : Outcome}
      (source : Source) (h : w.tick = .working v (.look g i r :: left))
      (ho : o = evaluateRule source v.tick.time g i r) :
      Turned w (.work source) { w with
        fetches := w.fetches + o.fetched.toList.length
        tick := .working { v with tick := v.tick.fetch o.fetched, outcomes := v.outcomes ++ [o] }
          (.settle o :: left) }
  | settle {v : Visit} {o : Outcome} {left : List Task} (source : Source)
      (h : w.tick = .working v (.settle o :: left)) :
      Turned w (.work source) { w with
        tick := .working { v with tick := v.tick.settle o } left }
  | close {v : Visit} {g : Group} {left : List Task} (source : Source)
      (h : w.tick = .working v (.close g :: left)) :
      Turned w (.work source) { w with
        state := { w.state with schedule := w.state.schedule.recordRun g.name v.tick.time }
        tick := .working { v with tick := v.tick.close g } left }
  | finish {v : Visit} (source : Source) (h : w.tick = .working v []) :
      Turned w (.work source) { w with done := w.done ++ [v], tick := .idle }
  | load {file : Option ByteArray} {d : Document} (h : w.reload = .idle)
      (hpath : w.state.path ≠ none) (hload : Document.loadFile file = .ok d) :
      Turned w (.load file) { w with reload := .loaded d }
  | sync {d : Document} (h : w.reload = .loaded d) :
      Turned w .sync { w with
        state := { w.state with schedule := w.state.schedule.sync d.groups }
        reload := .synced d }
  | replace {d : Document} (h : w.reload = .synced d) :
      Turned w .replace { w with state := { w.state with document := d }, reload := .idle }

theorem turned_work (w : Interplay) (source : Source) :
    Turned w (.work source) (w.work source) := by
  obtain ⟨state, fetches, done, tick, reload⟩ := w
  cases tick with
  | idle => exact .idle _
  | opened v => exact .idle _
  | working v left =>
      cases left with
      | nil => exact .finish source rfl
      | cons task left =>
          cases task with
          | look g i r =>
              have hlook : Turned ⟨state, fetches, done, .working v (.look g i r :: left), reload⟩
                  (.work source) _ := .look source rfl rfl
              exact hlook
          | settle o =>
              simp only [work, Task.perform, Task.outcomes, List.append_nil, List.nil_append]
              exact .settle source rfl
          | close g =>
              simp only [work, Task.perform, Task.outcomes, List.append_nil, List.nil_append]
              exact .close source rfl

theorem turned (w : Interplay) (t : Turn) : Turned w t (w.turn t) := by
  cases t with
  | begin time =>
      simp only [turn, begin]
      split
      · next h => exact .begin time h
      · exact .idle _
  | readDue =>
      simp only [turn, readDue]
      split
      · next v h => exact .readDue h
      · exact .idle _
  | work source => exact turned_work w source
  | load file =>
      simp only [turn, load]
      split
      · next path d h hpath hload => exact .load h (by simp [hpath]) hload
      · exact .idle _
  | sync =>
      simp only [turn, sync]
      split
      · next d h => exact .sync h
      · exact .idle _
  | replace =>
      simp only [turn, replace]
      split
      · next d h => exact .replace h
      · exact .idle _

/-! ### One after the other -/

/-- A reload that no tick interrupts is a reload of the engine. -/
theorem play_reload (h : w.reload = .idle) (file : Option ByteArray) :
    w.play [.load file, .sync, .replace] = { w with state := w.state.afterReload file } := by
  obtain ⟨⟨document, schedule, path⟩, fetches, done, tick, reload⟩ := w
  cases h
  cases path with
  | none => rfl
  | some path =>
      cases hload : Document.loadFile file with
      | error e =>
          simp only [play, List.foldl_cons, List.foldl_nil, turn, load, hload, sync, replace,
            State.afterReload, State.reload]
          rfl
      | ok d =>
          simp only [play, List.foldl_cons, List.foldl_nil, turn, load, hload, sync, replace,
            State.afterReload, State.reload]
          rfl

/-- Work that no reload interrupts finishes the tick. -/
theorem play_work {source : Source} {v : Visit} {left : List Task} (h : w.tick = .working v left) :
    let q := Progress.finish (fun _ => source) ⟨w.state, w.fetches, v.tick⟩ left
    w.play (List.replicate (Task.sizes left + 1) (.work source)) =
      { w with
        state := q.state
        fetches := q.fetches
        done := w.done ++ [{ v with
          tick := q.tick
          outcomes := v.outcomes ++ left.flatMap (Task.outcomes source v.tick.time) }]
        tick := .idle } := by
  generalize hsize : Task.sizes left = n
  induction n generalizing w v left with
  | zero =>
      cases eq_nil_of_sizes hsize
      simp only [List.replicate, play, List.foldl_cons, List.foldl_nil, turn, work, h,
        List.flatMap_nil, List.append_nil]
      rfl
  | succ n ih =>
      cases left with
      | nil => cases hsize
      | cons task left =>
          let q := task.perform (fun _ => source) ⟨w.state, w.fetches, v.tick⟩
          have hrest : Task.sizes (q.2 ++ left) = n :=
            Nat.succ.inj ((sizes_perform_append _ _ task left).trans hsize)
          have hwork : w.work source = { w with
              state := q.1.state
              fetches := q.1.fetches
              tick := .working { v with
                tick := q.1.tick
                outcomes := v.outcomes ++ task.outcomes source v.tick.time } (q.2 ++ left) } := by
            simp only [work, h]
            rfl
          have hmore : q.2.flatMap (Task.outcomes source v.tick.time) = [] := by
            cases task <;> rfl
          have htime : q.1.tick.time = v.tick.time := time_perform _ _ task
          have hfinish := Progress.finish_perform (fun _ => source) ⟨w.state, w.fetches, v.tick⟩
            task left
          have hplay : w.play (List.replicate (n + 1 + 1) (.work source)) =
              (w.work source).play (List.replicate (n + 1) (.work source)) := rfl
          rw [hplay, hwork, ih rfl hrest, ← hfinish]
          simp only [htime, List.flatMap_append, hmore, List.nil_append, List.flatMap_cons,
            List.append_assoc]
          rfl

/-- A tick that no reload interrupts is a tick of the engine. -/
theorem play_tick (h : w.tick = .idle) (source : Source) (time : Instant) :
    w.play (.begin time :: .readDue ::
        List.replicate (Task.sizes (w.state.tasks time) + 1) (.work source)) =
      { w with
        state := (w.state.tick source time).2
        fetches := (w.state.tickFrom (fun _ => source) w.fetches time).fetches
        done := w.done ++ [⟨w.state.document, (w.state.tick source time).1,
          (w.state.running time).flatMap (outcomes source time)⟩]
        tick := .idle } := by
  have hbegun : w.play [.begin time, .readDue] =
      { w with tick := .working ⟨w.state.document, .start time, []⟩ (w.state.tasks time) } := by
    simp only [play, List.foldl_cons, List.foldl_nil, turn, begin, h, readDue]
    rfl
  have htick := tickFrom_const w.state source w.fetches time
  have houtcomes : (w.state.tasks time).flatMap (Task.outcomes source time) =
      (w.state.running time).flatMap (outcomes source time) := by
    rw [State.tasks, List.flatMap_assoc]
    simp only [outcomes_groupTasks]
  change (w.play [.begin time, .readDue]).play _ = _
  rw [hbegun, play_work rfl, ← htick, ← houtcomes]
  rfl

theorem play_concat (w : Interplay) (turns : List Turn) (t : Turn) :
    w.play (turns ++ [t]) = (w.play turns).turn t := by
  simp [play]

end Interplay

end AlertPolicy.Engine
