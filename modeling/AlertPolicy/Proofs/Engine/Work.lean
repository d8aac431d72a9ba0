import AlertPolicy.Engine.Work
import AlertPolicy.Proofs.Engine.Tick

/-!
What the pieces of work of a tick come to. No piece changes what they come to in the end, and done
one after the other they are a tick as a whole, in which every fetch has the answer of its own turn.
-/

namespace AlertPolicy.Engine

open Policy Store Time

variable {sources : Sources}

def fetchCount (os : List Outcome) : Nat := (os.flatMap (·.fetched.toList)).length

/-- What comes of the rules of a group from `index` on, when `n` fetches were made before. -/
def answersFrom (sources : Sources) (time : Instant) (g : Group) (n index : Nat) :
    List Rule → List Outcome
  | [] => []
  | r :: rs =>
      let o := evaluateRule (sources n) time g index r
      o :: answersFrom sources time g (n + o.fetched.toList.length) (index + 1) rs

def answers (sources : Sources) (time : Instant) (n : Nat) : List Group → List Outcome
  | [] => []
  | g :: gs =>
      let os := answersFrom sources time g n 0 g.rules
      os ++ answers sources time (n + fetchCount os) gs

namespace Progress

/-- A task with all that has to be done because of it. -/
def complete (sources : Sources) (q : Progress) (task : Task) : Progress :=
  let (q, more) := task.perform sources q
  more.foldl (fun q next => (next.perform sources q).1) q

def finish (sources : Sources) (q : Progress) (tasks : List Task) : Progress :=
  tasks.foldl (complete sources) q

theorem finish_append (q : Progress) (tasks tasks' : List Task) :
    q.finish sources (tasks ++ tasks') = (q.finish sources tasks).finish sources tasks' :=
  List.foldl_append

/-- A piece of work does not change what all the work comes to. -/
theorem finish_perform (sources : Sources) (q : Progress) (task : Task) (tasks : List Task) :
    (task.perform sources q).1.finish sources ((task.perform sources q).2 ++ tasks) =
      q.finish sources (task :: tasks) := by
  -- What a task leaves to be done leaves nothing to be done itself.
  have hmore : (task.perform sources q).1.finish sources (task.perform sources q).2 =
      q.complete sources task := by
    cases task with
    | look g index r => rfl
    | settle o => rfl
    | close g => rfl
  rw [finish_append, hmore]
  rfl

theorem complete_look (q : Progress) (g : Group) (index : Nat) (r : Rule) :
    q.complete sources (.look g index r) =
      ⟨q.state,
        q.fetches + (evaluateRule (sources q.fetches) q.tick.time g index r).fetched.toList.length,
        q.tick.extend [] [evaluateRule (sources q.fetches) q.tick.time g index r]⟩ := by
  rw [← Tick.add_eq]
  rfl

theorem finish_looks (q : Progress) (g : Group) (index : Nat) (rs : List Rule) :
    q.finish sources ((rs.zipIdx index).map fun (r, i) => .look g i r) =
      ⟨q.state, q.fetches + fetchCount (answersFrom sources q.tick.time g q.fetches index rs),
        q.tick.extend [] (answersFrom sources q.tick.time g q.fetches index rs)⟩ := by
  induction rs generalizing q index with
  | nil =>
      rw [answersFrom, Tick.extend_nil]
      rfl
  | cons r rs ih =>
      rw [List.zipIdx_cons, List.map_cons, finish, List.foldl_cons, ← finish, complete_look, ih]
      simp only [answersFrom, Tick.time_extend, Tick.extend_extend, fetchCount, List.flatMap_cons,
        List.length_append, Nat.add_assoc, List.nil_append, List.singleton_append]

theorem finish_group (q : Progress) (g : Group) :
    q.finish sources (groupTasks g) =
      ⟨{ q.state with schedule := q.state.schedule.recordRun g.name q.tick.time },
        q.fetches + fetchCount (answersFrom sources q.tick.time g q.fetches 0 g.rules),
        q.tick.extend [g] (answersFrom sources q.tick.time g q.fetches 0 g.rules)⟩ := by
  rw [groupTasks, finish_append, finish_looks]
  change (⟨_, _, Tick.close _ g⟩ : Progress) = _
  rw [Tick.close_extend]
  rfl

theorem finish_groups (q : Progress) (gs : List Group) :
    q.finish sources (gs.flatMap groupTasks) =
      ⟨{ q.state with schedule := recordRuns q.state.schedule q.tick.time gs },
        q.fetches + fetchCount (answers sources q.tick.time q.fetches gs),
        q.tick.extend gs (answers sources q.tick.time q.fetches gs)⟩ := by
  induction gs generalizing q with
  | nil =>
      rw [answers, Tick.extend_nil]
      rfl
  | cons g gs ih =>
      rw [List.flatMap_cons, finish_append, finish_group, ih]
      simp only [answers, Tick.time_extend, Tick.extend_extend, fetchCount, List.flatMap_append,
        List.length_append, Nat.add_assoc, List.singleton_append]
      rfl

end Progress

/-! ### Ticks without a pause -/

namespace State

variable (s : State) (n : Nat) (time : Instant)

/-- A tick with all its work, when `n` fetches were made before. -/
def tickFrom (sources : Sources) (s : State) (n : Nat) (time : Instant) : Progress :=
  Progress.finish sources ⟨s, n, .start time⟩ (s.tasks time)

theorem tickFrom_eq :
    s.tickFrom sources n time =
      ⟨{ s with schedule := recordRuns s.schedule time (s.running time) },
        n + fetchCount (answers sources time n (s.running time)),
        (Tick.start time).extend (s.running time) (answers sources time n (s.running time))⟩ := by
  rw [tickFrom, tasks, Progress.finish_groups]
  rfl

theorem groups_tickFrom : (s.tickFrom sources n time).tick.groups = s.running time := by
  rw [tickFrom_eq]
  rfl

theorem schedule_tickFrom : (s.tickFrom sources n time).state.schedule =
    recordRuns s.schedule time (s.running time) := by
  rw [tickFrom_eq]

theorem document_tickFrom : (s.tickFrom sources n time).state.document = s.document := by
  rw [tickFrom_eq]

theorem time_tickFrom : (s.tickFrom sources n time).tick.time = time := by
  rw [tickFrom_eq]
  rfl

end State

theorem length_answersFrom (time : Instant) (g : Group) (n index : Nat) (rs : List Rule) :
    (answersFrom sources time g n index rs).length = rs.length := by
  induction rs generalizing n index with
  | nil => rfl
  | cons r rs ih => simp [answersFrom, ih]

theorem length_answers (time : Instant) (n : Nat) (gs : List Group) :
    (answers sources time n gs).length = (gs.flatMap (·.rules)).length := by
  induction gs generalizing n with
  | nil => rfl
  | cons g gs ih => simp [answers, ih, length_answersFrom]

/-- Every rule of the groups that run gives a report or is counted as failed. -/
theorem counts_tickFrom (s : State) (n : Nat) (time : Instant) :
    (s.tickFrom sources n time).tick.summary.evaluated +
      (s.tickFrom sources n time).tick.summary.failed =
        ((s.running time).flatMap (·.rules)).length := by
  have hlength := @length_answers sources time n (s.running time)
  rw [State.tickFrom_eq, ← hlength, ← length_reports_add_failed]
  simp [Tick.extend, Tick.start]

theorem answersFrom_const (source : Source) (time : Instant) (g : Group) (n index : Nat)
    (rs : List Rule) :
    answersFrom (fun _ => source) time g n index rs = outcomesFrom source time g index rs := by
  induction rs generalizing n index with
  | nil => rfl
  | cons r rs ih =>
      rw [answersFrom, ih]
      rfl

theorem answers_const (source : Source) (time : Instant) (n : Nat) (gs : List Group) :
    answers (fun _ => source) time n gs = gs.flatMap (outcomes source time) := by
  induction gs generalizing n with
  | nil => rfl
  | cons g gs ih =>
      rw [answers, ih, answersFrom_const]
      rfl

/-- From a source that does not change, the pieces are those of one tick. -/
theorem tickFrom_const (s : State) (source : Source) (n : Nat) (time : Instant) :
    ((s.tickFrom (fun _ => source) n time).tick, (s.tickFrom (fun _ => source) n time).state) =
      s.tick source time := by
  simp only [State.tickFrom_eq, answers_const, State.tick, runTick_eq]
  rfl

end AlertPolicy.Engine
