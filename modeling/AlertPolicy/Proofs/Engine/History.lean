import AlertPolicy.Engine.State
import AlertPolicy.Proofs.Engine.Tick
import AlertPolicy.Proofs.Policy.Check

/-!
Engines over time. What an engine has done is kept as a history, the latest first, from which one
can tell when a group ran last; the schedule holds exactly that, whatever was loaded in between.
-/

namespace AlertPolicy.Engine

open Policy Store Time

/-- What an engine can be told to do. The file is what is found at the path of the policy. -/
inductive Action where
  | tick (source : Source) (time : Instant)
  | reload (file : Option ByteArray)

/-- What an engine has done: brought a document into force, or run groups. -/
inductive Event where
  | loaded (d : Document)
  | ran (time : Instant) (names : List String)

def State.act [Yaml.Library] (s : State) : Action → State
  | .tick source time => (s.tick source time).2
  | .reload file => s.afterReload file

/-- What has happened when the action is done. -/
def State.happened [Yaml.Library] (s : State) : Action → List Event
  | .tick source time => [.ran time ((s.tick source time).1.groups.map (·.name))]
  | .reload file =>
      match s.path, Document.loadFile file with
      | some _, .ok d => [.loaded d]
      | _, _ => []

/-- The state of an engine that has done nothing yet. -/
inductive Started [Yaml.Library] : State → Prop where
  | ofDocument (d : Document) : Started (.ofDocument d)
  | ofFile {path : String} {file : Option ByteArray} {s : State} {said : List LogEvent}
      (h : State.ofFile path file = .ok (s, said)) : Started s

/-- The state can come about, and this is the history of how it did, the latest first. -/
inductive Reached [Yaml.Library] : State → List Event → Prop where
  | start {s : State} (h : Started s) : Reached s [.loaded s.document]
  | act {s : State} {past : List Event} (h : Reached s past) (a : Action) :
      Reached (s.act a) (s.happened a ++ past)

/-- The document that was in force at the end of the history. -/
def inForce : List Event → Option Document
  | [] => none
  | .loaded d :: _ => some d
  | .ran _ _ :: past => inForce past

/-- The group of the name, as it was before, is not touched by the event: its name is in the
document that was loaded, or it is not among the groups that ran. -/
def Event.Keeps (name : String) : Event → Prop
  | .loaded d => name ∈ d.groups.map (·.name)
  | .ran _ names => name ∉ names

/-- The group of the name ran at the time, and all that happened afterwards keeps it. -/
def LastRun (name : String) (last : Instant) (past : List Event) : Prop :=
  ∃ after names before, past = after ++ .ran last names :: before ∧ name ∈ names ∧
    ∀ e ∈ after, e.Keeps name

theorem lastRun_cons {name : String} {last : Instant} {e : Event} {past : List Event} :
    LastRun name last (e :: past) ↔
      (∃ names, e = .ran last names ∧ name ∈ names) ∨ (e.Keeps name ∧ LastRun name last past) := by
  constructor
  · intro ⟨after, names, before, heq, hmem, hkeeps⟩
    cases after with
    | nil =>
        cases heq
        exact .inl ⟨names, rfl, hmem⟩
    | cons x after =>
        cases heq
        refine .inr ⟨hkeeps _ List.mem_cons_self, after, names, before, rfl, hmem, ?_⟩
        intro y hy
        exact hkeeps y (List.mem_cons_of_mem _ hy)
  · intro h
    cases h with
    | inl hran =>
        obtain ⟨names, rfl, hmem⟩ := hran
        exact ⟨[], names, past, rfl, hmem, fun y hy => absurd hy List.not_mem_nil⟩
    | inr hkept =>
        obtain ⟨hkeep, after, names, before, rfl, hmem, hkeeps⟩ := hkept
        refine ⟨e :: after, names, before, rfl, hmem, ?_⟩
        intro y hy
        cases List.mem_cons.1 hy with
        | inl heq =>
            rw [heq]
            exact hkeep
        | inr hy => exact hkeeps y hy

theorem lastRun_loaded {name : String} {last : Instant} {d : Document} {past : List Event} :
    LastRun name last (.loaded d :: past) ↔
      name ∈ d.groups.map (·.name) ∧ LastRun name last past := by
  rw [lastRun_cons]
  constructor
  · intro h
    cases h with
    | inl hran =>
        obtain ⟨names, heq, -⟩ := hran
        cases heq
    | inr hkept => exact hkept
  · exact .inr

theorem lastRun_ran {name : String} {last time : Instant} {names : List String}
    {past : List Event} :
    LastRun name last (.ran time names :: past) ↔
      if name ∈ names then time = last else LastRun name last past := by
  rw [lastRun_cons]
  split
  · next hmem =>
    constructor
    · intro h
      cases h with
      | inl hran =>
          obtain ⟨_, heq, -⟩ := hran
          cases heq
          rfl
      | inr hkept => exact absurd hmem hkept.1
    · intro heq
      subst heq
      exact .inl ⟨names, rfl, hmem⟩
  · next hmem =>
    constructor
    · intro h
      cases h with
      | inl hran =>
          obtain ⟨_, heq, hran⟩ := hran
          cases heq
          exact absurd hran hmem
      | inr hkept => exact hkept.2
    · intro h
      exact .inr ⟨hmem, h⟩

theorem not_lastRun_nil {name : String} {last : Instant} : ¬ LastRun name last [] := by
  intro ⟨after, names, before, heq, _⟩
  cases after <;> contradiction

theorem mem_of_inForce {d : Document} {past : List Event} (h : inForce past = some d) :
    .loaded d ∈ past := by
  induction past with
  | nil => contradiction
  | cons e past ih =>
      cases e with
      | loaded d' =>
          cases h
          exact List.mem_cons_self
      | ran time names => exact List.mem_cons_of_mem _ (ih h)

/-! ### Ticks and documents -/

/-- The groups of the document that are due, in its order. -/
def State.dueGroups (s : State) (time : Instant) : List Group :=
  s.document.groups.filter fun g => s.schedule.shouldRun g.name time

/-- What comes of the rules of the groups that are due, in order. -/
def State.outcomes (s : State) (source : Source) (time : Instant) : List Outcome :=
  (s.dueGroups time).flatMap (Engine.outcomes source time)

/-- A tick of a state whose schedule follows its document. -/
theorem tick_of_follows {s : State} (h : s.schedule.Follows s.document.groups)
    (hd : s.document.NamesDiffer) (source : Source) (time : Instant) :
    s.tick source time =
      ((Tick.start time).extend (s.dueGroups time) (s.outcomes source time),
        { s with schedule := recordRuns s.schedule time (s.dueGroups time) }) := by
  rw [State.tick, runTick_of_nodup h hd]
  rfl

theorem lastRun?_recordRuns {t : Schedule} {groups ran : List Group} (h : t.Follows groups)
    (hran : ∀ g ∈ ran, g ∈ groups) (time : Instant) (name : String) :
    (recordRuns t time ran).lastRun? name =
      if name ∈ ran.map (·.name) then some time else t.lastRun? name := by
  induction ran generalizing t with
  | nil => rfl
  | cons g gs ih =>
      have hknown : (t.get? g.name).isSome :=
        h.get?_isSome.2 (List.mem_map_of_mem (hran g List.mem_cons_self))
      have hgs : ∀ x ∈ gs, x ∈ groups := by
        intro x hx
        exact hran x (List.mem_cons_of_mem _ hx)
      have hstep := ih (h.recordRun g.name time) hgs
      change (recordRuns (t.recordRun g.name time) time gs).lastRun? name = _
      rw [hstep, Schedule.lastRun?_recordRun, List.map_cons]
      by_cases hname : name = g.name
      · subst hname
        simp [hknown]
      · simp [hname]

theorem mem_of_group? {d : Document} {names : List String} {g : Group}
    (h : g ∈ names.filterMap d.group?) : g ∈ d.groups := by
  obtain ⟨name, -, hfound⟩ := List.mem_filterMap.1 h
  exact List.mem_of_find?_eq_some hfound

theorem groups_tick (s : State) (source : Source) (time : Instant) :
    (s.tick source time).1.groups = (s.schedule.due time).filterMap s.document.group? := by
  change (runTick s.document s.schedule source time).1.groups = _
  rw [runTick_eq]
  rfl

theorem follows_adopt {s : State} {groups : List Group} (h : s.schedule.Follows groups)
    (d : Document) : (s.adopt d).schedule.Follows d.groups :=
  h.sync d.groups

/-! ### Actions -/

variable [Yaml.Library] {s : State} {past : List Event} {file : Option ByteArray}

/-- A reload brings another document into force or changes nothing. -/
inductive Reloading (s : State) (file : Option ByteArray) : Prop where
  | kept (hafter : s.afterReload file = s) (hsaid : s.happened (.reload file) = [])
  | loaded (d : Document) (hpath : s.path ≠ none) (hload : Document.loadFile file = .ok d)
      (hafter : s.afterReload file = s.adopt d) (hsaid : s.happened (.reload file) = [.loaded d])

theorem afterReload_of_loadFile {d : Document} (hpath : s.path ≠ none)
    (hload : Document.loadFile file = .ok d) : s.afterReload file = s.adopt d := by
  cases hp : s.path with
  | none => exact absurd hp hpath
  | some path =>
      rw [State.afterReload, State.reload, hp, hload]
      rfl

theorem afterReload_of_path_eq_none (hpath : s.path = none) (file : Option ByteArray) :
    s.afterReload file = s := by
  rw [State.afterReload, State.reload, hpath]

theorem afterReload_of_error {e : LoadError} (hload : Document.loadFile file = .error e) :
    s.afterReload file = s := by
  cases hpath : s.path with
  | none => exact afterReload_of_path_eq_none hpath file
  | some path =>
      rw [State.afterReload, State.reload, hpath, hload]
      rfl

theorem reloading (s : State) (file : Option ByteArray) : Reloading s file := by
  cases hpath : s.path with
  | none =>
      refine .kept (afterReload_of_path_eq_none hpath file) ?_
      rw [State.happened, hpath]
  | some path =>
      cases hload : Document.loadFile file with
      | error e =>
          refine .kept (afterReload_of_error hload) ?_
          rw [State.happened, hpath, hload]
      | ok d =>
          have hsome : s.path ≠ none := by
            rw [hpath]
            exact Option.some_ne_none path
          refine .loaded d hsome hload (afterReload_of_loadFile hsome hload) ?_
          rw [State.happened, hpath, hload]

theorem ofFile_eq_ok_iff {path : String} {said : List LogEvent} :
    State.ofFile path file = .ok (s, said) ↔ ∃ d, Document.loadFile file = .ok d ∧
      s = { State.ofDocument d with path := some path } ∧
        said = loadedEvents path d ++ State.startEvents d := by
  rw [State.ofFile]
  cases Document.loadFile file with
  | error e => simp [Except.map]
  | ok d => simp [Except.map, eq_comm]

theorem started_schedule (h : Started s) :
    s.schedule = Schedule.empty.sync s.document.groups := by
  cases h with
  | ofDocument d => rfl
  | ofFile hfile =>
      obtain ⟨d, -, rfl, -⟩ := ofFile_eq_ok_iff.1 hfile
      rfl

theorem started_follows (h : Started s) : s.schedule.Follows s.document.groups := by
  rw [started_schedule h]
  exact Schedule.Follows.empty.sync _

theorem started_namesDiffer (h : Started s) (hpath : s.path ≠ none) : s.document.NamesDiffer := by
  cases h with
  | ofDocument d => exact absurd rfl hpath
  | ofFile hfile =>
      obtain ⟨d, hload, rfl, -⟩ := ofFile_eq_ok_iff.1 hfile
      exact namesDiffer_of_loadFile hload

theorem started_lastRun? (h : Started s) (name : String) : s.schedule.lastRun? name = none := by
  rw [started_schedule h, Schedule.lastRun?_sync]
  split <;> rfl

/-! ### Several actions -/

def State.afterAll (s : State) (actions : List Action) : State := actions.foldl State.act s

/-- What has happened when all the actions are done, the latest first. -/
def State.story (s : State) : List Action → List Event
  | [] => []
  | a :: as => (s.act a).story as ++ s.happened a

theorem State.afterAll_append (s : State) (actions more : List Action) :
    s.afterAll (actions ++ more) = (s.afterAll actions).afterAll more :=
  List.foldl_append

theorem Reached.afterAll (h : Reached s past) (actions : List Action) :
    Reached (s.afterAll actions) (s.story actions ++ past) := by
  induction actions generalizing s past with
  | nil => exact h
  | cons a as ih =>
      have hnext := ih (h.act a)
      rw [← List.append_assoc] at hnext
      exact hnext

/-! ### What holds in every state -/

/-- In every state the schedule follows the document in force. -/
theorem Reached.follows (h : Reached s past) : s.schedule.Follows s.document.groups := by
  induction h with
  | start hs => exact started_follows hs
  | @act s past h a ih =>
      cases a with
      | tick source time =>
          change (runTick s.document s.schedule source time).2.Follows s.document.groups
          rw [runTick_eq]
          exact follows_recordRuns ih time _
      | reload file =>
          cases reloading s file with
          | kept hafter =>
              rw [State.act, hafter]
              exact ih
          | loaded d hpath hload hafter =>
              rw [State.act, hafter]
              exact follows_adopt ih d

theorem Reached.inForce (h : Reached s past) : inForce past = some s.document := by
  induction h with
  | start hs => rfl
  | @act s past h a ih =>
      cases a with
      | tick source time => exact ih
      | reload file =>
          cases reloading s file with
          | kept hafter hsaid =>
              rw [State.act, hafter, hsaid, List.nil_append]
              exact ih
          | loaded d hpath hload hafter hsaid =>
              rw [State.act, hafter, hsaid]
              rfl

/-- The groups that ran at some time in the past are those of a tick in a state of that time. -/
theorem Reached.ran {after before : List Event} {time : Instant} {names : List String}
    (h : Reached s past) (heq : past = after ++ .ran time names :: before) :
    ∃ s' source, Reached s' before ∧ names = (s'.tick source time).1.groups.map (·.name) := by
  induction h generalizing after with
  | start hs =>
      cases after with
      | nil => cases heq
      | cons e after =>
          rw [List.cons_append, List.cons.injEq] at heq
          exact absurd heq.2.symm (List.append_ne_nil_of_right_ne_nil after (List.cons_ne_nil _ _))
  | @act s past h a ih =>
      cases a with
      | tick source t =>
          rw [State.happened, List.singleton_append] at heq
          cases after with
          | nil =>
              cases heq
              exact ⟨s, source, h, rfl⟩
          | cons e after =>
              rw [List.cons_append, List.cons.injEq] at heq
              exact ih heq.2
      | reload file =>
          cases reloading s file with
          | kept hafter hsaid =>
              rw [hsaid, List.nil_append] at heq
              exact ih heq
          | loaded d hpath hload hafter hsaid =>
              rw [hsaid, List.singleton_append] at heq
              cases after with
              | nil => cases heq
              | cons e after =>
                  rw [List.cons_append, List.cons.injEq] at heq
                  exact ih heq.2

/-! ### Last runs -/

/-- In every state the schedule holds the last run of each name that the history tells. -/
theorem Reached.lastRun? (h : Reached s past) (name : String) (last : Instant) :
    s.schedule.lastRun? name = some last ↔ LastRun name last past := by
  -- The induction is on how the state came about. A tick writes the names that ran into both sides;
  -- a reload drops the names that are gone from both.
  induction h with
  | @start s hs =>
      rw [started_lastRun? hs]
      constructor
      · intro hlast
        contradiction
      · intro hlast
        exact absurd (lastRun_loaded.1 hlast).2 not_lastRun_nil
  | @act s past h a ih =>
      cases a with
      | tick source time =>
          have hschedule : (s.act (.tick source time)).schedule =
              recordRuns s.schedule time ((s.schedule.due time).filterMap s.document.group?) := by
            change (runTick s.document s.schedule source time).2 = _
            rw [runTick_eq]
          rw [hschedule, lastRun?_recordRuns h.follows fun g => mem_of_group?, State.happened,
            groups_tick, List.singleton_append, lastRun_ran]
          split
          · exact Option.some_inj
          · exact ih
      | reload file =>
          cases reloading s file with
          | kept hafter hsaid =>
              rw [State.act, hafter, hsaid, List.nil_append]
              exact ih
          | loaded d hpath hload hafter hsaid =>
              rw [State.act, hafter, hsaid, List.singleton_append, lastRun_loaded, State.adopt,
                Schedule.lastRun?_sync]
              split
              · next hmem =>
                rw [ih]
                exact ⟨fun hlast => ⟨hmem, hlast⟩, fun hlast => hlast.2⟩
              · next hmem =>
                constructor
                · intro hlast
                  contradiction
                · intro hlast
                  exact absurd hlast.1 hmem

end AlertPolicy.Engine
