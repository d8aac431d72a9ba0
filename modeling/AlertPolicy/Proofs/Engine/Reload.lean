import Mathlib.Data.List.Basic
import AlertPolicy.Proofs.Engine.History

/-!
What can be seen of an engine from outside, and how little a reload leaves behind. A reload that
fails cannot be told from none. After one that succeeds, the engine does what a fresh one over the
same document does that was told when the groups ran last.
-/

namespace AlertPolicy.Engine

open Policy Store Time

/-- What is seen of one action: the tick, or what the reload gave. -/
inductive Observation where
  | ticked (t : Tick)
  | reloaded (result : Except LoadError Unit) (said : List LogEvent)

/-- The engine, told when each group ran last. -/
def State.withLastRuns (s : State) (lastRun? : String → Option Instant) : State :=
  { s with schedule := ⟨s.schedule.entries.map fun e => { e with lastRun := lastRun? e.name }⟩ }

section Files

variable [Yaml.Library]

def State.seen (s : State) : Action → Observation
  | .tick source time => .ticked (s.tick source time).1
  | .reload file => .reloaded ((s.reload file).map fun _ => ()) (s.reloadEvents file)

def State.observe (s : State) : List Action → List Observation
  | [] => []
  | a :: as => s.seen a :: (s.act a).observe as

def Reads (file : Option ByteArray) (d : Document) : Prop :=
  (fileText? file).bind Document.ofYaml? = some d

/-- Why a policy file cannot be loaded. -/
inductive Unusable (file : Option ByteArray) : Prop where
  | missing (h : file = none)
  | notText (octets : ByteArray) (hfile : file = some octets) (h : String.fromUTF8? octets = none)
  | notDocument (s : String) (hs : fileText? file = some s) (h : Document.ofYaml? s = none)
  | blankName (d : Document) (hd : Reads file d) (g : Group) (hg : g ∈ d.groups)
      (h : Text.isBlankText g.name = true)
  | duplicateName (d : Document) (hd : Reads file d) (h : ¬ d.NamesDiffer)
  | badInterval (d : Document) (hd : Reads file d) (g : Group) (hg : g ∈ d.groups) (raw : String)
      (h : g.period = .error raw)

theorem loadFile_eq_ok_iff {file : Option ByteArray} {d : Document} :
    Document.loadFile file = .ok d ↔ Reads file d ∧ d.fault? = none := by
  rw [Document.loadFile, Reads]
  cases fileText? file with
  | none => simp
  | some s =>
      simp only [Option.bind_some, Document.load]
      cases Document.ofYaml? s with
      | none => simp
      | some read =>
          simp only [Option.some.injEq]
          constructor
          · intro h
            cases hfault : read.fault? with
            | none =>
                simp only [hfault] at h
                cases h
                exact ⟨rfl, hfault⟩
            | some fault =>
                simp only [hfault] at h
                contradiction
          · intro h
            obtain ⟨rfl, hfault⟩ := h
            simp only [hfault]

/-- A file that is read as a document is unusable only for what is wrong with its groups. -/
theorem unusable_iff_of_reads {file : Option ByteArray} {d : Document} (hread : Reads file d) :
    Unusable file ↔ d.fault? ≠ none := by
  have hsame {d' : Document} (h : Reads file d') : d' = d := by
    rw [Reads, hread] at h
    exact (Option.some.inj h).symm
  rw [ne_eq, fault?_eq_none]
  constructor
  · intro h
    cases h with
    | missing h =>
        subst h
        contradiction
    | notText octets hfile h =>
        subst hfile
        rw [Reads, fileText?, Option.bind_some, h] at hread
        contradiction
    | notDocument s hs h =>
        rw [Reads, hs, Option.bind_some, h] at hread
        contradiction
    | blankName d' hd g hg h =>
        rw [hsame hd] at hg
        intro ⟨hfit, _⟩
        rw [(hfit g hg).1] at h
        contradiction
    | duplicateName d' hd h =>
        rw [hsame hd] at h
        exact fun hall => h hall.2
    | badInterval d' hd g hg raw h =>
        rw [hsame hd] at hg
        intro ⟨hfit, _⟩
        obtain ⟨period, hperiod⟩ := (hfit g hg).2
        rw [hperiod] at h
        contradiction
  · intro h
    by_cases hnames : d.NamesDiffer
    · have hunfit : ¬ ∀ g ∈ d.groups, g.Fit := fun hfit => h ⟨hfit, hnames⟩
      simp only [Classical.not_forall] at hunfit
      obtain ⟨g, hg, hunfit⟩ := hunfit
      cases hblank : Text.isBlankText g.name with
      | true => exact .blankName d hread g hg hblank
      | false =>
          cases hperiod : g.period with
          | error raw => exact .badInterval d hread g hg raw hperiod
          | ok period => exact absurd ⟨hblank, period, hperiod⟩ hunfit
    · exact .duplicateName d hread hnames

theorem exists_loadFile_eq_ok_iff {file : Option ByteArray} :
    (∃ d, Document.loadFile file = .ok d) ↔ ¬ Unusable file := by
  cases hread : (fileText? file).bind Document.ofYaml? with
  | some d =>
      rw [unusable_iff_of_reads hread, Classical.not_not]
      constructor
      · intro ⟨d', hload⟩
        obtain ⟨hread', hfault⟩ := loadFile_eq_ok_iff.1 hload
        rw [Reads, hread] at hread'
        cases hread'
        exact hfault
      · intro hfault
        exact ⟨d, loadFile_eq_ok_iff.2 ⟨hread, hfault⟩⟩
  | none =>
      constructor
      · intro ⟨d, hload⟩
        have hread' := (loadFile_eq_ok_iff.1 hload).1
        rw [Reads, hread] at hread'
        contradiction
      · intro h
        refine absurd ?_ h
        cases hs : fileText? file with
        | some s =>
            rw [hs, Option.bind_some] at hread
            exact .notDocument s hs hread
        | none =>
            cases file with
            | none => exact .missing rfl
            | some octets => exact .notText octets rfl hs

end Files

/-! ### Engines that look alike -/

/-- The engines have the same document, and their schedules know the same of each name. -/
structure Alike (s t : State) : Prop where
  document : s.document = t.document
  path : s.path = t.path
  left : s.schedule.Follows s.document.groups
  right : t.schedule.Follows t.document.groups
  known : ∀ name, s.schedule.get? name = t.schedule.get? name

variable {s t : State}

/-- The order in which the entries stand does not matter. -/
theorem due_congr {s t : Schedule} {groups : List Group} (hs : s.Follows groups)
    (ht : t.Follows groups) (h : ∀ name, s.get? name = t.get? name) (now : Instant) :
    s.due now = t.due now := by
  have horder : s.inOrder groups = t.inOrder groups := by
    rw [Schedule.inOrder, Schedule.inOrder]
    simp only [h]
  rw [Schedule.due_eq_inOrder hs, Schedule.due_eq_inOrder ht, horder]

theorem get?_recordRuns_congr {s t : Schedule} (h : ∀ name, s.get? name = t.get? name)
    (time : Instant) (ran : List Group) (name : String) :
    (recordRuns s time ran).get? name = (recordRuns t time ran).get? name := by
  induction ran generalizing s t with
  | nil => exact h name
  | cons g gs ih =>
      apply ih
      intro name'
      rw [Schedule.get?_recordRun, Schedule.get?_recordRun, h]

theorem Alike.due (h : Alike s t) (time : Instant) : s.schedule.due time = t.schedule.due time := by
  refine due_congr h.left ?_ h.known time
  rw [h.document]
  exact h.right

theorem Alike.tick (h : Alike s t) (source : Source) (time : Instant) :
    (s.tick source time).1 = (t.tick source time).1 ∧
      Alike (s.tick source time).2 (t.tick source time).2 := by
  have hleft := h.left
  rw [h.document] at hleft
  simp only [State.tick, runTick_eq, h.due time, h.document]
  refine ⟨trivial, rfl, h.path, ?_, ?_, ?_⟩
  · exact follows_recordRuns hleft time _
  · exact follows_recordRuns h.right time _
  · exact get?_recordRuns_congr h.known time _

theorem Alike.adopt (h : Alike s t) (d : Document) : Alike (s.adopt d) (t.adopt d) := by
  refine ⟨rfl, h.path, follows_adopt h.left d, follows_adopt h.right d, fun name => ?_⟩
  rw [State.adopt, State.adopt, Schedule.get?_sync, Schedule.get?_sync, Schedule.lastRun?,
    Schedule.lastRun?, h.known]

/-! ### A document that is adopted -/

theorem get?_withLastRuns (s : State) (lastRun? : String → Option Instant) (name : String) :
    (s.withLastRuns lastRun?).schedule.get? name =
      (s.schedule.get? name).map fun e => { e with lastRun := lastRun? name } := by
  rw [Schedule.get?, State.withLastRuns, List.find?_map]
  change (s.schedule.get? name).map _ = _
  cases h : s.schedule.get? name with
  | none => rfl
  | some e => rw [Option.map_some, Option.map_some, Schedule.name_of_get? h]

theorem follows_withLastRuns (h : s.schedule.Follows s.document.groups)
    (lastRun? : String → Option Instant) :
    (s.withLastRuns lastRun?).schedule.Follows s.document.groups := by
  refine ⟨?_, fun name => ?_⟩
  · rw [State.withLastRuns, List.map_map]
    exact h.distinct
  · rw [get?_withLastRuns, Option.map_map, ← h.known name]
    rfl

theorem alike_adopt (h : s.schedule.Follows s.document.groups) (d : Document) {path : String}
    (hpath : s.path = some path) :
    Alike (s.adopt d)
      ({ State.ofDocument d with path := some path }.withLastRuns s.schedule.lastRun?) := by
  have hfresh : ({ State.ofDocument d with path := some path } : State).schedule.Follows d.groups :=
    Schedule.Follows.empty.sync d.groups
  refine ⟨rfl, hpath, follows_adopt h d, follows_withLastRuns hfresh _, fun name => ?_⟩
  rw [get?_withLastRuns, State.adopt, State.ofDocument, Schedule.get?_sync, Schedule.get?_sync,
    Option.map_map]
  rfl

/-- The entry that each group has after its document was brought into force. -/
def State.entriesFor (s : State) (d : Document) : List ScheduleEntry :=
  d.groups.zipIdx.map fun (g, i) =>
    ⟨g.name, i, Schedule.periodOf g, s.schedule.lastRun? g.name⟩

theorem entries_adopt (h : s.schedule.Follows s.document.groups) {d : Document}
    (hd : d.NamesDiffer) : (s.adopt d).schedule.entries.Perm (s.entriesFor d) := by
  have horder : (s.adopt d).schedule.inOrder d.groups = s.entriesFor d := by
    rw [Schedule.inOrder, State.entriesFor, ← List.filterMap_eq_map']
    apply List.filterMap_congr
    intro x hmem
    obtain ⟨g, i⟩ := x
    simp [State.adopt, Schedule.get?_sync, Schedule.lastNamed_of_mem hd hmem]
  rw [← horder]
  exact Schedule.perm_inOrder (follows_adopt h d)

/-! ### Reloads -/

section Reloads

variable [Yaml.Library]

theorem Alike.afterReload (h : Alike s t) (file : Option ByteArray) :
    Alike (s.afterReload file) (t.afterReload file) := by
  rw [State.afterReload, State.afterReload, State.reload, State.reload, h.path]
  cases t.path with
  | none => exact h
  | some path =>
      cases Document.loadFile file with
      | error e => exact h
      | ok d => exact h.adopt d

theorem Alike.seen (h : Alike s t) (a : Action) : s.seen a = t.seen a := by
  cases a with
  | tick source time => rw [State.seen, State.seen, (h.tick source time).1]
  | reload file =>
      rw [State.seen, State.seen, State.reload, State.reload, State.reloadEvents,
        State.reloadEvents, h.path]
      cases t.path with
      | none => rfl
      | some path => cases Document.loadFile file <;> rfl

/-- Engines that look alike never show a difference, whatever they are told to do. -/
theorem Alike.observe (h : Alike s t) (actions : List Action) :
    s.observe actions = t.observe actions := by
  induction actions generalizing s t with
  | nil => rfl
  | cons a actions ih =>
      have hact : Alike (s.act a) (t.act a) := by
        cases a with
        | tick source time => exact (h.tick source time).2
        | reload file => exact h.afterReload file
      rw [State.observe, State.observe, h.seen a, ih hact]

theorem ofFile_eq_ok {path : String} {file : Option ByteArray} {d : Document}
    (hload : Document.loadFile file = .ok d) :
    State.ofFile path file = .ok ({ State.ofDocument d with path := some path },
      loadedEvents path d ++ State.startEvents d) :=
  ofFile_eq_ok_iff.2 ⟨d, hload, rfl, rfl⟩

/-- A reload changes nothing or everything. If the file is unusable, the engine reports it and goes
on as if nothing had been tried. Otherwise the document of the file is in force, each of its groups
has its entry, and from then on the engine cannot be told from one that was made from the file and
told when the groups ran last. -/
theorem reload_all_or_nothing {past : List Event} (h : Reached s past) {path : String}
    (hpath : s.path = some path) (file : Option ByteArray) :
    (Unusable file → ∃ e, Document.loadFile file = .error e ∧ s.reload file = .error e ∧
      s.afterReload file = s ∧
        ∀ actions, (s.afterReload file).observe actions = s.observe actions) ∧
    (¬ Unusable file → ∃ d fresh said, Document.loadFile file = .ok d ∧
      s.reload file = .ok (s.afterReload file) ∧ (s.afterReload file).document = d ∧
      (s.afterReload file).path = s.path ∧
      (s.afterReload file).schedule.entries.Perm (s.entriesFor d) ∧
      State.ofFile path file = .ok (fresh, said) ∧
        ∀ actions, (s.afterReload file).observe actions =
          (fresh.withLastRuns s.schedule.lastRun?).observe actions) := by
  have hsome : s.path ≠ none := by
    rw [hpath]
    exact Option.some_ne_none path
  constructor
  · intro hunusable
    cases hload : Document.loadFile file with
    | ok d => exact absurd hunusable (exists_loadFile_eq_ok_iff.1 ⟨d, hload⟩)
    | error e =>
        have hreload : s.reload file = .error e := by
          rw [State.reload, hpath, hload]
          rfl
        have hafter : s.afterReload file = s := afterReload_of_error hload
        refine ⟨e, rfl, hreload, hafter, fun actions => ?_⟩
        rw [hafter]
  · intro husable
    obtain ⟨d, hload⟩ := exists_loadFile_eq_ok_iff.2 husable
    have hafter := afterReload_of_loadFile hsome hload
    have hreload : s.reload file = .ok (s.adopt d) := by
      rw [State.reload, hpath, hload]
      rfl
    rw [hafter]
    have hentries := entries_adopt h.follows (namesDiffer_of_loadFile hload)
    exact ⟨d, _, _, hload, hreload, rfl, rfl, hentries, ofFile_eq_ok hload,
      (alike_adopt h.follows d hpath).observe⟩

end Reloads

theorem reload_all_or_nothing_after_tick :
    let d : Document := ⟨[⟨"a", .empty, some "10s", []⟩]⟩
    let s := (({ State.ofDocument d with path := some "p" } : State).tick (fun _ => .ok []) ⟨0⟩).2
    let repeated := some "groups:\n- name: a\n- name: a\n".toUTF8
    let moved := some "groups:\n- name: b\n- name: a\n  interval: 20s\n".toUTF8
    s.afterReload repeated = s ∧ (s.afterReload moved).schedule.entries.Perm
      [⟨"b", 0, none, none⟩, ⟨"a", 1, some ⟨20000, by decide, by decide⟩, some ⟨0⟩⟩] := by
  intro d s repeated moved
  have hread : Reads (some "groups:\n- name: a\n  interval: 10s\n".toUTF8) d := by
    unfold Reads
    decide +kernel
  have hload := loadFile_eq_ok_iff.2 ⟨hread, by decide +kernel⟩
  have hstart : Started { State.ofDocument d with path := some "p" } := .ofFile (ofFile_eq_ok hload)
  have hs : Reached s _ :=
    (Reached.start hstart).act (.tick (fun _ => .ok []) ⟨0⟩)
  have hpath : s.path = some "p" := rfl
  constructor
  · have hread' : Reads repeated ⟨[⟨"a", .empty, none, []⟩, ⟨"a", .empty, none, []⟩]⟩ := by
      unfold Reads
      decide +kernel
    have hunusable : Unusable repeated := .duplicateName _ hread' (by decide)
    obtain ⟨e, -, -, hafter, -⟩ := (reload_all_or_nothing hs hpath repeated).1 hunusable
    exact hafter
  · have hread' : Reads moved ⟨[⟨"b", .empty, none, []⟩, ⟨"a", .empty, some "20s", []⟩]⟩ := by
      unfold Reads
      decide +kernel
    have hload' := loadFile_eq_ok_iff.2 ⟨hread', by decide +kernel⟩
    have husable := exists_loadFile_eq_ok_iff.1 ⟨_, hload'⟩
    obtain ⟨d', fresh, said, hload'', -, -, -, hentries, -⟩ :=
      (reload_all_or_nothing hs hpath moved).2 husable
    obtain rfl := Except.ok.inj (hload'.symm.trans hload'')
    have heq : s.entriesFor ⟨[⟨"b", .empty, none, []⟩, ⟨"a", .empty, some "20s", []⟩]⟩ =
        [⟨"b", 0, none, none⟩, ⟨"a", 1, some ⟨20000, by decide, by decide⟩, some ⟨0⟩⟩] := by
      decide +kernel
    rw [← heq]
    exact hentries

end AlertPolicy.Engine
