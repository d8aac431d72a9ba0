import AlertPolicy.Engine.Interleaving
import AlertPolicy.Proofs.Engine.History

/-!
How far a tick has come with its work. It keeps to the groups that it found in its document, does
what is to be done for them in order, and closes a group when all its rules have been evaluated.
-/

namespace AlertPolicy.Engine

open Policy Store Time

/-- The rule that a task looks at, with the name of its group and its place there. -/
def Task.place? : Task → Option (String × Nat × Rule)
  | .look g i r => some (g.name, i, r)
  | _ => none

def Task.closed? : Task → Option Group
  | .close g => some g
  | _ => none

def Outcome.place (o : Outcome) : String × Nat × Rule := (o.group, o.index, o.rule)

theorem place_evaluateRule (source : Source) (time : Instant) (g : Group) (i : Nat) (r : Rule) :
    (evaluateRule source time g i r).place = (g.name, i, r) := by
  obtain ⟨hgroup, hindex, hrule⟩ := (evaluateRule_isOutcome source time g i r).place
  rw [Outcome.place, hgroup, hindex, hrule]

theorem mem_groupTasks {g : Group} {task : Task} :
    task ∈ groupTasks g ↔
      (∃ i r, g.rules[i]? = some r ∧ task = .look g i r) ∨ task = .close g := by
  simp only [groupTasks, List.mem_append, List.mem_map, List.mem_singleton, Prod.exists,
    List.mem_zipIdx_iff_getElem?]
  grind

theorem look_mem_groupTasks {g g' : Group} (h : .close g ∈ groupTasks g') {i : Nat} {r : Rule}
    (hr : g.rules[i]? = some r) : .look g i r ∈ groupTasks g' := by
  rcases mem_groupTasks.1 h with ⟨_, _, _, heq⟩ | heq
  · cases heq
  · cases heq
    exact mem_groupTasks.2 (.inl ⟨i, r, hr, rfl⟩)

/-- The last piece of the work of a group closes it, and no other does. -/
theorem eq_nil_of_close_mem {g g' : Group} {did more : List Task}
    (h : groupTasks g' = did ++ more) (hclose : .close g ∈ did) : more = [] := by
  rcases List.eq_nil_or_concat more with hnil | ⟨more, task, rfl⟩
  · exact hnil
  · rw [groupTasks, List.concat_eq_append, ← List.append_assoc] at h
    have hlooks := (List.append_inj' h rfl).1
    have hmem := List.mem_append_left more hclose
    rw [← hlooks] at hmem
    obtain ⟨x, -, heq⟩ := List.mem_map.1 hmem
    cases heq

/-- A group is closed when all its rules have been looked at. -/
theorem look_mem_of_close_mem {gs : List Group} {did left : List Task}
    (h : gs.flatMap groupTasks = did ++ left) {g : Group} (hclose : .close g ∈ did) {i : Nat}
    {r : Rule} (hr : g.rules[i]? = some r) : .look g i r ∈ did := by
  induction gs generalizing did with
  | nil =>
      rw [List.flatMap_nil, List.nil_eq, List.append_eq_nil_iff] at h
      rw [h.1] at hclose
      contradiction
  | cons g' gs ih =>
      rw [List.flatMap_cons, List.append_eq_append_iff] at h
      rcases h with ⟨more, hdid, hrest⟩ | ⟨more, htasks, -⟩
      · rw [hdid] at hclose ⊢
        rcases List.mem_append.1 hclose with hfirst | hlater
        · exact List.mem_append_left _ (look_mem_groupTasks hfirst hr)
        · exact List.mem_append_right _ (ih hrest hlater)
      · cases eq_nil_of_close_mem htasks hclose
        rw [List.append_nil] at htasks
        rw [← htasks] at hclose ⊢
        exact look_mem_groupTasks hclose hr

theorem places_groupTasks (g : Group) :
    (groupTasks g).filterMap Task.place? = g.rules.zipIdx.map fun (r, i) => (g.name, i, r) := by
  rw [groupTasks, List.filterMap_append, List.filterMap_map, List.filterMap_cons_none rfl,
    List.filterMap_nil, List.append_nil]
  exact congrFun List.filterMap_eq_map g.rules.zipIdx

theorem name_mem_of_place_mem {gs : List Group} {p : String × Nat × Rule}
    (h : p ∈ (gs.flatMap groupTasks).filterMap Task.place?) : p.1 ∈ gs.map (·.name) := by
  rw [List.filterMap_flatMap] at h
  obtain ⟨g, hg, hp⟩ := List.mem_flatMap.1 h
  rw [places_groupTasks] at hp
  obtain ⟨x, -, rfl⟩ := List.mem_map.1 hp
  exact List.mem_map_of_mem hg

/-- Where the names differ, no rule is looked at twice. -/
theorem nodup_places {gs : List Group} (h : (gs.map (·.name)).Nodup) :
    (((gs.flatMap groupTasks).filterMap Task.place?).map fun p => (p.1, p.2.1)).Nodup := by
  induction gs with
  | nil => exact .nil
  | cons g gs ih =>
      rw [List.map_cons, List.nodup_cons] at h
      rw [List.flatMap_cons, List.filterMap_append, List.map_append, places_groupTasks,
        List.map_map, List.nodup_append]
      refine ⟨?_, ih h.2, ?_⟩
      · have hindices : (g.rules.zipIdx.map Prod.snd).Nodup := by
          rw [List.zipIdx_map_snd]
          exact List.nodup_range'
        refine List.pairwise_map.2 ((List.pairwise_map.1 hindices).imp ?_)
        intro x y hne heq
        have hindex := congrArg Prod.snd heq
        exact hne hindex
      · intro a ha b hb heq
        obtain ⟨x, -, rfl⟩ := List.mem_map.1 ha
        obtain ⟨p, hp, rfl⟩ := List.mem_map.1 hb
        refine h.1 ?_
        have hname : g.name = p.1 := congrArg Prod.fst heq
        rw [hname]
        exact name_mem_of_place_mem hp

/-- The tick runs these groups of its document: it has done some of the work for them, with these
outcomes, and the rest is left. -/
structure OnCourse (v : Visit) (gs : List Group) (did left : List Task) : Prop where
  names : (gs.map (·.name)).Nodup
  groups : ∀ g ∈ gs, g ∈ v.document.groups
  tasks : gs.flatMap groupTasks = did ++ left
  places : v.outcomes.map Outcome.place = did.filterMap Task.place?
  evaluated : ∀ o ∈ v.outcomes, ∃ g i r source, .look g i r ∈ did ∧
    o = evaluateRule source v.tick.time g i r
  closed : v.tick.groups = did.filterMap Task.closed?

namespace OnCourse

variable {v : Visit} {gs : List Group} {did left : List Task}

theorem start {d : Document} {names : List String} (h : names.Nodup) (time : Instant) :
    OnCourse ⟨d, .start time, []⟩ (names.filterMap d.group?) []
      ((names.filterMap d.group?).flatMap groupTasks) where
  names := (sublist_names_group? d names).nodup h
  groups := fun _ => mem_of_group?
  tasks := rfl
  places := rfl
  evaluated := fun _ ho => absurd ho List.not_mem_nil
  closed := rfl

theorem look {g : Group} {i : Nat} {r : Rule} (h : OnCourse v gs did (.look g i r :: left))
    {source : Source} {o : Outcome} (ho : o = evaluateRule source v.tick.time g i r) :
    OnCourse { v with tick := v.tick.fetch o.fetched, outcomes := v.outcomes ++ [o] } gs
      (did ++ [.look g i r]) left where
  names := h.names
  groups := h.groups
  tasks := by rw [h.tasks, List.append_assoc, List.singleton_append]
  places := by
    rw [List.map_append, h.places, List.filterMap_append, List.map_singleton, ho,
      place_evaluateRule]
    rfl
  evaluated := by
    intro x hx
    rcases List.mem_append.1 hx with hx | hx
    · obtain ⟨g', i', r', source', hdid, heq⟩ := h.evaluated x hx
      exact ⟨g', i', r', source', List.mem_append_left _ hdid, heq⟩
    · rw [List.mem_singleton.1 hx]
      exact ⟨g, i, r, source, List.mem_append_right _ (List.mem_singleton_self _), ho⟩
  closed := by
    rw [List.filterMap_append, List.filterMap_cons_none rfl, List.filterMap_nil, List.append_nil]
    exact h.closed

theorem settle (h : OnCourse v gs did left) (o : Outcome) :
    OnCourse { v with tick := v.tick.settle o } gs did left where
  names := h.names
  groups := h.groups
  tasks := h.tasks
  places := h.places
  evaluated := by
    simp only [(v.tick.settle_keeps o).1]
    exact h.evaluated
  closed := (v.tick.settle_keeps o).2.trans h.closed

theorem close {g : Group} (h : OnCourse v gs did (.close g :: left)) :
    OnCourse { v with tick := v.tick.close g } gs (did ++ [.close g]) left where
  names := h.names
  groups := h.groups
  tasks := by rw [h.tasks, List.append_assoc, List.singleton_append]
  places := by
    rw [List.filterMap_append, List.filterMap_cons_none rfl, List.filterMap_nil, List.append_nil]
    exact h.places
  evaluated := by
    intro x hx
    obtain ⟨g', i', r', source', hdid, heq⟩ := h.evaluated x hx
    exact ⟨g', i', r', source', List.mem_append_left _ hdid, heq⟩
  closed := by
    rw [List.filterMap_append, ← h.closed]
    rfl

/-- What is evaluated is a rule of the document, at its place. -/
theorem rule_of_outcome (h : OnCourse v gs did left) {o : Outcome} (ho : o ∈ v.outcomes) :
    ∃ g ∈ v.document.groups, ∃ source, g.rules[o.index]? = some o.rule ∧
      o = evaluateRule source v.tick.time g o.index o.rule := by
  obtain ⟨g, i, r, source, hdid, heq⟩ := h.evaluated o ho
  have hplace : o.place = (g.name, i, r) := by rw [heq, place_evaluateRule]
  have hindex : o.index = i := congrArg (·.2.1) hplace
  have hrule : o.rule = r := congrArg (·.2.2) hplace
  have htask : .look g i r ∈ gs.flatMap groupTasks := by
    rw [h.tasks]
    exact List.mem_append_left left hdid
  obtain ⟨g', hg', hmem⟩ := List.mem_flatMap.1 htask
  rcases mem_groupTasks.1 hmem with ⟨_, _, hr, hsame⟩ | hsame
  · cases hsame
    refine ⟨g, h.groups g hg', source, ?_, ?_⟩
    · rw [hindex, hrule]
      exact hr
    · rw [hindex, hrule]
      exact heq
  · cases hsame

/-- No rule is evaluated twice. -/
theorem nodup_outcomes (h : OnCourse v gs did left) :
    (v.outcomes.map fun o => (o.group, o.index)).Nodup := by
  have hplaces := congrArg (List.map fun p => (p.1, p.2.1)) h.places
  rw [List.map_map] at hplaces
  change v.outcomes.map (fun o => (o.group, o.index)) = _ at hplaces
  rw [hplaces]
  have hall := nodup_places h.names
  rw [h.tasks, List.filterMap_append, List.map_append] at hall
  exact (List.nodup_append.1 hall).1

/-- All rules of a group that has run were evaluated. -/
theorem outcome_of_closed (h : OnCourse v gs did left) {g : Group} (hg : g ∈ v.tick.groups)
    {i : Nat} {r : Rule} (hr : g.rules[i]? = some r) :
    ∃ o ∈ v.outcomes, o.place = (g.name, i, r) := by
  rw [h.closed] at hg
  obtain ⟨task, htask, hclose⟩ := List.mem_filterMap.1 hg
  cases task with
  | close g' =>
      cases hclose
      have hlook := look_mem_of_close_mem h.tasks htask hr
      have hplace : (g.name, i, r) ∈ did.filterMap Task.place? :=
        List.mem_filterMap.2 ⟨_, hlook, rfl⟩
      rw [← h.places] at hplace
      exact List.mem_map.1 hplace
  | look => cases hclose
  | settle => cases hclose

/-- No answer is waited for before its rule has been looked at. -/
theorem not_settle {o : Outcome} : ¬ OnCourse v gs did (.settle o :: left) := by
  intro h
  have hmem : .settle o ∈ gs.flatMap groupTasks := by
    rw [h.tasks]
    exact List.mem_append_right did List.mem_cons_self
  obtain ⟨g, -, hg⟩ := List.mem_flatMap.1 hmem
  rcases mem_groupTasks.1 hg with ⟨_, _, _, heq⟩ | heq
  · cases heq
  · cases heq

end OnCourse

end AlertPolicy.Engine
