import AlertPolicy.Policy.Loading

/-!
Documents that can be scheduled. The check goes from group to group with the names seen so far, and
what it passes are the documents in which every group is fit and no name comes twice.
-/

namespace AlertPolicy.Policy

/-- The names of the groups differ. -/
def Document.NamesDiffer (d : Document) : Prop := (d.groups.map (·.name)).Nodup

instance (d : Document) : Decidable d.NamesDiffer := inferInstanceAs (Decidable (List.Nodup _))

/-- The group has a name that is not blank, and an interval that is a duration if it has one. -/
def Group.Fit (g : Group) : Prop :=
  Text.isBlankText g.name = false ∧ ∃ period, g.period = .ok period

theorem firstFault?_eq_none {seen : List String} {index : Nat} {gs : List Group} :
    firstFault? seen index gs = none ↔
      (∀ g ∈ gs, g.Fit) ∧ (∀ g ∈ gs, g.name ∉ seen) ∧ (gs.map (·.name)).Nodup := by
  induction gs generalizing seen index with
  | nil => simp [firstFault?]
  | cons g gs ih =>
      rw [firstFault?, List.forall_mem_cons, List.forall_mem_cons, List.map_cons, List.nodup_cons]
      cases hblank : Text.isBlankText g.name with
      | true => simp [Group.Fit, hblank]
      | false =>
          cases hseen : seen.contains g.name with
          | true => simp [List.contains_iff_mem.1 hseen]
          | false =>
              have hnew : g.name ∉ seen := by simpa using hseen
              cases hperiod : g.period with
              | error raw => simp [Group.Fit, hperiod]
              | ok period =>
                  have hfit : g.Fit := ⟨hblank, period, hperiod⟩
                  simp only [if_neg Bool.false_ne_true, ih, hfit, hnew, List.mem_cons, not_or,
                    List.mem_map, not_exists, true_and, not_and, not_false_eq_true]
                  constructor
                  · intro ⟨hall, hnames, hd⟩
                    exact ⟨hall, fun x hx => (hnames x hx).2,
                      fun x hx heq => (hnames x hx).1 heq, hd⟩
                  · intro ⟨hall, hnames, hother, hd⟩
                    exact ⟨hall, fun x hx => ⟨hother x hx, hnames x hx⟩, hd⟩

theorem fault?_eq_none {d : Document} :
    d.fault? = none ↔ (∀ g ∈ d.groups, g.Fit) ∧ d.NamesDiffer := by
  rw [Document.fault?, firstFault?_eq_none, Document.NamesDiffer]
  constructor
  · intro h
    exact ⟨h.1, h.2.2⟩
  · intro ⟨hfit, hd⟩
    exact ⟨hfit, fun g _ => List.not_mem_nil, hd⟩

theorem fault?_of_load [Yaml.Library] {s : String} {d : Document} (h : Document.load s = .ok d) :
    d.fault? = none := by
  rw [Document.load] at h
  cases hread : Document.ofYaml? s with
  | none =>
      rw [hread] at h
      contradiction
  | some read =>
      rw [hread] at h
      cases hfault : read.fault? with
      | some fault =>
          simp only [hfault] at h
          contradiction
      | none =>
          simp only [hfault] at h
          cases h
          exact hfault

theorem fault?_of_loadFile [Yaml.Library] {file : Option ByteArray} {d : Document}
    (h : Document.loadFile file = .ok d) : d.fault? = none := by
  rw [Document.loadFile] at h
  cases htext : fileText? file with
  | none =>
      rw [htext] at h
      contradiction
  | some s =>
      rw [htext] at h
      exact fault?_of_load h

theorem namesDiffer_of_loadFile [Yaml.Library] {file : Option ByteArray} {d : Document}
    (h : Document.loadFile file = .ok d) : d.NamesDiffer :=
  (fault?_eq_none.1 (fault?_of_loadFile h)).2

end AlertPolicy.Policy
