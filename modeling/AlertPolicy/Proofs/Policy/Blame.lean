import AlertPolicy.Proofs.Policy.Check
import AlertPolicy.Proofs.Policy.Findings

/-!
The check before loading beside validation. The one stops at the first fault and the other goes on,
but up to that fault they have seen the same names; so the fault is the first error that is found at
the name or the interval of a group, and nothing else keeps a document from loading.
-/

namespace AlertPolicy.Policy

open AlertPolicy.Expr

/-- The errors at the name of the group, and then those at its interval. -/
def Findings.ofGroup (fs : Findings) (i : Nat) : Findings :=
  Findings.at fs.errors (.groupName i) ++ Findings.at fs.errors (.groupInterval i)

/-- What loading says of the group if this is the first thing that is wrong. -/
def Cause.fault? (i : Nat) (g : Group) : Cause → Option DocumentFault
  | .emptyGroupName => some (.emptyName i)
  | .duplicateGroupName _ => some (.duplicateName g.name)
  | .invalidInterval raw => some (.invalidInterval g.name raw)
  | _ => none

/-- The fault is the first error at a group, and no group before that one has any. -/
def Blames (d : Document) (fault : DocumentFault) : Prop :=
  ∃ i g f, d.groups[i]? = some g ∧ (∀ k < i, d.validate.ofGroup k = []) ∧
    (d.validate.ofGroup i).head? = some f ∧ f.cause.fault? i g = some fault

/-! ### One group -/

/-- What is found at the name of one group after the names seen. -/
def nameFinding (seen : List String) (i : Nat) (g : Group) : Findings :=
  if Text.isBlankText g.name then [⟨.groupName i, .emptyGroupName, none⟩]
  else if seen.contains g.name then [⟨.groupName i, .duplicateGroupName g.name, none⟩]
  else []

/-- The names seen after one more group; a name at fault is not added. -/
def seenAfter (seen : List String) (g : Group) : List String :=
  if Text.isBlankText g.name || seen.contains g.name then seen else g.name :: seen

theorem nameFindings_cons (seen : List String) (i : Nat) (g : Group) (gs : List Group) :
    nameFindings seen i (g :: gs) =
      nameFinding seen i g ++ nameFindings (seenAfter seen g) (i + 1) gs := by
  rw [nameFindings, nameFinding, seenAfter]
  cases Text.isBlankText g.name <;> cases seen.contains g.name <;> rfl

theorem mem_nameFinding {seen : List String} {i : Nat} {g : Group} {f : Finding}
    (h : f ∈ nameFinding seen i g) : f.location = .groupName i ∧ f.severity = .error := by
  rw [nameFinding] at h
  split at h
  · rw [List.mem_singleton.1 h]
    exact ⟨rfl, rfl⟩
  · split at h
    · rw [List.mem_singleton.1 h]
      exact ⟨rfl, rfl⟩
    · contradiction

theorem mem_intervalFindings {i : Nat} {g : Group} {f : Finding} (h : f ∈ intervalFindings i g) :
    f.location = .groupInterval i ∧ f.severity = .error := by
  rw [intervalFindings] at h
  split at h
  · contradiction
  · rw [List.mem_singleton.1 h]
    exact ⟨rfl, rfl⟩

/-- The check stops at a group exactly if something is found there, and says what is found first. -/
theorem firstFault?_cons (seen : List String) (i : Nat) (g : Group) (gs : List Group) :
    (∃ f rest fault, nameFinding seen i g ++ intervalFindings i g = f :: rest ∧
      f.cause.fault? i g = some fault ∧ firstFault? seen i (g :: gs) = some fault) ∨
    (nameFinding seen i g ++ intervalFindings i g = [] ∧
      firstFault? seen i (g :: gs) = firstFault? (seenAfter seen g) (i + 1) gs) := by
  rw [firstFault?, nameFinding, seenAfter, intervalFindings]
  cases Text.isBlankText g.name with
  | true => exact .inl ⟨_, _, _, rfl, rfl, rfl⟩
  | false =>
      cases seen.contains g.name with
      | true => exact .inl ⟨_, _, _, rfl, rfl, rfl⟩
      | false =>
          cases g.period with
          | error raw => exact .inl ⟨_, _, _, rfl, rfl, rfl⟩
          | ok period => exact .inr ⟨rfl, rfl⟩

/-! ### All groups -/

/-- What is found at the name and at the interval of group `j`, when the groups begin at `i`. -/
def found (seen : List String) (i : Nat) (gs : List Group) (j : Nat) : Findings :=
  (nameFindings seen i gs).at (.groupName j) ++
    Findings.at ((gs.zipIdx i).flatMap fun (g, k) => intervalFindings k g) (.groupInterval j)

theorem le_of_mem_nameFindings {seen : List String} {i : Nat} {gs : List Group} {f : Finding}
    (h : f ∈ nameFindings seen i gs) :
    f.severity = .error ∧ ∃ j, i ≤ j ∧ f.location = .groupName j := by
  induction gs generalizing seen i with
  | nil => contradiction
  | cons g gs ih =>
      rw [nameFindings_cons, List.mem_append] at h
      cases h with
      | inl h =>
          obtain ⟨hplace, hsevere⟩ := mem_nameFinding h
          exact ⟨hsevere, i, Nat.le_refl i, hplace⟩
      | inr h =>
          obtain ⟨hsevere, j, hle, hplace⟩ := ih h
          exact ⟨hsevere, j, by omega, hplace⟩

theorem le_of_mem_intervals {i : Nat} {gs : List Group} {f : Finding}
    (h : f ∈ (gs.zipIdx i).flatMap fun (g, k) => intervalFindings k g) :
    f.severity = .error ∧ ∃ j, i ≤ j ∧ f.location = .groupInterval j := by
  obtain ⟨⟨g, k⟩, hmem, hf⟩ := List.mem_flatMap.1 h
  obtain ⟨hplace, hsevere⟩ := mem_intervalFindings hf
  exact ⟨hsevere, k, List.le_snd_of_mem_zipIdx hmem, hplace⟩

theorem found_of_lt (seen : List String) {i j : Nat} (gs : List Group) (h : j < i) :
    found seen i gs j = [] := by
  rw [found, List.append_eq_nil_iff]
  constructor
  · refine at_eq_nil fun f hf hplace => ?_
    obtain ⟨-, k, hle, hk⟩ := le_of_mem_nameFindings hf
    rw [hk] at hplace
    cases hplace
    omega
  · refine at_eq_nil fun f hf hplace => ?_
    obtain ⟨-, k, hle, hk⟩ := le_of_mem_intervals hf
    rw [hk] at hplace
    cases hplace
    omega

theorem found_cons (seen : List String) (i : Nat) (g : Group) (gs : List Group) (j : Nat) :
    found seen i (g :: gs) j =
      if j = i then nameFinding seen i g ++ intervalFindings i g
      else found (seenAfter seen g) (i + 1) gs j := by
  rw [found, nameFindings_cons, List.zipIdx_cons, List.flatMap_cons, at_append, at_append]
  by_cases hj : j = i
  · subst hj
    have hrest := List.append_eq_nil_iff.1
      (found_of_lt (seenAfter seen g) gs (Nat.lt_succ_self j))
    rw [hrest.1, hrest.2, List.append_nil, List.append_nil, if_pos rfl,
      at_eq_self fun f hf => (mem_nameFinding hf).1,
      at_eq_self fun f hf => (mem_intervalFindings hf).1]
  · have hname : (nameFinding seen i g).at (.groupName j) = [] := by
      refine at_eq_nil fun f hf hplace => hj ?_
      rw [(mem_nameFinding hf).1] at hplace
      cases hplace
      rfl
    have hinterval : (intervalFindings i g).at (.groupInterval j) = [] := by
      refine at_eq_nil fun f hf hplace => hj ?_
      rw [(mem_intervalFindings hf).1] at hplace
      cases hplace
      rfl
    rw [hname, hinterval, List.nil_append, List.nil_append, if_neg hj]
    rfl

theorem firstFault?_eq_none_iff {seen : List String} {i : Nat} {gs : List Group} :
    firstFault? seen i gs = none ↔ ∀ j, found seen i gs j = [] := by
  induction gs generalizing seen i with
  | nil => exact ⟨fun _ _ => rfl, fun _ => rfl⟩
  | cons g gs ih =>
      rcases firstFault?_cons seen i g gs with ⟨f, rest, fault, hfound, -, hfirst⟩ | ⟨hnone, hfirst⟩
      · rw [hfirst]
        constructor
        · intro h
          contradiction
        · intro h
          have hhere := h i
          rw [found_cons, if_pos rfl, hfound] at hhere
          contradiction
      · rw [hfirst, ih]
        constructor
        · intro h j
          rw [found_cons, hnone]
          split
          · rfl
          · exact h j
        · intro h j
          by_cases hj : j = i
          · subst hj
            exact found_of_lt _ _ (Nat.lt_succ_self j)
          · have hthere := h j
            rwa [found_cons, if_neg hj] at hthere

theorem firstFault?_eq_some_iff {seen : List String} {i : Nat} {gs : List Group}
    {fault : DocumentFault} :
    firstFault? seen i gs = some fault ↔ ∃ j g f, gs[j]? = some g ∧
      (∀ k < j, found seen i gs (i + k) = []) ∧ (found seen i gs (i + j)).head? = some f ∧
      f.cause.fault? (i + j) g = some fault := by
  induction gs generalizing seen i with
  | nil =>
      constructor
      · intro h
        contradiction
      · intro ⟨j, g, f, hg, _⟩
        contradiction
  | cons g gs ih =>
      have hhere : found seen i (g :: gs) (i + 0) =
          nameFinding seen i g ++ intervalFindings i g := by
        rw [Nat.add_zero, found_cons, if_pos rfl]
      have hthere (j : Nat) : found seen i (g :: gs) (i + (j + 1)) =
          found (seenAfter seen g) (i + 1) gs (i + 1 + j) := by
        rw [found_cons, if_neg (by omega), Nat.add_right_comm, Nat.add_assoc]
      rcases firstFault?_cons seen i g gs with
        ⟨f, rest, first, hfound, hfault, hfirst⟩ | ⟨hnone, hfirst⟩
      · rw [hfirst]
        constructor
        · intro heq
          cases heq
          refine ⟨0, g, f, rfl, fun k hk => absurd hk (Nat.not_lt_zero k), ?_, hfault⟩
          rw [hhere, hfound]
          rfl
        · intro ⟨j, g', f', hg, hbefore, hhead, hfault'⟩
          cases j with
          | zero =>
              cases hg
              rw [hhere, hfound] at hhead
              cases hhead
              rw [← hfault']
              exact hfault.symm
          | succ j =>
              have hempty := hbefore 0 (Nat.succ_pos j)
              rw [hhere, hfound] at hempty
              contradiction
      · rw [hfirst, ih]
        constructor
        · intro ⟨j, g', f, hg, hbefore, hhead, hfault⟩
          refine ⟨j + 1, g', f, hg, ?_, ?_, ?_⟩
          · intro k hk
            cases k with
            | zero => rw [hhere, hnone]
            | succ k =>
                rw [hthere]
                exact hbefore k (Nat.lt_of_succ_lt_succ hk)
          · rw [hthere]
            exact hhead
          · have hshift : i + (j + 1) = i + 1 + j := by omega
            rw [hshift]
            exact hfault
        · intro ⟨j, g', f, hg, hbefore, hhead, hfault⟩
          cases j with
          | zero =>
              rw [hhere, hnone] at hhead
              contradiction
          | succ j =>
              refine ⟨j, g', f, hg, ?_, ?_, ?_⟩
              · intro k hk
                rw [← hthere]
                exact hbefore (k + 1) (Nat.succ_lt_succ hk)
              · rw [← hthere]
                exact hhead
              · have hshift : i + 1 + j = i + (j + 1) := by omega
                rw [hshift]
                exact hfault

/-! ### Errors of a whole document -/

theorem severity_recordFindings {i j : Nat} {group : String} {seen : List String} {rs : List Rule}
    {f : Finding} (h : f ∈ recordFindings i group seen j rs) : f.severity = .warning := by
  induction rs generalizing seen j with
  | nil => contradiction
  | cons r rs ih =>
      rw [recordFindings] at h
      split at h
      · cases List.mem_cons.1 h with
        | inl heq =>
            rw [heq]
            rfl
        | inr h => exact ih h
      · split at h
        · cases List.mem_cons.1 h with
          | inl heq =>
              rw [heq]
              rfl
          | inr h => exact ih h
        · exact ih h

theorem severity_ruleFindings {i : Nat} {g : Group} {f : Finding} (h : f ∈ ruleFindings i g) :
    f.severity = .warning := by
  rw [ruleFindings] at h
  split at h
  · rw [List.mem_singleton.1 h]
    rfl
  · exact severity_recordFindings h

theorem mem_errors {fs : Findings} {f : Finding} :
    f ∈ fs.errors ↔ f ∈ fs ∧ f.severity = .error := by
  rw [Findings.errors, List.mem_filter, decide_eq_true_iff]

theorem mem_validate {d : Document} {f : Finding} :
    f ∈ d.validate ↔ f ∈ nameFindings [] 0 d.groups ∨
      f ∈ (d.groups.zipIdx.flatMap fun (g, i) => intervalFindings i g) ∨
      ∃ g i, (g, i) ∈ d.groups.zipIdx ∧ (f ∈ ruleFindings i g ∨
        ∃ r j, (r, j) ∈ g.rules.zipIdx ∧ f ∈ exprFindings (.expr i j) r.expr) := by
  simp only [Document.validate, groupFindings, List.mem_append, List.mem_flatMap, Prod.exists]
  constructor
  · intro h
    rcases h with hname | ⟨g, i, hg, (hinterval | hrule) | hexpr⟩
    · exact .inl hname
    · exact .inr (.inl ⟨g, i, hg, hinterval⟩)
    · exact .inr (.inr ⟨g, i, hg, .inl hrule⟩)
    · exact .inr (.inr ⟨g, i, hg, .inr hexpr⟩)
  · intro h
    rcases h with hname | ⟨g, i, hg, hinterval⟩ | ⟨g, i, hg, hrule | hexpr⟩
    · exact .inl hname
    · exact .inr ⟨g, i, hg, .inl (.inl hinterval)⟩
    · exact .inr ⟨g, i, hg, .inl (.inr hrule)⟩
    · exact .inr ⟨g, i, hg, .inr hexpr⟩

/-- An error is at a name, at an interval or at an expression. -/
theorem location_of_mem_errors {d : Document} {f : Finding} (h : f ∈ d.validate.errors) :
    (∃ i, f.location = .groupName i) ∨ (∃ i, f.location = .groupInterval i) ∨
      ∃ i j, f.location = .expr i j := by
  obtain ⟨hmem, hsevere⟩ := mem_errors.1 h
  rcases mem_validate.1 hmem with hname | hinterval | ⟨g, i, -, hrule | ⟨r, j, -, hexpr⟩⟩
  · exact .inl (location_nameFindings hname)
  · obtain ⟨-, j, -, hplace⟩ := le_of_mem_intervals hinterval
    exact .inr (.inl ⟨j, hplace⟩)
  · rw [severity_ruleFindings hrule] at hsevere
    contradiction
  · exact .inr (.inr ⟨i, j, location_exprFindings hexpr⟩)

/-- In a group, only its interval counts for the place of an interval, and nothing for a name. -/
theorem at_groupFindings_interval (i j : Nat) (g : Group) :
    (groupFindings i g).at (.groupInterval j) = (intervalFindings i g).at (.groupInterval j) ∧
      (groupFindings i g).at (.groupName j) = [] := by
  obtain ⟨rest, hsplit, hrest⟩ : ∃ rest, groupFindings i g = intervalFindings i g ++ rest ∧
      ∀ f ∈ rest, f.location ≠ .groupInterval j ∧ f.location ≠ .groupName j := by
    refine ⟨_, List.append_assoc _ _ _, fun f hf => ?_⟩
    cases List.mem_append.1 hf with
    | inl hrule =>
        cases location_ruleFindings hrule with
        | inl hplace => simp [hplace]
        | inr hrecord =>
            obtain ⟨k, hplace⟩ := hrecord
            simp [hplace]
    | inr hexpr =>
        obtain ⟨⟨r, k⟩, -, hf⟩ := List.mem_flatMap.1 hexpr
        simp [location_exprFindings hf]
  rw [hsplit]
  constructor
  · rw [at_append, at_eq_nil fun f hf => (hrest f hf).1, List.append_nil]
  · rw [at_append, at_eq_nil fun f hf => (hrest f hf).2, List.append_nil]
    refine at_eq_nil fun f hf => ?_
    rw [location_intervalFindings hf]
    exact Location.noConfusion

theorem errors_at {fs : Findings} (h : ∀ f ∈ fs, f.severity = .error) (l : Location) :
    (fs.at l).errors = fs.at l := by
  rw [Findings.errors, List.filter_eq_self]
  intro f hf
  exact decide_eq_true (h f (List.mem_filter.1 hf).1)

theorem ofGroup_validate (d : Document) (j : Nat) :
    d.validate.ofGroup j = found [] 0 d.groups j := by
  have hname : d.validate.at (.groupName j) = (nameFindings [] 0 d.groups).at (.groupName j) := by
    have hgroups : (d.groups.zipIdx.flatMap fun (g, i) => (groupFindings i g).at (.groupName j)) =
        [] := List.flatMap_eq_nil_iff.2 fun (g, i) _ => (at_groupFindings_interval i j g).2
    rw [Document.validate, at_append, at_flatMap]
    exact (congrArg _ hgroups).trans (List.append_nil _)
  have hinterval : d.validate.at (.groupInterval j) =
      Findings.at (d.groups.zipIdx.flatMap fun (g, k) => intervalFindings k g)
        (.groupInterval j) := by
    have hnames : (nameFindings [] 0 d.groups).at (.groupInterval j) = [] := by
      refine at_eq_nil fun f hf => ?_
      obtain ⟨-, k, -, hplace⟩ := le_of_mem_nameFindings hf
      rw [hplace]
      exact Location.noConfusion
    rw [Document.validate, at_append, at_flatMap, at_flatMap, hnames, List.nil_append]
    simp only [(at_groupFindings_interval _ _ _).1]
  rw [Findings.ofGroup, at_errors, at_errors, hname, hinterval, found,
    errors_at fun f hf => (le_of_mem_nameFindings hf).1,
    errors_at fun f hf => (le_of_mem_intervals hf).1]

/-! ### Loading and validation -/

theorem fault?_eq_none_iff_ofGroup (d : Document) :
    d.fault? = none ↔ ∀ i, d.validate.ofGroup i = [] := by
  simp only [Document.fault?, firstFault?_eq_none_iff, ofGroup_validate]

theorem fault?_eq_some_iff_blames (d : Document) (fault : DocumentFault) :
    d.fault? = some fault ↔ Blames d fault := by
  simp only [Document.fault?, firstFault?_eq_some_iff, Blames, ofGroup_validate, Nat.zero_add]

theorem load_eq_ok_iff [Yaml.Library] {s : String} {d : Document}
    (h : Document.ofYaml? s = some d) : Document.load s = .ok d ↔ d.fault? = none := by
  rw [Document.load, h]
  cases hfault : d.fault? <;> simp [hfault]

/-- Errors at names and intervals are all that loading looks at, so what is left are errors at
expressions. -/
theorem fault?_eq_none_iff_errors (d : Document) :
    d.fault? = none ↔
      ∀ f ∈ d.validate.errors, ∃ i j, f.location.path = (Location.expr i j).path := by
  rw [fault?_eq_none_iff_ofGroup]
  constructor
  · intro h f hf
    have hplace {l : Location} {i : Nat} (hl : l = .groupName i ∨ l = .groupInterval i) :
        f.location ≠ l := by
      intro heq
      have hat := mem_at.2 ⟨hf, heq⟩
      have hnone := List.append_eq_nil_iff.1 (h i)
      rcases hl with rfl | rfl
      · rw [hnone.1] at hat
        contradiction
      · rw [hnone.2] at hat
        contradiction
    rcases location_of_mem_errors hf with ⟨i, hname⟩ | ⟨i, hinterval⟩ | ⟨i, j, hexpr⟩
    · exact absurd hname (hplace (.inl rfl))
    · exact absurd hinterval (hplace (.inr rfl))
    · exact ⟨i, j, by rw [hexpr]⟩
  · intro h i
    rw [Findings.ofGroup, List.append_eq_nil_iff]
    constructor
    · refine at_eq_nil fun f hf hplace => ?_
      obtain ⟨k, j, hpath⟩ := h f hf
      rw [hplace] at hpath
      cases Location.path_injective hpath
    · refine at_eq_nil fun f hf hplace => ?_
      obtain ⟨k, j, hpath⟩ := h f hf
      rw [hplace] at hpath
      cases Location.path_injective hpath

/-- A document can be scheduled exactly if validation finds no error at the name or the interval of
any group, and otherwise the first such error is the fault. So a text that is a document is loaded
exactly if all errors that are found in it are at expressions, and any other text is refused both
by loading and by validation. -/
theorem loading_agrees_with_validation [Yaml.Library] :
    (∀ d : Document, d.fault? = none ↔ ∀ i, d.validate.ofGroup i = []) ∧
    (∀ (d : Document) fault, d.fault? = some fault ↔ Blames d fault) ∧
    (∀ s d, Document.ofYaml? s = some d → (Document.load s = .ok d ↔
      ∀ f ∈ (findingsIn s).errors, ∃ i j, f.location.path = (Location.expr i j).path)) ∧
    ∀ s, Document.ofYaml? s = none →
      Document.load s = .error .notDocument ∧ (findingsIn s).isValid = false := by
  refine ⟨fault?_eq_none_iff_ofGroup, fault?_eq_some_iff_blames, ?_, ?_⟩
  · intro s d h
    have hfound : findingsIn s = d.validate := by rw [findingsIn, h]
    rw [load_eq_ok_iff h, fault?_eq_none_iff_errors, hfound]
  · intro s h
    rw [Document.load, findingsIn, h]
    exact ⟨rfl, rfl⟩

theorem loading_agrees_with_validation_on_repeated_name :
    let s := "groups:\n- name: a\n- name: a\n  interval: soon\n"
    let d : Document := ⟨[⟨"a", .empty, none, []⟩, ⟨"a", .empty, some "soon", []⟩]⟩
    Document.ofYaml? s = some d ∧ Document.load s = .error (.invalid (.duplicateName "a")) ∧
      Blames d (.duplicateName "a") ∧
      ¬ ∀ f ∈ (findingsIn s).errors, ∃ i j, f.location.path = (Location.expr i j).path := by
  intro s d
  have hread : Document.ofYaml? s = some d := by decide +kernel
  have hfault : d.fault? = some (.duplicateName "a") := by decide +kernel
  have hload : Document.load s = .error (.invalid (.duplicateName "a")) := by
    rw [Document.load, hread]
    simp only [hfault]
  refine ⟨hread, hload, (loading_agrees_with_validation.2.1 d _).1 hfault, fun hall => ?_⟩
  have haccepted := (loading_agrees_with_validation.2.2.1 s d hread).2 hall
  rw [hload] at haccepted
  contradiction

end AlertPolicy.Policy
