import AlertPolicy.Policy.Validation
import AlertPolicy.Proofs.Policy.Location

/-!
Where findings are made. Each check speaks of places of its own kind only, and an expression is the
only thing that is looked at for the place of that expression; so what validation says there is what
it says of the text alone.
-/

namespace AlertPolicy.Policy

open AlertPolicy.Expr Store

/-- The findings whose path is that of the place. -/
def Findings.at (fs : Findings) (l : Location) : Findings :=
  fs.filter fun f => f.location.path == l.path

theorem mem_at {fs : Findings} {l : Location} {f : Finding} :
    f ∈ fs.at l ↔ f ∈ fs ∧ f.location = l := by
  rw [Findings.at, List.mem_filter, beq_iff_eq]
  constructor
  · intro h
    exact ⟨h.1, Location.path_injective h.2⟩
  · intro h
    exact ⟨h.1, congrArg Location.path h.2⟩

theorem at_append (fs fs' : Findings) (l : Location) : (fs ++ fs').at l = fs.at l ++ fs'.at l :=
  List.filter_append fs fs'

theorem at_eq_nil {fs : Findings} {l : Location} (h : ∀ f ∈ fs, f.location ≠ l) : fs.at l = [] := by
  rw [List.eq_nil_iff_forall_not_mem]
  intro f hf
  obtain ⟨hmem, hplace⟩ := mem_at.1 hf
  exact h f hmem hplace

theorem at_eq_self {fs : Findings} {l : Location} (h : ∀ f ∈ fs, f.location = l) :
    fs.at l = fs := by
  rw [Findings.at, List.filter_eq_self]
  intro f hf
  rw [h f hf, beq_self_eq_true]

/-! ### Places of the checks -/

theorem location_nameFindings {seen : List String} {index : Nat} {gs : List Group} {f : Finding}
    (h : f ∈ nameFindings seen index gs) : ∃ i, f.location = .groupName i := by
  induction gs generalizing seen index with
  | nil => contradiction
  | cons g gs ih =>
      rw [nameFindings] at h
      split at h
      · cases List.mem_cons.1 h with
        | inl heq => exact ⟨index, by rw [heq]⟩
        | inr h => exact ih h
      · split at h
        · cases List.mem_cons.1 h with
          | inl heq => exact ⟨index, by rw [heq]⟩
          | inr h => exact ih h
        · exact ih h

theorem location_intervalFindings {i : Nat} {g : Group} {f : Finding}
    (h : f ∈ intervalFindings i g) : f.location = .groupInterval i := by
  rw [intervalFindings] at h
  split at h
  · contradiction
  · rw [List.mem_singleton.1 h]

theorem location_recordFindings {i j : Nat} {group : String} {seen : List String} {rs : List Rule}
    {f : Finding} (h : f ∈ recordFindings i group seen j rs) : ∃ k, f.location = .record i k := by
  induction rs generalizing seen j with
  | nil => contradiction
  | cons r rs ih =>
      rw [recordFindings] at h
      split at h
      · cases List.mem_cons.1 h with
        | inl heq => exact ⟨j, by rw [heq]⟩
        | inr h => exact ih h
      · split at h
        · cases List.mem_cons.1 h with
          | inl heq => exact ⟨j, by rw [heq]⟩
          | inr h => exact ih h
        · exact ih h

theorem location_ruleFindings {i : Nat} {g : Group} {f : Finding} (h : f ∈ ruleFindings i g) :
    f.location = .groupRules i ∨ ∃ k, f.location = .record i k := by
  rw [ruleFindings] at h
  split at h
  · rw [List.mem_singleton.1 h]
    exact .inl rfl
  · exact .inr (location_recordFindings h)

theorem location_thresholdFindings {place : Location} {c : Condition} {f : Finding}
    (h : f ∈ thresholdFindings place c) : f.location = place := by
  rw [thresholdFindings] at h
  split at h
  · contradiction
  · rw [List.mem_singleton.1 h]

theorem location_leftFindings {place : Location} {c : Condition} {f : Finding}
    (h : f ∈ leftFindings place c) : f.location = place := by
  rw [leftFindings] at h
  split at h
  · rw [List.mem_singleton.1 h]
  · split at h
    · contradiction
    · rw [List.mem_singleton.1 h]

theorem location_exprFindings {place : Location} {expr : String} {f : Finding}
    (h : f ∈ exprFindings place expr) : f.location = place := by
  unfold exprFindings at h
  split at h
  · rw [List.mem_singleton.1 h]
  · cases List.mem_append.1 h with
    | inl h => exact location_thresholdFindings h
    | inr h => exact location_leftFindings h

/-! ### Places of expressions -/

/-- Only one of the indexed things has anything to say. -/
theorem flatMap_zipIdx_of_getElem? {α β : Type} {xs : List α} {x : α} {i : Nat}
    (f : α × Nat → List β) (n : Nat) (hx : xs[i]? = some x)
    (hf : ∀ y k, k ≠ n + i → f (y, k) = []) : (xs.zipIdx n).flatMap f = f (x, n + i) := by
  induction xs generalizing i n with
  | nil => contradiction
  | cons y ys ih =>
      rw [List.zipIdx_cons, List.flatMap_cons]
      cases i with
      | zero =>
          rw [List.getElem?_cons_zero] at hx
          cases hx
          have hrest : (ys.zipIdx (n + 1)).flatMap f = [] := by
            rw [List.flatMap_eq_nil_iff]
            intro p hp
            have hle := List.le_snd_of_mem_zipIdx hp
            exact hf p.1 p.2 (by omega)
          rw [hrest, List.append_nil, Nat.add_zero]
      | succ i =>
          rw [List.getElem?_cons_succ] at hx
          have hshift : n + 1 + i = n + (i + 1) := by omega
          rw [hf y n (by omega), List.nil_append, ih (n + 1) hx, hshift]
          intro z k hk
          exact hf z k (by omega)

theorem at_flatMap {α : Type} (xs : List α) (f : α → Findings) (l : Location) :
    Findings.at (xs.flatMap f) l = xs.flatMap fun x => (f x).at l :=
  List.filter_flatMap

theorem at_exprFindings (l l' : Location) (expr : String) :
    (exprFindings l' expr).at l = if l' = l then exprFindings l expr else [] := by
  split
  · next heq =>
    subst heq
    exact at_eq_self fun _ => location_exprFindings
  · next hne =>
    refine at_eq_nil fun f hf => ?_
    rw [location_exprFindings hf]
    exact hne

/-- Of what is found in a group, only its expressions count for the place of an expression. -/
theorem at_groupFindings (k i j : Nat) (g : Group) :
    (groupFindings k g).at (.expr i j) =
      g.rules.zipIdx.flatMap fun (r, m) => (exprFindings (.expr k m) r.expr).at (.expr i j) := by
  have hinterval : (intervalFindings k g).at (.expr i j) = [] := by
    refine at_eq_nil fun f hf => ?_
    rw [location_intervalFindings hf]
    exact Location.noConfusion
  have hrules : (ruleFindings k g).at (.expr i j) = [] := by
    refine at_eq_nil fun f hf => ?_
    cases location_ruleFindings hf with
    | inl hplace =>
        rw [hplace]
        exact Location.noConfusion
    | inr hrecord =>
        obtain ⟨m, hplace⟩ := hrecord
        rw [hplace]
        exact Location.noConfusion
  rw [groupFindings, at_append, at_append, hinterval, hrules, at_flatMap]
  rfl

theorem at_groupFindings_other {k i j : Nat} {g : Group} (h : k ≠ i) :
    (groupFindings k g).at (.expr i j) = [] := by
  rw [at_groupFindings, List.flatMap_eq_nil_iff]
  intro (r, m) hmem
  have hne : Location.expr k m ≠ .expr i j := by
    intro heq
    cases heq
    exact h rfl
  simp only [at_exprFindings, if_neg hne]

theorem at_groupFindings_self {i j : Nat} {g : Group} {r : Rule} (hr : g.rules[j]? = some r) :
    (groupFindings i g).at (.expr i j) = exprFindings (.expr i j) r.expr := by
  rw [at_groupFindings, flatMap_zipIdx_of_getElem? _ 0 hr]
  · simp only [Nat.zero_add]
    rw [at_exprFindings, if_pos rfl]
  · intro r' k hk
    have hne : Location.expr i k ≠ .expr i j := by
      intro heq
      cases heq
      exact hk (Nat.zero_add j).symm
    simp only [at_exprFindings, if_neg hne]

/-- At the place of an expression, validation says what it says of the text. -/
theorem at_validate {d : Document} {i j : Nat} {g : Group} {r : Rule} (hg : d.groups[i]? = some g)
    (hr : g.rules[j]? = some r) :
    d.validate.at (.expr i j) = exprFindings (.expr i j) r.expr := by
  have hnames : (nameFindings [] 0 d.groups).at (.expr i j) = [] := by
    refine at_eq_nil fun f hf => ?_
    obtain ⟨k, hplace⟩ := location_nameFindings hf
    rw [hplace]
    exact Location.noConfusion
  rw [Document.validate, at_append, hnames, List.nil_append, at_flatMap,
    flatMap_zipIdx_of_getElem? _ 0 hg]
  · simp only [Nat.zero_add]
    exact at_groupFindings_self hr
  · intro g' k hk
    exact at_groupFindings_other (by omega)

theorem at_errors (fs : Findings) (l : Location) : Findings.at fs.errors l = (fs.at l).errors := by
  rw [Findings.at, Findings.errors, Findings.at, Findings.errors, List.filter_filter,
    List.filter_filter]
  congr 1
  funext f
  exact Bool.and_comm _ _

theorem at_warnings (fs : Findings) (l : Location) :
    Findings.at fs.warnings l = (fs.at l).warnings := by
  rw [Findings.at, Findings.warnings, Findings.at, Findings.warnings, List.filter_filter,
    List.filter_filter]
  congr 1
  funext f
  exact Bool.and_comm _ _

end AlertPolicy.Policy
