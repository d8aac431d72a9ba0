import Mathlib.Data.List.Basic

/-!
Texts cut at a separator. The pieces have no separator in them and give the text back when they are
put together with it, and they are the only list of texts that does.
-/

namespace AlertPolicy.Text

variable {x : Char} {cs p : List Char} {ps : List (List Char)}

theorem not_mem_of_mem_splitOn (h : p ∈ cs.splitOn x) : x ∉ p := by
  induction cs generalizing p with
  | nil =>
      rw [List.splitOn_nil, List.mem_singleton] at h
      rw [h]
      exact List.not_mem_nil
  | cons c cs ih =>
      obtain ⟨q, qs, hq⟩ := List.exists_cons_of_ne_nil (List.splitOn_ne_nil x cs)
      rw [List.splitOn_cons_eq_if_modifyHead] at h
      split at h
      · rcases List.mem_cons.1 h with rfl | h
        · exact List.not_mem_nil
        · exact ih h
      · next hc =>
        rw [hq] at h
        rcases List.mem_cons.1 h with rfl | h
        · refine List.not_mem_cons_of_ne_of_not_mem (fun hx => hc ?_) (ih ?_)
          · rw [hx, beq_self_eq_true]
          · rw [hq]
            exact List.mem_cons_self
        · refine ih ?_
          rw [hq]
          exact List.mem_cons_of_mem q h

/-- What is cut off behind the first piece stands behind separators. -/
theorem intercalate_cons (p : List Char) (ps : List (List Char)) :
    [x].intercalate (p :: ps) = p ++ ps.flatMap (x :: ·) := by
  induction ps generalizing p with
  | nil => rw [List.intercalate_singleton, List.flatMap_nil, List.append_nil]
  | cons q qs ih =>
      rw [List.intercalate_cons_cons, ih, List.flatMap_cons, List.append_assoc]
      rfl

theorem splitOn_eq_cons_iff :
    cs.splitOn x = p :: ps ↔ cs = p ++ ps.flatMap (x :: ·) ∧ ∀ q ∈ p :: ps, x ∉ q := by
  rw [← intercalate_cons]
  constructor
  · intro h
    rw [← h]
    exact ⟨(List.intercalate_splitOn x).symm, fun q => not_mem_of_mem_splitOn⟩
  · rintro ⟨rfl, h⟩
    exact List.splitOn_intercalate x h (List.cons_ne_nil p ps)

theorem length_splitOn_pos (x : Char) (cs : List Char) : 0 < (cs.splitOn x).length :=
  List.length_pos_iff.2 (List.splitOn_ne_nil x cs)

theorem one_lt_length_splitOn (h : x ∈ cs) : 1 < (cs.splitOn x).length := by
  rcases hsplit : cs.splitOn x with - | ⟨p, - | ⟨q, ps⟩⟩
  · exact absurd hsplit (List.splitOn_ne_nil x cs)
  · obtain ⟨rfl, hp⟩ := splitOn_eq_cons_iff.1 hsplit
    rw [List.flatMap_nil, List.append_nil] at h
    exact absurd h (hp p List.mem_cons_self)
  · simp

end AlertPolicy.Text
