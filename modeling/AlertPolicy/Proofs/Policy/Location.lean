import AlertPolicy.Policy.Finding
import AlertPolicy.Proofs.Expr.Cursor

/-!
Locations and their paths. The last character of a path tells what kind of place it is, and the
digits in front of each bracket tell the indices, so no two places share a path.
-/

namespace AlertPolicy.Policy

open AlertPolicy.Expr

namespace Location

/-- The last character of the path. -/
def lastChar : Location → Option Char
  | document => none
  | groupName _ => some 'e'
  | groupInterval _ => some 'l'
  | groupRules _ => some 's'
  | record _ _ => some 'd'
  | expr _ _ => some 'r'

theorem getLast?_path (l : Location) : l.path.toList.getLast? = l.lastChar := by
  cases l <;> simp [path, lastChar, List.getLast?_append]

theorem toDigits_injective {m n : Nat} (h : Nat.toDigits 10 m = Nat.toDigits 10 n) : m = n := by
  rw [← Nat.ofDigitChars_ten_toDigits (n := m), h, Nat.ofDigitChars_ten_toDigits]

/-- An index ends where its bracket closes. -/
theorem index_injective {m n : Nat} {rest rest' : List Char}
    (h : Nat.toDigits 10 m ++ ']' :: rest = Nat.toDigits 10 n ++ ']' :: rest') :
    m = n ∧ rest = rest' := by
  have hdigits (k : Nat) : ∀ c ∈ Nat.toDigits 10 k, c.isDigit = true := by
    intro c hc
    exact Nat.isDigit_of_mem_toDigits (by decide) (by decide) hc
  have hstops (xs : List Char) : Stops Char.isDigit (']' :: xs) := stops_cons.2 (by decide)
  have hindex := congrArg (List.takeWhile Char.isDigit) h
  have htail := congrArg (List.dropWhile Char.isDigit) h
  rw [takeWhile_append_of_stops (hdigits m) (hstops rest),
    takeWhile_append_of_stops (hdigits n) (hstops rest')] at hindex
  rw [dropWhile_append_of_stops (hdigits m) (hstops rest),
    dropWhile_append_of_stops (hdigits n) (hstops rest'), List.cons.injEq] at htail
  exact ⟨toDigits_injective hindex, htail.2⟩

theorem toList_groupPath (i : Nat) :
    (groupPath i).toList = "groups[".toList ++ (Nat.toDigits 10 i ++ [']']) := by
  simp [groupPath]

theorem toList_rulePath (i j : Nat) :
    (rulePath i j).toList =
      "groups[".toList ++ (Nat.toDigits 10 i ++
        ']' :: (".rules[".toList ++ (Nat.toDigits 10 j ++ [']']))) := by
  simp [rulePath, groupPath]

theorem groupPath_injective {i j : Nat} (h : groupPath i = groupPath j) : i = j := by
  have hchars := congrArg String.toList h
  rw [toList_groupPath, toList_groupPath, List.append_cancel_left_eq] at hchars
  exact (index_injective hchars).1

theorem rulePath_injective {i j k l : Nat} (h : rulePath i j = rulePath k l) : i = k ∧ j = l := by
  have hchars := congrArg String.toList h
  rw [toList_rulePath, toList_rulePath, List.append_cancel_left_eq] at hchars
  obtain ⟨hgroup, htail⟩ := index_injective hchars
  rw [List.append_cancel_left_eq] at htail
  exact ⟨hgroup, (index_injective htail).1⟩

/-- No two places have the same path. -/
theorem path_injective {l m : Location} (h : l.path = m.path) : l = m := by
  have hlast : l.lastChar = m.lastChar := by rw [← getLast?_path, h, getLast?_path]
  cases l <;> cases m <;> simp [lastChar] at hlast
  case document.document => rfl
  case groupName.groupName i j =>
    rw [path, path, String.append_left_inj] at h
    rw [groupPath_injective h]
  case groupInterval.groupInterval i j =>
    rw [path, path, String.append_left_inj] at h
    rw [groupPath_injective h]
  case groupRules.groupRules i j =>
    rw [path, path, String.append_left_inj] at h
    rw [groupPath_injective h]
  case record.record i j k l =>
    rw [path, path, String.append_left_inj] at h
    obtain ⟨rfl, rfl⟩ := rulePath_injective h
    rfl
  case expr.expr i j k l =>
    rw [path, path, String.append_left_inj] at h
    obtain ⟨rfl, rfl⟩ := rulePath_injective h
    rfl

end Location

end AlertPolicy.Policy
