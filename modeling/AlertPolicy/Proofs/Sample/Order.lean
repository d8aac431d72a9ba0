import AlertPolicy.Sample.Label
import Mathlib.Algebra.Ring.Nat
import Mathlib.Data.List.Basic

/-!
The order of labels. Texts are compared character by character, which is the same as comparing their
bytes: UTF-8 writes a greater character with a greater first byte, or with the same bytes up to a
greater one. Labels follow their resources, and of one resource the label without an interface comes
first.
-/

namespace AlertPolicy.Text

/-- The bytes of a text in UTF-8. -/
def bytes (s : String) : List UInt8 := s.toUTF8.data.toList

theorem bytes_eq (s : String) : bytes s = s.toList.flatMap String.utf8EncodeChar := by
  rw [bytes, String.toUTF8_eq_toByteArray, ← String.utf8Encode_toList, List.utf8Encode,
    List.toList_data_toByteArray]

/-! ### Characters -/

/-- The last `k` digits of a number to the base 64, as the bytes behind the first one hold them. -/
def continuation (n : Nat) : Nat → List UInt8
  | 0 => []
  | k + 1 => .ofNat (n / 64 ^ k % 64 + 0x80) :: continuation n k

/-- How the character with the code point `n` is written. -/
inductive Encoding (n : Nat) : List UInt8 → Prop where
  | one (h : n ≤ 0x7f) : Encoding n (.ofNat (n / 64 ^ 0) :: continuation n 0)
  | two (h : 0x7f < n) (h' : n ≤ 0x7ff) :
      Encoding n (.ofNat (n / 64 ^ 1 + 0xc0) :: continuation n 1)
  | three (h : 0x7ff < n) (h' : n ≤ 0xffff) :
      Encoding n (.ofNat (n / 64 ^ 2 + 0xe0) :: continuation n 2)
  | four (h : 0xffff < n) (h' : n < 0x110000) :
      Encoding n (.ofNat (n / 64 ^ 3 + 0xf0) :: continuation n 3)

theorem toNat_lt (c : Char) : c.toNat < 0x110000 := by
  have hvalid := c.valid
  simp only [UInt32.isValidChar, Nat.isValidChar] at hvalid
  change c.val.toNat < _
  omega

theorem encoding (c : Char) : Encoding c.toNat (String.utf8EncodeChar c) := by
  have hc := toNat_lt c
  have hval : c.val.toNat = c.toNat := rfl
  rw [String.utf8EncodeChar, hval]
  by_cases h₁ : c.toNat ≤ 0x7f
  · rw [if_pos h₁]
    simpa [continuation] using Encoding.one h₁
  · by_cases h₂ : c.toNat ≤ 0x7ff
    · rw [if_neg h₁, if_pos h₂, Nat.mod_eq_of_lt (a := c.toNat / 64) (by omega)]
      simpa [continuation] using Encoding.two (by omega) h₂
    · by_cases h₃ : c.toNat ≤ 0xffff
      · rw [if_neg h₁, if_neg h₂, if_pos h₃, Nat.mod_eq_of_lt (a := c.toNat / 4096) (by omega)]
        simpa [continuation] using Encoding.three (by omega) h₃
      · rw [if_neg h₁, if_neg h₂, if_neg h₃, Nat.mod_eq_of_lt (a := c.toNat / 262144) (by omega)]
        simpa [continuation] using Encoding.four (by omega) hc

variable {m n : Nat} {as bs : List UInt8}

theorem ofNat_cons_lt (hn : n < 256) (h : m < n ∨ m = n ∧ as < bs) :
    UInt8.ofNat m :: as < UInt8.ofNat n :: bs := by
  rw [List.cons_lt_cons_iff]
  rcases h with h | ⟨rfl, h⟩
  · refine .inl ?_
    rw [UInt8.lt_iff_toNat_lt, UInt8.toNat_ofNat', UInt8.toNat_ofNat']
    omega
  · exact .inr ⟨rfl, h⟩

/-- Of two numbers with the same leading digits, the first digit that differs decides. -/
theorem continuation_lt (k : Nat) (h : m < n) (hsame : m / 64 ^ k = n / 64 ^ k)
    (xs ys : List UInt8) : continuation m k ++ xs < continuation n k ++ ys := by
  induction k with
  | zero =>
      simp only [Nat.pow_zero, Nat.div_one] at hsame
      omega
  | succ k ih =>
      have hdigit : n / 64 ^ k % 64 + 0x80 < 256 := by omega
      have hle : m / 64 ^ k ≤ n / 64 ^ k := Nat.div_le_div_right (Nat.le_of_lt h)
      rw [Nat.pow_succ, ← Nat.div_div_eq_div_mul, ← Nat.div_div_eq_div_mul] at hsame
      refine ofNat_cons_lt hdigit ?_
      by_cases heq : m / 64 ^ k = n / 64 ^ k
      · exact .inr ⟨by rw [heq], ih heq⟩
      · exact .inl (by omega)

theorem sameSize_lt (k first : Nat) (hn : n / 64 ^ k + first < 256) (h : m < n)
    (xs ys : List UInt8) : UInt8.ofNat (m / 64 ^ k + first) :: (continuation m k ++ xs) <
      UInt8.ofNat (n / 64 ^ k + first) :: (continuation n k ++ ys) := by
  have hle : m / 64 ^ k ≤ n / 64 ^ k := Nat.div_le_div_right (Nat.le_of_lt h)
  refine ofNat_cons_lt hn ?_
  by_cases heq : m / 64 ^ k = n / 64 ^ k
  · exact .inr ⟨by rw [heq], continuation_lt k h heq xs ys⟩
  · exact .inl (by omega)

/-- A character that needs more bytes has the greater first byte. -/
theorem Encoding.lt (ha : Encoding m as) (hb : Encoding n bs) (h : m < n) (xs ys : List UInt8) :
    as ++ xs < bs ++ ys := by
  cases ha with
  | one hm =>
      cases hb with
      | one hn => exact sameSize_lt 0 0 (by omega) h xs ys
      | two hn hn' => exact ofNat_cons_lt (by omega) (.inl (by omega))
      | three hn hn' => exact ofNat_cons_lt (by omega) (.inl (by omega))
      | four hn hn' => exact ofNat_cons_lt (by omega) (.inl (by omega))
  | two hm hm' =>
      cases hb with
      | one hn => omega
      | two hn hn' => exact sameSize_lt _ _ (by omega) h xs ys
      | three hn hn' => exact ofNat_cons_lt (by omega) (.inl (by omega))
      | four hn hn' => exact ofNat_cons_lt (by omega) (.inl (by omega))
  | three hm hm' =>
      cases hb with
      | one hn => omega
      | two hn hn' => omega
      | three hn hn' => exact sameSize_lt _ _ (by omega) h xs ys
      | four hn hn' => exact ofNat_cons_lt (by omega) (.inl (by omega))
  | four hm hm' =>
      cases hb with
      | one hn => omega
      | two hn hn' => omega
      | three hn hn' => omega
      | four hn hn' => exact sameSize_lt _ _ (by omega) h xs ys

/-! ### Texts -/

theorem flatMap_utf8EncodeChar_lt {cs ds : List Char} (h : cs < ds) :
    cs.flatMap String.utf8EncodeChar < ds.flatMap String.utf8EncodeChar := by
  induction h with
  | @nil d ds =>
      obtain ⟨b, bs, hb⟩ := List.exists_cons_of_ne_nil (String.utf8EncodeChar_ne_nil (c := d))
      rw [List.flatMap_cons, hb]
      exact List.nil_lt_cons _ _
  | @rel c cs d ds hlt =>
      rw [List.flatMap_cons, List.flatMap_cons]
      exact (encoding c).lt (encoding d) hlt _ _
  | cons _ ih =>
      rw [List.flatMap_cons, List.flatMap_cons]
      exact List.append_left_lt ih

/-- Texts are in the order of their bytes. -/
theorem lt_iff_bytes {s t : String} : s < t ↔ bytes s < bytes t := by
  have hbytes {a b : String} (h : a < b) : bytes a < bytes b := by
    rw [bytes_eq, bytes_eq]
    exact flatMap_utf8EncodeChar_lt h
  refine ⟨hbytes, fun h => ?_⟩
  have hge : ¬ t < s := fun hgt => List.lt_asymm (hbytes hgt) h
  have hne : s ≠ t := by
    rintro rfl
    exact List.lt_irrefl _ h
  exact Decidable.byContradiction fun hlt =>
    hne (String.le_antisymm (String.not_lt.1 hge) (String.not_lt.1 hlt))

theorem le_iff_bytes {s t : String} : s ≤ t ↔ bytes s ≤ bytes t := by
  rw [← String.not_lt, lt_iff_bytes, List.not_lt]

theorem compare_eq_lt_iff {s t : String} : compare s t = .lt ↔ bytes s < bytes t := by
  rw [← lt_iff_bytes]
  exact compareOfLessAndEq_eq_lt

/-- A text that is missing comes before any other. -/
theorem compare_option_eq_lt_iff {s t : Option String} :
    compare s t = .lt ↔
      (s = none ∧ t ≠ none) ∨ ∃ a b, s = some a ∧ t = some b ∧ bytes a < bytes b := by
  cases s with
  | none => cases t <;> simp [compare]
  | some a =>
      cases t with
      | none => simp [compare]
      | some b =>
          change compare a b = .lt ↔ _
          simp [compare_eq_lt_iff]

end AlertPolicy.Text

namespace AlertPolicy.Sample.Label

open Text

/-- The first label is listed before the second. -/
def Before (l m : Label) : Prop :=
  bytes l.resource < bytes m.resource ∨
    l.resource = m.resource ∧
      ((l.interface = none ∧ m.interface ≠ none) ∨
        ∃ i j, l.interface = some i ∧ m.interface = some j ∧ bytes i < bytes j)

theorem compare_eq_lt {l m : Label} : compare l m = .lt ↔ l.Before m := by
  have hresource : compareOn Label.resource l m = .eq ↔ l.resource = m.resource := by
    rw [compareOn]
    exact Std.LawfulEqCmp.compare_eq_iff_eq
  change (compareOn Label.resource l m).then (compareOn Label.interface l m) = .lt ↔ _
  rw [Ordering.then_eq_lt, hresource, compareOn, compareOn, compare_eq_lt_iff,
    compare_option_eq_lt_iff]
  rfl

end AlertPolicy.Sample.Label
