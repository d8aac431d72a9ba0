import AlertPolicy.Proofs.Store.Fetch
import AlertPolicy.Settings
import Mathlib.Algebra.Order.Ring.Int

/-!
The scores that a fetch asks for. A window of less than `2 ^ 63` seconds begins exactly that many
seconds before now, and of two such windows the longer shows all that the shorter does. Any number
of 64 bits can be set as a window though, and one that goes back beyond the least score begins after
now, so that nothing is shown.
-/

namespace AlertPolicy.Store

open AlertPolicy.Number Sample

/-! ### Arithmetic of 64 bits -/

section Arithmetic

variable {window shorter : UInt64} {now : Int64}

theorem toInt_toInt64 (window : UInt64) :
    window.toInt64.toInt = (window.toNat : Int).bmod (2 ^ 64) := by
  rw [← Int64.toInt_toBitVec, UInt64.toBitVec_toInt64, BitVec.toInt_eq_toNat_bmod,
    UInt64.toNat_toBitVec]

theorem toInt_toInt64_eq_iff : window.toInt64.toInt = window.toNat ↔ window.toNat < 2 ^ 63 := by
  constructor
  · intro h
    have hlt := window.toInt64.toInt_lt
    omega
  · intro h
    rw [toInt_toInt64]
    apply Int.bmod_eq_of_le <;> omega

/-- The wrap of the window and that of the difference come to one. -/
theorem toInt_windowStart (window : UInt64) (now : Int64) :
    (windowStart window now).toInt = (now.toInt - window.toNat).bmod (2 ^ 64) := by
  rw [windowStart, Int64.toInt_sub, toInt_toInt64, Int.sub_bmod_bmod]

theorem toInt_windowStart_of_lt (hnow : 0 ≤ now.toInt) (h : window.toNat < 2 ^ 63) :
    (windowStart window now).toInt = now.toInt - window.toNat := by
  have hlt := now.toInt_lt
  rw [toInt_windowStart]
  apply Int.bmod_eq_of_le <;> omega

/-- A window that goes back beyond the least score begins after now. -/
theorem lt_windowStart (h : 2 ^ 63 + now.toInt < window.toNat) : now < windowStart window now := by
  have hlt := window.toNat_lt
  have hnow := now.le_toInt
  have hwrap : (windowStart window now).toInt = now.toInt - window.toNat + 2 ^ 64 := by
    rw [toInt_windowStart, ← Int.add_bmod_right]
    apply Int.bmod_eq_of_le <;> omega
  rw [Int64.lt_iff_toInt_lt, hwrap]
  omega

theorem windowStart_le (hnow : 0 ≤ now.toInt) (h : window.toNat < 2 ^ 63) :
    windowStart window now ≤ now := by
  rw [Int64.le_iff_toInt_le, toInt_windowStart_of_lt hnow h]
  omega

theorem windowStart_anti (hnow : 0 ≤ now.toInt) (h : window.toNat < 2 ^ 63)
    (hle : shorter ≤ window) : windowStart window now ≤ windowStart shorter now := by
  have hle' := UInt64.le_iff_toNat_le.1 hle
  rw [Int64.le_iff_toInt_le, toInt_windowStart_of_lt hnow h,
    toInt_windowStart_of_lt hnow (by omega)]
  omega

end Arithmetic

/-! ### Windows that can be set -/

theorem ofDigits_toDigits (n : Nat) : ofDigits (Nat.toDigits 10 n) = n :=
  Nat.ofDigitChars_ten_toDigits

theorem readNatural_repr {limit n : Nat} (h : n ≤ limit) : readNatural limit n.repr = some n := by
  have hdigit : ∀ c ∈ Nat.toDigits 10 n, c.isDigit = true := by
    intro c hc
    exact Nat.isDigit_of_mem_toDigits (by decide) (by decide) hc
  have hdigits := isDigits_of_all Nat.toDigits_ne_nil hdigit
  rw [readNatural, Nat.repr_eq_ofList_toDigits, String.toList_ofList]
  split
  · next cs heq =>
    rw [heq, List.forall_mem_cons] at hdigit
    exact absurd hdigit.1 (by decide)
  · simp [hdigits, ofDigits_toDigits, h]

theorem word64_repr (absent window : UInt64) :
    Settings.word64 absent (some window.toNat.repr) = window := by
  have hlt := window.toNat_lt
  rw [Settings.word64, Option.bind_some, readNatural_repr (Nat.le_sub_one_of_lt hlt)]
  simp

theorem value?_set (env : Environment) (name : String) {value : String} (h : value ≠ "") :
    (env.set name value).value? name = some value := by
  have htext : (env.set name value).text? name = some value := by
    rw [Environment.text?, Environment.set, if_pos rfl, Option.bind_some]
    exact fromUTF8?_eq_some.2 rfl
  rw [Environment.value?, htext, Option.filter_some_pos]
  simpa using h

/-- The environment that says how long the window is, and nothing else. -/
def environmentOf (window : UInt64) : Environment :=
  Environment.empty.set SettingKey.window.name window.toNat.repr

/-- Every window can be set. -/
theorem window_environmentOf (window : UInt64) :
    (Settings.forProfile (environmentOf window) "").server.window = window := by
  have hvalue : SettingKey.lookup? (environmentOf window) (Text.upper "") .window =
      some window.toNat.repr := value?_set _ _ Nat.repr_ne_empty
  simp only [Settings.forProfile, Settings.ofValues, hvalue, word64_repr]

/-! ### What a window shows -/

/-- What a server keeps: the members of each key with their scores. A bound of a range is read as a
score, perhaps not exactly. -/
structure Archive (Score : Type) [LinearOrder Score] where
  keys : String → Option (List ByteArray)
  kept : String → Option (List (Score × ByteArray))
  bound : Int64 → Score
  bound_mono {a b : Int64} : a ≤ b → bound a ≤ bound b

/-- The same label with some of the values, in their order. -/
structure PartOf (part whole : Series) : Prop where
  label : part.label = whole.label
  values : part.values.Sublist whole.values

/-- The same keys with some of the members of each. -/
structure Replies.Within (r whole : Replies) : Prop where
  keys : r.keys = whole.keys
  members (key : String) : Option.Rel List.Sublist (r.members key) (whole.members key)

namespace Archive

variable {Score : Type} [LinearOrder Score]

/-- The members whose scores are in the range. -/
def between (a : Archive Score) (least greatest : Int64) (ms : List (Score × ByteArray)) :
    List ByteArray :=
  (ms.filter fun m => decide (a.bound least ≤ m.1 ∧ m.1 ≤ a.bound greatest)).map Prod.snd

/-- What is answered to whoever asks for the scores of a range. -/
def answers (a : Archive Score) (least greatest : Int64) : Replies where
  keys := a.keys
  members key := (a.kept key).map (a.between least greatest)

/-- A fetch from the server at a time. -/
def fetch (a : Archive Score) (s : ServerSettings) (now : Int64) (v : String) :
    Exchange (List Series) :=
  (a.answers (windowStart s.window now) now).fetch s now v

theorem answers_within {least least' : Int64} (a : Archive Score) (h : least' ≤ least)
    (greatest : Int64) : (a.answers least greatest).Within (a.answers least' greatest) := by
  refine ⟨rfl, fun key => ?_⟩
  simp only [answers]
  cases a.kept key with
  | none => exact .none
  | some ms =>
      refine .some (List.Sublist.map Prod.snd (List.monotone_filter_right ms ?_))
      intro m hm
      simp only [decide_eq_true_eq] at hm ⊢
      exact ⟨le_trans (a.bound_mono h) hm.1, hm.2⟩

end Archive

namespace Replies

variable {r whole : Replies} {n : Nat} {now : Int64} {v : String}
  {keys : List String} {longer : List Series}

/-- Some of the octets that are text are text. -/
theorem exists_tells_of_sublist {reply reply' : Option (List ByteArray)} {ts : List String}
    (h : Option.Rel List.Sublist reply reply') (ht : Tells reply' ts) :
    ∃ part, Tells reply part ∧ part.Sublist ts := by
  cases h with
  | none => contradiction
  | some h =>
      cases ht
      obtain ⟨part, hpart, heq⟩ := List.sublist_map_iff.1 h
      exact ⟨part, congrArg some heq, hpart⟩

/-- If the whole is read then so is a part, and it is part of the whole. -/
theorem readKeys_within {least greatest least' greatest' : Int64} (h : r.Within whole)
    (hok : (whole.readKeys n least' greatest' keys).result = .ok longer) :
    ∃ shorter, (r.readKeys n least greatest keys).result = .ok shorter ∧
      List.Forall₂ PartOf shorter longer := by
  induction keys generalizing longer with
  | nil =>
      cases hok
      exact ⟨[], rfl, .nil⟩
  | cons key keys ih =>
      cases hlabel : labelOfKey? key with
      | none =>
          rw [(readKeys_unlabelled hlabel n).1] at hok ⊢
          exact ih hok
      | some label =>
          by_cases hspoiled : Spoiled (whole.members key)
          · rw [readKeys_spoiled hlabel hspoiled] at hok
            contradiction
          · obtain ⟨ts, ht⟩ := exists_tells_iff.2 hspoiled
            obtain ⟨part, hp, hsub⟩ := exists_tells_of_sublist (h.members key) ht
            rw [(readKeys_told hlabel ht n).1] at hok
            rw [(readKeys_told hlabel hp n).1]
            cases hrest : (whole.readKeys n least' greatest' keys).result with
            | error e =>
                rw [hrest] at hok
                contradiction
            | ok rest =>
                obtain ⟨shorter, hshorter, hparts⟩ := ih hrest
                rw [hrest] at hok
                cases hok
                let first : Series := ⟨label, part.filterMap (valueOfMember? · n)⟩
                have hfirst : PartOf first ⟨label, ts.filterMap (valueOfMember? · n)⟩ :=
                  ⟨rfl, hsub.filterMap _⟩
                exact ⟨first :: shorter, by rw [hshorter]; rfl, .cons hfirst hparts⟩

theorem fetch_within {s s' : ServerSettings} (h : r.Within whole) (hlayout : s.layout = s'.layout)
    (hok : (whole.fetch s' now v).result = .ok longer) :
    ∃ shorter, (r.fetch s now v).result = .ok shorter ∧ List.Forall₂ PartOf shorter longer := by
  cases href : VariableRef.parse v with
  | error e =>
      rw [fetch_of_parse_error href] at hok
      contradiction
  | ok ref =>
      by_cases hspoiled : Spoiled (whole.keys (s'.layout.pattern ref))
      · rw [fetch_spoiled href hspoiled] at hok
        contradiction
      · obtain ⟨keys, ht⟩ := exists_tells_iff.2 hspoiled
        have hr : Tells (r.keys (s.layout.pattern ref)) keys := by rwa [h.keys, hlayout]
        rw [fetch_told href ht] at hok
        rw [fetch_told href hr]
        exact readKeys_within h hok

end Replies

/-- A window of less than `2 ^ 63` seconds is the same number with a sign, the fetch asks for the
scores from exactly that long before now up to now, and a shorter window shows part of what it
shows. A window that goes back beyond the least score begins after now. -/
theorem window_goes_back_exactly (env : Environment) (profile : String) {now : Int64}
    (hnow : 0 ≤ now) :
    let s := (Settings.forProfile env profile).server
    (s.window.toInt64.toInt = s.window.toNat ↔ s.window.toNat < 2 ^ 63) ∧
    (s.window.toNat < 2 ^ 63 →
      (∀ (r : Replies) (v key : String) (least greatest : Int64),
        .rangeByScore key least greatest ∈ (r.fetch s now v).commands →
          least.toInt = now.toInt - s.window.toNat ∧ greatest = now ∧ least ≤ greatest) ∧
      ∀ (env' : Environment) (profile' : String),
        let s' := (Settings.forProfile env' profile').server
        s'.window ≤ s.window →
        ∀ (Score : Type) [LinearOrder Score] (a : Archive Score),
          (a.answers (windowStart s'.window now) now).Within
            (a.answers (windowStart s.window now) now) ∧
          (s'.layout = s.layout → ∀ (v : String) (longer : List Series),
            (a.fetch s now v).result = .ok longer →
            ∃ shorter, (a.fetch s' now v).result = .ok shorter ∧
              List.Forall₂ PartOf shorter longer)) ∧
    (2 ^ 63 + now.toInt < s.window.toNat →
      ∀ (r : Replies) (v key : String) (least greatest : Int64),
        .rangeByScore key least greatest ∈ (r.fetch s now v).commands → greatest < least) := by
  intro s
  have hpos : 0 ≤ now.toInt := Int64.le_iff_toInt_le.1 hnow
  refine ⟨toInt_toInt64_eq_iff, fun hwindow => ⟨?_, ?_⟩, ?_⟩
  · intro r v key least greatest hc
    obtain ⟨-, rfl, rfl⟩ := Replies.scores_of_mem_commands hc
    exact ⟨toInt_windowStart_of_lt hpos hwindow, rfl, windowStart_le hpos hwindow⟩
  · intro env' profile' s' hle Score _ a
    have hwithin := a.answers_within (windowStart_anti hpos hwindow hle) now
    exact ⟨hwithin, fun hlayout v longer hok => Replies.fetch_within hwithin hlayout hok⟩
  · intro hwindow r v key least greatest hc
    obtain ⟨-, rfl, rfl⟩ := Replies.scores_of_mem_commands hc
    exact lt_windowStart hwindow

/-- The windows of a minute and of an hour. -/
theorem window_goes_back_exactly_for_an_hour :
    let s := (Settings.forProfile (environmentOf 3600) "").server
    let s' := (Settings.forProfile (environmentOf 60) "").server
    (0 : Int64) ≤ 100000 ∧ s.window.toNat < 2 ^ 63 ∧ s'.window ≤ s.window ∧
      (∀ (r : Replies) (v key : String) (least greatest : Int64),
        .rangeByScore key least greatest ∈ (r.fetch s 100000 v).commands →
          least.toInt = 96400 ∧ greatest = 100000) ∧
      ∀ (Score : Type) [LinearOrder Score] (a : Archive Score),
        (a.answers (windowStart s'.window 100000) 100000).Within
          (a.answers (windowStart s.window 100000) 100000) := by
  intro s s'
  have hs : s.window = 3600 := window_environmentOf 3600
  have hs' : s'.window = 60 := window_environmentOf 60
  have hlt : s.window.toNat < 2 ^ 63 := by
    rw [hs]
    decide
  have hle : s'.window ≤ s.window := by
    rw [hs, hs']
    decide
  obtain ⟨-, hexact, -⟩ := window_goes_back_exactly (environmentOf 3600) ""
    (show (0 : Int64) ≤ 100000 by decide)
  obtain ⟨hscores, hparts⟩ := hexact hlt
  refine ⟨by decide, hlt, hle, ?_, ?_⟩
  · intro r v key least greatest hc
    obtain ⟨hleast, hgreatest, -⟩ := hscores r v key least greatest hc
    rw [hs] at hleast
    exact ⟨hleast, hgreatest⟩
  · intro Score _ a
    exact (hparts (environmentOf 60) "" hle Score a).1

/-- A server with one key, and one member of score 1000 under it. -/
def oneSample : Archive Int where
  keys _ := some ["collectd/a/virt/if_octets-t".toUTF8]
  kept _ := some [(1000, "1000:5:6".toUTF8)]
  bound := Int64.toInt
  bound_mono h := Int64.le_iff_toInt_le.1 h

/-- The longest window that can be set does not begin in the past, and shows nothing of what a
window of a minute shows. -/
theorem longest_window_begins_after_now :
    let s := (Settings.forProfile (environmentOf 18446744073709551615) "").server
    let key := "collectd/a/virt/if_octets-t"
    s.window.toNat = 2 ^ 64 - 1 ∧ s.window.toInt64.toInt = -1 ∧
      ServerCommand.rangeByScore key 1001 1000 ∈ (oneSample.fetch s 1000 "vm.tx").commands ∧
      (1001 : Int64).toInt ≠ (1000 : Int64).toInt - s.window.toNat ∧ ¬ (1001 : Int64) ≤ 1000 ∧
      (oneSample.answers (windowStart 60 1000) 1000).members key = some ["1000:5:6".toUTF8] ∧
      (oneSample.answers (windowStart s.window 1000) 1000).members key = some [] := by
  intro s key
  have hs : s.window = 18446744073709551615 := window_environmentOf 18446744073709551615
  have hstart : windowStart s.window 1000 = 1001 := by
    rw [hs]
    decide
  have hnone (k : String) : (oneSample.answers 1001 1000).members k = some [] := by
    have hempty : oneSample.between 1001 1000 [(1000, "1000:5:6".toUTF8)] = [] := by decide
    exact congrArg some hempty
  have hparse : VariableRef.parse "vm.tx" = .ok ⟨.everything, .sent⟩ := by decide +kernel
  have hlabel : (labelOfKey? key).isSome = true := by decide +kernel
  have hkeys (pattern : String) : Tells ((oneSample.answers 1001 1000).keys pattern) [key] := rfl
  have hread : .rangeByScore key (windowStart s.window 1000) 1000 ∈
      ((oneSample.answers 1001 1000).fetch s 1000 "vm.tx").commands := by
    refine Replies.mem_commands_of_not_fails hparse (fun hf => ?_) (hkeys _)
      List.mem_cons_self hlabel
    cases hf with
    | keys h => exact exists_tells_iff.1 ⟨[key], hkeys _⟩ h
    | members _ _ _ h => exact exists_tells_iff.1 ⟨[], hnone _⟩ h
  rw [hstart] at hread
  rw [Archive.fetch, hstart, hs]
  exact ⟨by decide, by decide, hread, by decide, by decide, by decide, hnone key⟩

end AlertPolicy.Store
