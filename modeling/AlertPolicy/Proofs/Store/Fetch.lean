import AlertPolicy.Proofs.Sample.Order
import AlertPolicy.Proofs.Store.Reference
import AlertPolicy.Store.Server
import Mathlib.Data.List.Forall2
import Mathlib.Data.List.Perm.Basic

/-!
What a fetch makes of the replies of a sample server. Either all that it needs is told and is text,
and it has one series for each key with a label, in the order of the bytes of the keys, or it fails
as a whole. Members that cannot be read are left out of their series and keys without a label out of
the fetch, and nothing else is.
-/

namespace AlertPolicy.Store

open AlertPolicy.Number Sample

/-! ### Members -/

/-- The field of a member at a place, the first place being zero. -/
inductive FieldAt : List Char → Nat → List Char → Prop where
  | last {field : List Char} (h : ':' ∉ field) : FieldAt field 0 field
  | first {field rest : List Char} (h : ':' ∉ field) : FieldAt (field ++ ':' :: rest) 0 field
  | later {passed rest field : List Char} {n : Nat} (h : ':' ∉ passed)
      (hat : FieldAt rest n field) : FieldAt (passed ++ ':' :: rest) (n + 1) field

/-- The place of the field in a member, which begins with a time stamp. -/
def Field.place : Field → Nat
  | received => 1
  | sent => 2

/-- The field of the member is there and is a number, once the blanks around it are cut. -/
def Reads (field : Field) (member : String) (x : Binary64) : Prop :=
  ∃ part, FieldAt member.toList field.place part ∧
    Binary64.ofText? (Text.trim (String.ofList part)) = some x

/-- The values of the members that can be read, in their order. -/
inductive Collected (field : Field) : List String → List Binary64 → Prop where
  | nil : Collected field [] []
  | read {m : String} {x : Binary64} {ms : List String} {xs : List Binary64}
      (h : Reads field m x) (rest : Collected field ms xs) : Collected field (m :: ms) (x :: xs)
  | skipped {m : String} {ms : List String} {xs : List Binary64} (h : ∀ x, ¬ Reads field m x)
      (rest : Collected field ms xs) : Collected field (m :: ms) xs

variable {field : Field} {m key : String} {cs part : List Char} {n : Nat} {x : Binary64}

theorem FieldAt.getElem?_splitOn (h : FieldAt cs n part) : (cs.splitOn ':')[n]? = some part := by
  induction h with
  | last h => rw [List.splitOn_eq_singleton h, List.getElem?_cons_zero]
  | first h => rw [List.splitOn_append_cons_self_of_not_mem h, List.getElem?_cons_zero]
  | later h _ ih => rw [List.splitOn_append_cons_self_of_not_mem h, List.getElem?_cons_succ, ih]

theorem fieldAt_of_splitOn {p : List Char} {ps : List (List Char)} (h : cs.splitOn ':' = p :: ps)
    (hn : (p :: ps)[n]? = some part) : FieldAt cs n part := by
  induction ps generalizing cs p n with
  | nil =>
      obtain ⟨rfl, hp⟩ := Text.splitOn_eq_cons_iff.1 h
      cases n with
      | zero =>
          cases hn
          simpa using FieldAt.last (hp part List.mem_cons_self)
      | succ n => contradiction
  | cons q qs ih =>
      obtain ⟨rfl, hp⟩ := Text.splitOn_eq_cons_iff.1 h
      rw [List.forall_mem_cons] at hp
      cases n with
      | zero =>
          cases hn
          exact .first hp.1
      | succ n => exact .later hp.1 (ih (Text.splitOn_eq_cons_iff.2 ⟨rfl, hp.2⟩) hn)

theorem getElem?_splitOn_eq_some : (cs.splitOn ':')[n]? = some part ↔ FieldAt cs n part := by
  refine ⟨fun h => ?_, FieldAt.getElem?_splitOn⟩
  obtain ⟨p, ps, hsplit⟩ := List.exists_cons_of_ne_nil (List.splitOn_ne_nil ':' cs)
  rw [hsplit] at h
  exact fieldAt_of_splitOn hsplit h

theorem valueOfMember?_eq_some : valueOfMember? m field.position = some x ↔ Reads field m x := by
  have hplace : field.position + 1 = field.place := by cases field <;> rfl
  rw [valueOfMember?, Option.bind_eq_some_iff, hplace]
  simp only [getElem?_splitOn_eq_some, Reads]

theorem collected_filterMap (field : Field) (ms : List String) :
    Collected field ms (ms.filterMap (valueOfMember? · field.position)) := by
  induction ms with
  | nil => exact .nil
  | cons m ms ih =>
      rw [List.filterMap_cons]
      cases h : valueOfMember? m field.position with
      | some x => exact .read (valueOfMember?_eq_some.1 h) ih
      | none =>
          refine .skipped (fun x hx => ?_) ih
          rw [valueOfMember?_eq_some.2 hx] at h
          contradiction

/-! ### Replies -/

/-- The reply is these texts. -/
def Tells (reply : Option (List ByteArray)) (ts : List String) : Prop :=
  reply = some (ts.map String.toUTF8)

/-- The reply is an error, or something in it is not UTF-8. -/
def Spoiled (reply : Option (List ByteArray)) : Prop :=
  ∀ octets, reply = some octets → ∃ o ∈ octets, ¬ o.IsValidUTF8

variable {reply : Option (List ByteArray)} {octets : List ByteArray} {ts : List String}

theorem fromUTF8?_eq_some {o : ByteArray} {t : String} :
    String.fromUTF8? o = some t ↔ o = t.toUTF8 := by
  unfold String.fromUTF8?
  split
  · next h =>
    rw [Option.some.injEq]
    constructor
    · rintro rfl
      rfl
    · rintro rfl
      rfl
  · next h =>
    simp only [reduceCtorEq, false_iff]
    rintro rfl
    exact h t.isValidUTF8

theorem fromUTF8?_eq_none {o : ByteArray} : String.fromUTF8? o = none ↔ ¬ o.IsValidUTF8 := by
  simp [String.fromUTF8?]

theorem texts?_cons (o : ByteArray) (os : List ByteArray) :
    texts? (o :: os) =
      (String.fromUTF8? o).bind fun t => (texts? os).bind fun ts => some (t :: ts) := by
  simp [texts?, List.mapM_cons]

theorem texts?_eq_some : texts? octets = some ts ↔ octets = ts.map String.toUTF8 := by
  induction octets generalizing ts with
  | nil => cases ts <;> simp [texts?]
  | cons o os ih =>
      simp only [texts?_cons, Option.bind_eq_some_iff, fromUTF8?_eq_some, ih]
      cases ts <;> simp

theorem texts?_eq_none : texts? octets = none ↔ ∃ o ∈ octets, ¬ o.IsValidUTF8 := by
  induction octets with
  | nil => simp [texts?]
  | cons o os ih =>
      simp only [List.mem_cons, exists_eq_or_imp, ← ih]
      rw [texts?_cons, ← fromUTF8?_eq_none]
      cases String.fromUTF8? o <;> cases texts? os <;> simp

theorem bind_texts?_eq_some : reply.bind texts? = some ts ↔ Tells reply ts := by
  simp only [Option.bind_eq_some_iff, texts?_eq_some, Tells, exists_eq_right]

theorem bind_texts?_eq_none : reply.bind texts? = none ↔ Spoiled reply := by
  simp only [Option.bind_eq_none_iff, texts?_eq_none, Spoiled]

theorem exists_tells_iff : (∃ ts, Tells reply ts) ↔ ¬ Spoiled reply := by
  simp only [← bind_texts?_eq_some, ← bind_texts?_eq_none, Option.ne_none_iff_exists']

theorem toUTF8_injective : Function.Injective String.toUTF8 := by
  intro s t h
  have hs : String.fromUTF8? s.toUTF8 = some s := fromUTF8?_eq_some.2 rfl
  rw [fromUTF8?_eq_some.2 h] at hs
  exact (Option.some.inj hs).symm

theorem spoiled_of_perm {reply' : Option (List ByteArray)} (h : Option.Rel List.Perm reply' reply) :
    Spoiled reply' ↔ Spoiled reply := by
  cases h with
  | none => rfl
  | some h => simp only [Spoiled, Option.some.injEq, forall_eq', h.mem_iff]

/-- A reply in another order is the same texts in another order. -/
theorem exists_tells_of_perm {reply' : Option (List ByteArray)}
    (h : Option.Rel List.Perm reply' reply) (ht : Tells reply ts) :
    ∃ ts', Tells reply' ts' ∧ ts'.Perm ts := by
  obtain ⟨ts', ht'⟩ := exists_tells_iff.2
    ((spoiled_of_perm h).not.2 (exists_tells_iff.1 ⟨ts, ht⟩))
  refine ⟨ts', ht', ?_⟩
  rw [ht, ht'] at h
  cases h with
  | some h => exact (List.map_perm_map_iff toUTF8_injective).1 h

/-! ### Reading of keys -/

namespace Replies

/-- The series holds the label of the key and what can be read of its members. -/
structure IsSeriesOf (r : Replies) (field : Field) (key : String) (s : Series) : Prop where
  label : labelOfKey? key = some s.label
  values : ∃ members, Tells (r.members key) members ∧ Collected field members s.values

/-- The series are those of the listed keys with a label, in the order of the bytes of the keys. -/
inductive Holds (r : Replies) (field : Field) (pattern : String) (series : List Series) :
    Prop where
  | intro (listed keys : List String) (told : Tells (r.keys pattern) listed)
      (perm : keys.Perm listed)
      (ordered : keys.Pairwise fun a b => Text.bytes a ≤ Text.bytes b)
      (each : List.Forall₂ (r.IsSeriesOf field) (keys.filter fun key => (labelOfKey? key).isSome)
        series)

/-- Something that a fetch of the pattern needs is not told: the keys, or the members of one that
has a label. -/
inductive Fails (r : Replies) (pattern : String) : Prop where
  | keys (h : Spoiled (r.keys pattern))
  | members {listed : List String} {key : String} (told : Tells (r.keys pattern) listed)
      (hkey : key ∈ listed) (hlabel : (labelOfKey? key).isSome = true) (h : Spoiled (r.members key))

variable {r : Replies} {least greatest : Int64} {keys : List String} {label : Label}

theorem readKeys_unlabelled (h : labelOfKey? key = none) (n : Nat) :
    (r.readKeys n least greatest (key :: keys)).result =
        (r.readKeys n least greatest keys).result ∧
      (r.readKeys n least greatest (key :: keys)).commands =
        (r.readKeys n least greatest keys).commands := by
  simp only [readKeys, h, and_self]

theorem readKeys_spoiled (h : labelOfKey? key = some label) (hs : Spoiled (r.members key))
    (n : Nat) : r.readKeys n least greatest (key :: keys) =
      ⟨[.rangeByScore key least greatest], [], .error .server⟩ := by
  simp only [readKeys, h, bind_texts?_eq_none.2 hs]

theorem readKeys_told (h : labelOfKey? key = some label) (ht : Tells (r.members key) ts)
    (n : Nat) :
    (r.readKeys n least greatest (key :: keys)).result =
        (r.readKeys n least greatest keys).result.map
          (⟨label, ts.filterMap (valueOfMember? · n)⟩ :: ·) ∧
      (r.readKeys n least greatest (key :: keys)).commands =
        .rangeByScore key least greatest :: (r.readKeys n least greatest keys).commands := by
  simp only [readKeys, h, bind_texts?_eq_some.2 ht, and_self]

/-- All keys with a label are read if the members of each are told. -/
theorem readKeys_of_told
    (h : ∀ key ∈ keys, (labelOfKey? key).isSome = true → ¬ Spoiled (r.members key)) :
    ∃ series, (r.readKeys field.position least greatest keys).result = .ok series ∧
      List.Forall₂ (r.IsSeriesOf field) (keys.filter fun key => (labelOfKey? key).isSome)
        series := by
  induction keys with
  | nil => exact ⟨[], rfl, .nil⟩
  | cons key keys ih =>
      rw [List.forall_mem_cons] at h
      obtain ⟨series, hresult, hseries⟩ := ih h.2
      cases hlabel : labelOfKey? key with
      | none =>
          refine ⟨series, (readKeys_unlabelled hlabel _).1.trans hresult, ?_⟩
          rwa [List.filter_cons_of_neg (by simp [hlabel])]
      | some label =>
          obtain ⟨ts, ht⟩ := exists_tells_iff.2 (h.1 (by rw [hlabel, Option.isSome_some]))
          refine ⟨_, by rw [(readKeys_told hlabel ht _).1, hresult]; rfl, ?_⟩
          rw [List.filter_cons_of_pos (by simp [hlabel])]
          exact .cons ⟨hlabel, ts, ht, collected_filterMap field ts⟩ hseries

/-- Every key with a label is read, and no other, if the members of each are told. -/
theorem commands_readKeys_of_told {n : Nat}
    (h : ∀ key ∈ keys, (labelOfKey? key).isSome = true → ¬ Spoiled (r.members key)) :
    (r.readKeys n least greatest keys).commands =
      (keys.filter fun key => (labelOfKey? key).isSome).map
        (ServerCommand.rangeByScore · least greatest) := by
  induction keys with
  | nil => rfl
  | cons key keys ih =>
      rw [List.forall_mem_cons] at h
      cases hlabel : labelOfKey? key with
      | none =>
          rw [(readKeys_unlabelled hlabel n).2, ih h.2,
            List.filter_cons_of_neg (by simp [hlabel])]
      | some label =>
          obtain ⟨ts, ht⟩ := exists_tells_iff.2 (h.1 (by rw [hlabel, Option.isSome_some]))
          rw [(readKeys_told hlabel ht n).2, ih h.2, List.filter_cons_of_pos (by simp [hlabel]),
            List.map_cons]

/-- One key with a label whose members are not told takes all series with it. -/
theorem readKeys_of_spoiled (hkey : key ∈ keys) (hlabel : (labelOfKey? key).isSome = true)
    (hs : Spoiled (r.members key)) (n : Nat) :
    (r.readKeys n least greatest keys).result = .error .server := by
  induction keys with
  | nil => contradiction
  | cons k keys ih =>
      cases hk : labelOfKey? k with
      | none =>
          rw [(readKeys_unlabelled hk n).1]
          refine ih ((List.mem_cons.1 hkey).resolve_left ?_)
          rintro rfl
          rw [hk] at hlabel
          contradiction
      | some label =>
          by_cases hspoiled : Spoiled (r.members k)
          · rw [readKeys_spoiled hk hspoiled]
          · obtain ⟨ts, ht⟩ := exists_tells_iff.2 hspoiled
            have hrest := ih ((List.mem_cons.1 hkey).resolve_left (fun heq => hspoiled (heq ▸ hs)))
            rw [(readKeys_told hk ht n).1, hrest]
            rfl

theorem readKeys_congr {r' : Replies} (h : r'.members = r.members) (n : Nat)
    (keys : List String) :
    r'.readKeys n least greatest keys = r.readKeys n least greatest keys := by
  induction keys with
  | nil => rfl
  | cons key keys ih => simp only [readKeys, h, ih]

/-- The keys that are read have a label. -/
theorem mem_commands_readKeys {command : ServerCommand} {n : Nat}
    (h : command ∈ (r.readKeys n least greatest keys).commands) :
    ∃ key, command = .rangeByScore key least greatest ∧ (labelOfKey? key).isSome = true := by
  induction keys with
  | nil => contradiction
  | cons key keys ih =>
      cases hlabel : labelOfKey? key with
      | none =>
          rw [(readKeys_unlabelled hlabel n).2] at h
          exact ih h
      | some label =>
          have hself : (labelOfKey? key).isSome = true := by rw [hlabel, Option.isSome_some]
          by_cases hspoiled : Spoiled (r.members key)
          · rw [readKeys_spoiled hlabel hspoiled, List.mem_singleton] at h
            exact ⟨key, h, hself⟩
          · obtain ⟨ts, ht⟩ := exists_tells_iff.2 hspoiled
            rw [(readKeys_told hlabel ht n).2, List.mem_cons] at h
            rcases h with h | h
            · exact ⟨key, h, hself⟩
            · exact ih h

end Replies

/-! ### Fetches -/

/-- A server is not asked for a variable that is no reference. -/
theorem fetch_of_parse_error {v : String} {e : StoreError} (h : VariableRef.parse v = .error e)
    (replies : Replies) (s : ServerSettings) (now : Int64) :
    replies.fetch s now v = ⟨[], [], .error (.invalidVariable v)⟩ := by
  rw [Replies.fetch, h, VariableRef.parse_eq_error h]

/-- The keys in the order of their bytes. -/
def inOrder (keys : List String) : List String := keys.mergeSort fun a b => decide (a ≤ b)

theorem perm_inOrder (keys : List String) : (inOrder keys).Perm keys := List.mergeSort_perm _ _

theorem pairwise_inOrder (keys : List String) : (inOrder keys).Pairwise (· ≤ ·) := by
  have htrans (a b c : String) : decide (a ≤ b) = true → decide (b ≤ c) = true →
      decide (a ≤ c) = true := by
    simp only [decide_eq_true_eq]
    exact String.le_trans
  have htotal (a b : String) : (decide (a ≤ b) || decide (b ≤ a)) = true := by
    simpa using String.le_total a b
  exact (List.pairwise_mergeSort htrans htotal keys).imp of_decide_eq_true

/-- Keys are put in the same order however they are listed. -/
theorem inOrder_of_perm {keys keys' : List String} (h : keys.Perm keys') :
    inOrder keys = inOrder keys' := by
  refine List.Perm.eq_of_pairwise (fun _ _ _ _ => String.le_antisymm) (pairwise_inOrder keys)
    (pairwise_inOrder keys') ?_
  exact (perm_inOrder keys).trans (h.trans (perm_inOrder keys').symm)

namespace Replies

variable {r : Replies} {s : ServerSettings} {now : Int64} {v : String} {ref : VariableRef}
  {keys : List String}

theorem fetch_spoiled (h : VariableRef.parse v = .ok ref)
    (hs : Spoiled (r.keys (s.layout.pattern ref))) :
    r.fetch s now v = ⟨[.keys (s.layout.pattern ref)], [], .error .server⟩ := by
  simp only [fetch, h, bind_texts?_eq_none.2 hs]

theorem fetch_told (h : VariableRef.parse v = .ok ref)
    (ht : Tells (r.keys (s.layout.pattern ref)) keys) :
    let read := r.readKeys ref.field.position (windowStart s.window now) now (inOrder keys)
    r.fetch s now v = { read with commands := .keys (s.layout.pattern ref) :: read.commands } := by
  simp only [fetch, h, bind_texts?_eq_some.2 ht, inOrder]

/-- A fetch fails as a whole if anything that it needs is not told. -/
theorem fetch_of_fails (h : VariableRef.parse v = .ok ref) (hf : r.Fails (s.layout.pattern ref)) :
    (r.fetch s now v).result = .error .server := by
  cases hf with
  | keys hs => rw [fetch_spoiled h hs]
  | members ht hkey hlabel hs =>
      rw [fetch_told h ht]
      exact readKeys_of_spoiled ((perm_inOrder _).mem_iff.2 hkey) hlabel hs _

theorem not_spoiled_of_not_fails {pattern : String} (hf : ¬ r.Fails pattern)
    (ht : Tells (r.keys pattern) keys) :
    ∀ key ∈ inOrder keys, (labelOfKey? key).isSome = true → ¬ Spoiled (r.members key) := by
  intro key hkey hlabel hs
  exact hf (.members ht ((perm_inOrder keys).mem_iff.1 hkey) hlabel hs)

theorem fetch_of_not_fails (h : VariableRef.parse v = .ok ref)
    (hf : ¬ r.Fails (s.layout.pattern ref)) :
    ∃ series, (r.fetch s now v).result = .ok series ∧
      r.Holds ref.field (s.layout.pattern ref) series := by
  obtain ⟨keys, ht⟩ := exists_tells_iff.2 fun hs => hf (.keys hs)
  obtain ⟨series, hresult, hseries⟩ := readKeys_of_told (not_spoiled_of_not_fails hf ht)
  refine ⟨series, ?_, .intro keys (inOrder keys) ht (perm_inOrder keys) ?_ hseries⟩
  · rw [fetch_told h ht]
    exact hresult
  · exact (pairwise_inOrder keys).imp Text.le_iff_bytes.1

/-- A read of a fetch is one of a key with a label, and asks for the scores of the window. -/
theorem scores_of_mem_commands {key : String} {least greatest : Int64}
    (hc : .rangeByScore key least greatest ∈ (r.fetch s now v).commands) :
    (labelOfKey? key).isSome = true ∧ least = windowStart s.window now ∧ greatest = now := by
  cases h : VariableRef.parse v with
  | error e =>
      rw [fetch_of_parse_error h] at hc
      contradiction
  | ok ref =>
      by_cases hspoiled : Spoiled (r.keys (s.layout.pattern ref))
      · rw [fetch_spoiled h hspoiled, List.mem_singleton] at hc
        contradiction
      · obtain ⟨keys, ht⟩ := exists_tells_iff.2 hspoiled
        rw [fetch_told h ht] at hc
        have hread := (List.mem_cons.1 hc).resolve_left (by simp)
        obtain ⟨key', heq, hlabel⟩ := mem_commands_readKeys hread
        cases heq
        exact ⟨hlabel, rfl, rfl⟩

/-- A fetch that does not fail asks for the scores of the window of each listed key with a label. -/
theorem mem_commands_of_not_fails {key : String} (h : VariableRef.parse v = .ok ref)
    (hf : ¬ r.Fails (s.layout.pattern ref)) (ht : Tells (r.keys (s.layout.pattern ref)) keys)
    (hkey : key ∈ keys) (hlabel : (labelOfKey? key).isSome = true) :
    .rangeByScore key (windowStart s.window now) now ∈ (r.fetch s now v).commands := by
  have hmem : key ∈ (inOrder keys).filter fun key => (labelOfKey? key).isSome :=
    List.mem_filter.2 ⟨(perm_inOrder keys).mem_iff.2 hkey, hlabel⟩
  rw [fetch_told h ht]
  dsimp only
  rw [commands_readKeys_of_told (not_spoiled_of_not_fails hf ht)]
  exact List.mem_cons_of_mem _ (List.mem_map_of_mem hmem)

/-- The order in which the server lists its keys makes no difference. -/
theorem fetch_of_perm {r' : Replies} (hmembers : r'.members = r.members)
    (hkeys : ∀ pattern, Option.Rel List.Perm (r'.keys pattern) (r.keys pattern)) :
    r'.fetch s now v = r.fetch s now v := by
  cases h : VariableRef.parse v with
  | error e => rw [fetch_of_parse_error h, fetch_of_parse_error h]
  | ok ref =>
      have hperm := hkeys (s.layout.pattern ref)
      by_cases hspoiled : Spoiled (r.keys (s.layout.pattern ref))
      · rw [fetch_spoiled h hspoiled, fetch_spoiled h ((spoiled_of_perm hperm).2 hspoiled)]
      · obtain ⟨keys, ht⟩ := exists_tells_iff.2 hspoiled
        obtain ⟨keys', ht', hkeys'⟩ := exists_tells_of_perm hperm ht
        rw [fetch_told h ht, fetch_told h ht', inOrder_of_perm hkeys', readKeys_congr hmembers]

/-- A fetch of a text that denotes no reference sends nothing. Any other has the series of all keys
that have a label, in whatever order the keys are listed, or fails as a whole; no other key is
read. -/
theorem fetch_loses_and_invents_nothing (r : Replies) (s : ServerSettings) (now : Int64)
    (v : String) :
    (∀ e, VariableRef.parse v = .error e →
      (r.fetch s now v).result = .error (.invalidVariable v) ∧ (r.fetch s now v).commands = []) ∧
    (∀ ref, VariableRef.parse v = .ok ref →
      (r.Fails (s.layout.pattern ref) → (r.fetch s now v).result = .error .server) ∧
      (¬ r.Fails (s.layout.pattern ref) → ∃ series, (r.fetch s now v).result = .ok series ∧
        r.Holds ref.field (s.layout.pattern ref) series) ∧
      (r.keys (s.layout.pattern ref) = some [] → (r.fetch s now v).result = .ok [])) ∧
    (∀ key least greatest, .rangeByScore key least greatest ∈ (r.fetch s now v).commands →
      (labelOfKey? key).isSome = true) ∧
    ∀ r' : Replies, r'.members = r.members →
      (∀ pattern, Option.Rel List.Perm (r'.keys pattern) (r.keys pattern)) →
      r'.fetch s now v = r.fetch s now v := by
  refine ⟨fun e h => ?_, fun ref h => ⟨fetch_of_fails h, fetch_of_not_fails h, fun hempty => ?_⟩,
    fun key least greatest hc => (scores_of_mem_commands hc).1, fun r' => fetch_of_perm⟩
  · rw [fetch_of_parse_error h]
    exact ⟨rfl, rfl⟩
  · have hnone : inOrder [] = [] := List.perm_nil.1 (perm_inOrder [])
    have htold : Tells (r.keys (s.layout.pattern ref)) [] := hempty
    rw [fetch_told h htold, hnone]
    rfl

theorem fetch_loses_and_invents_nothing_unless_spoiled :
    let listed := ["c/b/virt/if_octets-t", "c", "c/a/virt/if_octets-t"]
    let told : Replies :=
      ⟨fun _ => some (listed.map String.toUTF8), fun _ => some (["1: 2 :3", "x"].map String.toUTF8)⟩
    let spoiled : Replies :=
      ⟨told.keys, fun key => if key = "c/a/virt/if_octets-t" then some [⟨#[0xff]⟩] else some []⟩
    (∃ series, (told.fetch .default 100 "vm.rx").result = .ok series ∧
      told.Holds .received "collectd/*/virt/if_octets-*" series) ∧
      (spoiled.fetch .default 100 "vm.rx").result = .error .server := by
  intro listed told spoiled
  have hparse : VariableRef.parse "vm.rx" = .ok ⟨.everything, .received⟩ := by decide +kernel
  obtain ⟨-, htold, -⟩ := fetch_loses_and_invents_nothing told .default 100 "vm.rx"
  obtain ⟨-, hspoiled, -⟩ := fetch_loses_and_invents_nothing spoiled .default 100 "vm.rx"
  constructor
  · refine (htold _ hparse).2.1 fun hf => ?_
    cases hf with
    | keys h => exact exists_tells_iff.1 ⟨listed, rfl⟩ h
    | members _ _ _ h => exact exists_tells_iff.1 ⟨["1: 2 :3", "x"], rfl⟩ h
  · have hmem : "c/a/virt/if_octets-t" ∈ listed := by decide
    refine (hspoiled _ hparse).1 (.members rfl hmem (by decide +kernel) fun octets h => ?_)
    obtain rfl := Option.some.inj h
    exact ⟨_, List.mem_singleton_self _, by decide +kernel⟩

end Replies

end AlertPolicy.Store
