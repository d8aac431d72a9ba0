import AlertPolicy.Proofs.Shutdown.Families
import AlertPolicy.Proofs.Shutdown.Waiting

/-!
The handles of a family share one flag. Whatever is done with handles, each is on the channel of its
family, and that channel holds the flag that the bookkeeping has for the family; a receiver that is
still waited with has not seen the flag set.
-/

namespace AlertPolicy.Shutdown

open WatchLibrary

variable {c : WatchLibrary} {v : c.View} {s : Registry c} {a : Shutdown}

/-! ### Handles and families -/

/-- Each handle with its family. -/
def members (s : Registry c) (a : Shutdown) : List (Handle c × Nat) := s.handles.zip a.families

/-- What waiting that was begun with a handle has come to: it ends just for a family with a set
flag, and a receiver of the family has at least not yet seen the flag set. -/
def WaitFits (v : c.View) (w : c.World) (flags : List Nat) (m : Handle c × Nat) : Waiting c → Prop
  | .ended => m.2 ∈ flags
  | .pending rx => v.Held rx w ∧ v.receives rx = v.receives m.1.rx ∧
      (c.borrow rx w = true → c.hasChanged rx w = true)

/-- The handles are in accordance with a bookkeeping of families. -/
structure Fits (v : c.View) (s : Registry c) (a : Shutdown) : Prop where
  length : s.handles.length = a.families.length
  families : ∀ f ∈ a.families, f < a.families.length
  flags : ∀ f ∈ a.triggeredFamilies, f < a.families.length
  held : ∀ m ∈ members s a, v.Held m.1.rx s.world
  sends : ∀ m ∈ members s a, v.sends m.1.tx = v.receives m.1.rx
  /-- Families have a channel each. -/
  channel : ∀ m ∈ members s a, ∀ m' ∈ members s a,
    (v.receives m.1.rx = v.receives m'.1.rx ↔ m.2 = m'.2)
  flag : ∀ m ∈ members s a, (c.borrow m.1.rx s.world = true ↔ m.2 ∈ a.triggeredFamilies)
  waits : ∀ x ∈ s.waits, ∃ m, (members s a)[x.1]? = some m ∧
    WaitFits v s.world a.triggeredFamilies m x.2

theorem WaitFits.keeps {w w' : c.World} {flags : List Nat} {m : Handle c × Nat} {wait : Waiting c}
    (h : WaitFits v w flags m wait) (hkeeps : v.Keeps w w') : WaitFits v w' flags m wait := by
  cases wait with
  | ended => exact h
  | pending rx =>
      obtain ⟨hheld, hreceives, hset⟩ := h
      refine ⟨hkeeps.held hheld, hreceives, ?_⟩
      rw [hkeeps.borrow hheld, hkeeps.hasChanged hheld]
      exact hset

/-- What is waited with when the flag of some family is set has not seen that. -/
theorem WaitFits.sent (hv : v.Lawful) {tx : c.Sender} {w w' : c.World} {old : Bool}
    {flags : List Nat} {m : Handle c × Nat} {wait : Waiting c} (h : WaitFits v w flags m wait)
    (hsent : c.sendReplace tx true w = (old, w')) (f : Nat) : WaitFits v w' (f :: flags) m wait := by
  cases wait with
  | ended => exact List.mem_cons_of_mem f h
  | pending rx =>
      obtain ⟨hheld, hreceives, hset⟩ := h
      by_cases hsame : v.receives rx = v.sends tx
      · obtain ⟨hheld', -, htold⟩ := hv.sent hsent hheld hsame
        exact ⟨hheld', hreceives, fun _ => htold⟩
      · obtain ⟨hheld', hborrow, hhas⟩ := hv.sent_elsewhere hsent hheld hsame
        refine ⟨hheld', hreceives, ?_⟩
        rw [hborrow, hhas]
        exact hset

theorem ComesTo.waitFits (hv : v.Lawful) {rx : c.Receiver} {w : c.World}
    {polled : Waiting c × c.World} {flags : List Nat} {m : Handle c × Nat}
    (h : ComesTo v rx w polled) (hheld : v.Held rx w) (hreceives : v.receives rx = v.receives m.1.rx)
    (hflag : c.borrow rx w = true → m.2 ∈ flags) : WaitFits v polled.2 flags m polled.1 := by
  cases h with
  | ended _ hset => exact hflag hset
  | pending hcont hunset _ =>
      refine ⟨hcont.held, hcont.receives.trans hreceives, ?_⟩
      rw [hcont.borrow hv hheld, hunset]
      intro hset
      cases hset

namespace Fits

theorem keeps (h : Fits v s a) {w : c.World} (hkeeps : v.Keeps s.world w) :
    Fits v { s with world := w } a where
  length := h.length
  families := h.families
  flags := h.flags
  held m hm := hkeeps.held (h.held m hm)
  sends := h.sends
  channel := h.channel
  flag m hm := by
    rw [hkeeps.borrow (h.held m hm)]
    exact h.flag m hm
  waits x hx := by
    obtain ⟨m, hm, hwait⟩ := h.waits x hx
    exact ⟨m, hm, hwait.keeps hkeeps⟩

theorem members_concat (h : Fits v s a) (k : Handle c) (f : Nat) :
    members { s with handles := s.handles ++ [k] } { a with families := a.families ++ [f] } =
      members s a ++ [(k, f)] :=
  List.zip_append h.length

/-- A further handle, of a family that there is or of a new one. -/
theorem add (h : Fits v s a) {k : Handle c} {f : Nat} (hf : f ≤ a.families.length)
    (hheld : v.Held k.rx s.world) (hsends : v.sends k.tx = v.receives k.rx)
    (hchannel : ∀ m ∈ members s a, (v.receives k.rx = v.receives m.1.rx ↔ f = m.2))
    (hflag : c.borrow k.rx s.world = true ↔ f ∈ a.triggeredFamilies) :
    Fits v { s with handles := s.handles ++ [k] } { a with families := a.families ++ [f] } := by
  have hmembers := h.members_concat k f
  have hlength : (a.families ++ [f]).length = a.families.length + 1 := List.length_append
  refine ⟨?_, ?_, ?_, ?_, ?_, ?_, ?_, ?_⟩
  · simp [h.length]
  · intro g hg
    rw [hlength]
    cases List.mem_append.1 hg with
    | inl hg => exact Nat.lt_succ_of_lt (h.families g hg)
    | inr hg =>
        rw [List.mem_singleton.1 hg]
        exact Nat.lt_succ_of_le hf
  · intro g hg
    rw [hlength]
    exact Nat.lt_succ_of_lt (h.flags g hg)
  · rw [hmembers, List.forall_mem_append, List.forall_mem_singleton]
    exact ⟨h.held, hheld⟩
  · rw [hmembers, List.forall_mem_append, List.forall_mem_singleton]
    exact ⟨h.sends, hsends⟩
  · simp only [hmembers, List.forall_mem_append, List.forall_mem_singleton]
    refine ⟨fun m hm => ⟨h.channel m hm, ?_⟩, hchannel, by simp⟩
    rw [eq_comm, hchannel m hm, eq_comm]
  · rw [hmembers, List.forall_mem_append, List.forall_mem_singleton]
    exact ⟨h.flag, hflag⟩
  · intro x hx
    obtain ⟨m, hm, hwait⟩ := h.waits x hx
    rw [hmembers]
    exact ⟨m, getElem?_append_of_eq_some _ hm, hwait⟩

/-- The handle of a number is a member of the family of that number. -/
theorem member (h : Fits v s a) {i : Nat} {k : Handle c} (hk : s.handles[i]? = some k) :
    ∃ f, a.families[i]? = some f ∧ (members s a)[i]? = some (k, f) := by
  have hlt : i < a.families.length := by
    rw [← h.length]
    exact (List.getElem?_eq_some_iff.1 hk).1
  have hf := List.getElem?_eq_getElem hlt
  exact ⟨_, hf, List.getElem?_zip_eq_some.2 ⟨hk, hf⟩⟩

theorem families_eq_none (h : Fits v s a) {i : Nat} (hk : s.handles[i]? = none) :
    a.families[i]? = none := by
  rw [List.getElem?_eq_none_iff] at hk ⊢
  rwa [← h.length]

theorem isTriggered (h : Fits v s a) {i : Nat} {k : Handle c} (hk : s.handles[i]? = some k) :
    k.isTriggered s.world = a.isTriggered i := by
  obtain ⟨f, hf, hm⟩ := h.member hk
  rw [Bool.eq_iff_iff, Handle.isTriggered, h.flag _ (List.mem_of_getElem? hm), Shutdown.isTriggered,
    hf, Option.any_some, List.contains_iff_mem]

theorem create (hv : v.Lawful) (h : Fits v s a) : Fits v (s.use .create) a.create := by
  generalize hopened : c.channel false s.world = answer
  obtain ⟨tx, rx, w⟩ := answer
  have hopens := hv.channel hopened
  have hnew : s.use .create = { s with world := w, handles := s.handles ++ [⟨tx, rx⟩] } := by
    simp only [Registry.use, Handle.new, hopened]
  rw [hnew]
  have hkept := h.keeps hopens.keeps
  refine hkept.add (Nat.le_refl _) hopens.held hopens.sends ?_ ?_
  · intro m hm
    have hfresh := hopens.fresh _ (h.held m hm)
    have hother := h.families _ (List.of_mem_zip hm).2
    exact iff_of_false (Ne.symm hfresh) (Nat.ne_of_gt hother)
  · rw [hopens.borrow]
    refine iff_of_false Bool.false_ne_true fun hset => ?_
    exact Nat.lt_irrefl _ (h.flags _ hset)

theorem clone (hv : v.Lawful) (h : Fits v s a) (i : Nat) : Fits v (s.use (.clone i)) (a.clone i) := by
  cases hk : s.handles[i]? with
  | none =>
      have hnone := h.families_eq_none hk
      simpa [Registry.use, hk, Shutdown.clone, hnone] using h
  | some k =>
      obtain ⟨f, hf, hm⟩ := h.member hk
      have hmem := List.mem_of_getElem? hm
      generalize hcloned : c.clone k.rx s.world = answer
      obtain ⟨rx, w⟩ := answer
      have hcont := hv.clone hcloned (h.held _ hmem)
      have hnew : s.use (.clone i) =
          { s with world := w, handles := s.handles ++ [⟨k.tx, rx⟩] } := by
        simp only [Registry.use, hk, Handle.clone, hcloned]
      have hfamily : a.clone i = { a with families := a.families ++ [f] } := by
        simp [Shutdown.clone, hf]
      rw [hnew, hfamily]
      have hkept := h.keeps hcont.keeps
      have hlt := h.families f (List.mem_of_getElem? hf)
      refine hkept.add (Nat.le_of_lt hlt) hcont.held ?_ ?_ ?_
      · rw [hcont.receives]
        exact h.sends _ hmem
      · intro m' hm'
        rw [hcont.receives]
        exact h.channel _ hmem m' hm'
      · rw [hcont.borrow hv (h.held _ hmem)]
        exact h.flag _ hmem

theorem trigger (hv : v.Lawful) (h : Fits v s a) (i : Nat) :
    Fits v (s.use (.trigger i)) (a.trigger i) := by
  cases hk : s.handles[i]? with
  | none =>
      have hnone := h.families_eq_none hk
      simpa [Registry.use, hk, Shutdown.trigger, hnone] using h
  | some k =>
      obtain ⟨f, hf, hm⟩ := h.member hk
      have hmem := List.mem_of_getElem? hm
      generalize hsent : c.sendReplace k.tx true s.world = answer
      obtain ⟨old, w⟩ := answer
      have hnew : s.use (.trigger i) = { s with world := w } := by
        simp only [Registry.use, hk, Handle.trigger, hsent]
      have hfamily : a.trigger i = { a with triggeredFamilies := f :: a.triggeredFamilies } := by
        simp [Shutdown.trigger, hf]
      -- The trigger is told to the handles of the family, and to no others.
      have htold {m : Handle c × Nat} (hm' : m ∈ members s a) :
          v.receives m.1.rx = v.sends k.tx ↔ m.2 = f := by
        rw [h.sends _ hmem]
        exact h.channel m hm' _ hmem
      rw [hnew, hfamily]
      refine ⟨h.length, h.families, ?_, ?_, h.sends, h.channel, ?_, ?_⟩
      · rw [List.forall_mem_cons]
        exact ⟨h.families f (List.mem_of_getElem? hf), h.flags⟩
      · intro m hm'
        by_cases hsame : v.receives m.1.rx = v.sends k.tx
        · exact (hv.sent hsent (h.held m hm') hsame).1
        · exact (hv.sent_elsewhere hsent (h.held m hm') hsame).1
      · intro m hm'
        rw [List.mem_cons, ← htold hm']
        by_cases hsame : v.receives m.1.rx = v.sends k.tx
        · exact iff_of_true (hv.sent hsent (h.held m hm') hsame).2.1 (.inl hsame)
        · rw [(hv.sent_elsewhere hsent (h.held m hm') hsame).2.1, h.flag m hm', or_iff_right hsame]
      · intro x hx
        obtain ⟨m, hm', hwait⟩ := h.waits x hx
        exact ⟨m, hm', hwait.sent hv hsent f⟩

theorem use (hv : v.Lawful) (h : Fits v s a) (u : Use) : Fits v (s.use u) (a.use u) := by
  cases u with
  | create => exact h.create hv
  | clone i => exact h.clone hv i
  | trigger i => exact h.trigger hv i

/-- A poll changes nothing but what is waited for. -/
theorem poll (hv : v.Lawful) (h : Fits v s a) (i : Nat) : Fits v (s.poll i) a := by
  cases hk : s.handles[i]? with
  | none =>
      simp only [Registry.poll, hk]
      exact h
  | some k =>
      obtain ⟨f, -, hm⟩ := h.member hk
      have hmem := List.mem_of_getElem? hm
      have hcomes := cancelled_comesTo hv (h.held _ hmem)
      have hkept := h.keeps hcomes.keeps
      simp only [Registry.poll, hk]
      refine { hkept with waits := ?_ }
      rw [List.forall_mem_append, List.forall_mem_singleton]
      exact ⟨hkept.waits, _, hm, hcomes.waitFits hv (h.held _ hmem) rfl (h.flag _ hmem).1⟩

theorem borrow_eq (hv : v.Lawful) (h : Fits v s a) {k : Handle c} {f : Nat} {rx : c.Receiver}
    (hm : (k, f) ∈ members s a) (hheld : v.Held rx s.world)
    (hreceives : v.receives rx = v.receives k.rx) :
    c.borrow rx s.world = k.isTriggered s.world :=
  hv.borrow_eq hheld (h.held _ hm) hreceives

theorem resume (hv : v.Lawful) (h : Fits v s a) (j : Nat) : Fits v (s.resume j) a := by
  match hx : s.waits[j]? with
  | none =>
      simp only [Registry.resume, hx]
      exact h
  | some (i, .ended) =>
      simp only [Registry.resume, hx]
      exact h
  | some (i, .pending rx) =>
      obtain ⟨m, hm, hheld, hreceives, hset⟩ := h.waits _ (List.mem_of_getElem? hx)
      have hmem := List.mem_of_getElem? hm
      have hcomes := await_comesTo hv hheld hset
      have hkept := h.keeps hcomes.keeps
      simp only [Registry.resume, hx]
      refine { hkept with waits := fun x hx => ?_ }
      cases List.mem_or_eq_of_mem_set hx with
      | inl hx => exact hkept.waits x hx
      | inr hx =>
          subst hx
          refine ⟨m, hm, hcomes.waitFits hv hheld hreceives ?_⟩
          rw [h.borrow_eq hv hmem hheld hreceives]
          exact (h.flag m hmem).1

end Fits

/-! ### Runs -/

/-- What an act does to the handles, if it is not a poll. -/
def Act.use? : Act → Option Use
  | .use u => some u
  | .poll _ => none
  | .resume _ => none

def uses (acts : List Act) : List Use := acts.filterMap Act.use?

theorem after_uses_concat (acts : List Act) (x : Act) :
    after (uses (acts ++ [x])) = x.use?.elim (after (uses acts)) (after (uses acts)).use := by
  have huses : uses (acts ++ [x]) = uses acts ++ x.use?.toList := by
    cases x <;> simp [uses, Act.use?, List.filterMap_append, List.filterMap_cons]
  rw [huses]
  cases x with
  | use u => exact after_concat _ u
  | poll i => exact congrArg after (List.append_nil _)
  | resume j => exact congrArg after (List.append_nil _)

theorem handles_use (s : Registry c) (u : Use) : s.handles <+: (s.use u).handles := by
  cases u with
  | create => exact List.prefix_append _ _
  | clone i =>
      simp only [Registry.use]
      split
      · exact List.prefix_append _ _
      · exact List.prefix_refl _
  | trigger i =>
      simp only [Registry.use]
      split
      · exact List.prefix_refl _
      · exact List.prefix_refl _

theorem handles_act (s : Registry c) (x : Act) : s.handles <+: (s.act x).handles := by
  cases x with
  | use u => exact handles_use s u
  | poll i =>
      simp only [Registry.act, Registry.poll]
      split
      · exact List.prefix_refl _
      · exact List.prefix_refl _
  | resume j =>
      simp only [Registry.act, Registry.resume]
      split
      · exact List.prefix_refl _
      · exact List.prefix_refl _

theorem Fits.act (hv : v.Lawful) (h : Fits v s a) (x : Act) :
    Fits v (s.act x) (x.use?.elim a a.use) := by
  cases x with
  | use u => exact h.use hv u
  | poll i => exact h.poll hv i
  | resume j => exact h.resume hv j

theorem fits_start (v : c.View) (w : c.World) : Fits v (.start w) (after []) := by
  refine ⟨rfl, ?_, ?_, ?_, ?_, ?_, ?_, ?_⟩
  all_goals intro x hx
  all_goals exact absurd hx List.not_mem_nil

/-- Every run is in accordance with the bookkeeping of families. -/
theorem fits_run (hv : v.Lawful) (w : c.World) (acts : List Act) :
    Fits v ((Registry.start w).run acts) (after (uses acts)) := by
  induction acts using List.reverseRecOn with
  | nil => exact fits_start v w
  | append_singleton acts x ih =>
      have hrun : (Registry.start w).run (acts ++ [x]) = ((Registry.start w).run acts).act x := by
        simp [Registry.run]
      rw [hrun, after_uses_concat]
      exact ih.act hv x

/-- What is to be said of a handle after all that was done. -/
structure SharesFlag (acts : List Act) (s : Registry c) (i : Nat) (h : Handle c) : Prop where
  triggered : h.isTriggered s.world = true ↔
    ∃ j, SameFamily (uses acts) i j ∧ Triggered (uses acts) j
  bookkeeping : h.isTriggered s.world = (after (uses acts)).isTriggered i
  /-- The first poll of waiting ends it just if the flag is set. -/
  poll : (h.cancelled s.world).1 = .ended ↔ h.isTriggered s.world = true
  /-- So does a further poll of what was pending. -/
  resume : ∀ (j : Nat) rx, s.waits[j]? = some (i, Waiting.pending rx) →
    ((await rx s.world).1 = .ended ↔ h.isTriggered s.world = true)
  ended : ∀ j : Nat, s.waits[j]? = some (i, Waiting.ended) → h.isTriggered s.world = true
  clone : (h.clone s.world).1.isTriggered (h.clone s.world).2 = h.isTriggered s.world
  kept : ∀ x, (s.act x).handles[i]? = some h
  /-- The flag is never taken back. -/
  sticky : ∀ x, h.isTriggered s.world = true → h.isTriggered (s.act x).world = true
  /-- Nothing but a trigger in the family of the handle changes the flag. -/
  apart : ∀ x, (∀ j, x = .use (.trigger j) → ¬ SameFamily (uses acts) i j) →
    h.isTriggered (s.act x).world = h.isTriggered s.world

theorem Fits.sharesFlag (hv : v.Lawful) {acts : List Act} (hfits : Fits v s (after (uses acts)))
    {i : Nat} {h : Handle c} (hi : s.handles[i]? = some h) : SharesFlag acts s i h := by
  obtain ⟨f, hf, hm⟩ := hfits.member hi
  have hmem := List.mem_of_getElem? hm
  have hheld := hfits.held _ hmem
  have hbook := hfits.isTriggered hi
  have hkept (x : Act) : (s.act x).handles[i]? = some h := by
    obtain ⟨more, hmore⟩ := handles_act s x
    rw [← hmore]
    exact getElem?_append_of_eq_some more hi
  have hbook' (x : Act) : h.isTriggered (s.act x).world =
      (x.use?.elim (after (uses acts)) (after (uses acts)).use).isTriggered i :=
    (hfits.act hv x).isTriggered (hkept x)
  refine ⟨?_, hbook, (cancelled_comesTo hv hheld).ended_iff, ?_, ?_, ?_, hkept, ?_, ?_⟩
  · rw [hbook, isTriggered_after_iff]
  · intro j rx hj
    obtain ⟨m, hm', hheld', hreceives, hset⟩ := hfits.waits _ (List.mem_of_getElem? hj)
    cases hm.symm.trans hm'
    rw [← hfits.borrow_eq hv hmem hheld' hreceives]
    exact (await_comesTo hv hheld' hset).ended_iff
  · intro j hj
    obtain ⟨m, hm', hset⟩ := hfits.waits _ (List.mem_of_getElem? hj)
    cases hm.symm.trans hm'
    exact (hfits.flag _ hmem).2 hset
  · generalize hcloned : c.clone h.rx s.world = answer
    obtain ⟨rx, w⟩ := answer
    simp only [Handle.clone, hcloned, Handle.isTriggered]
    exact (hv.clone hcloned hheld).borrow hv hheld
  · intro x hset
    rw [hbook] at hset
    rw [hbook']
    cases x with
    | use u => exact isTriggered_use u hset
    | poll j => exact hset
    | resume j => exact hset
  · intro x hother
    rw [hbook, hbook']
    cases x with
    | use u => exact isTriggered_use_of_not_sameFamily hf fun j hj => hother j (congrArg Act.use hj)
    | poll j => rfl
    | resume j => rfl

/-- Handles form families that share a flag. For every library of watch channels that keeps to the
laws, and after anything that was done with handles, the flag of a handle is set just if some handle of
its family was triggered before, and waiting ends as soon as it is polled just if that is so. -/
theorem handles_share_flag_of_family (hv : v.Lawful) (w : c.World) (acts : List Act) :
    let s := (Registry.start w).run acts
    s.handles.length = made (uses acts) ∧
      ∀ i h, s.handles[i]? = some h → SharesFlag acts s i h := by
  intro s
  have hfits : Fits v s (after (uses acts)) := fits_run hv w acts
  refine ⟨?_, fun i h hi => hfits.sharesFlag hv hi⟩
  rw [hfits.length, made_eq_length]

/-- Two families, with clones from before and after the trigger in the first. -/
theorem handles_share_flag_of_family_of_two :
    let acts : List Act := [.use .create, .use (.clone 0), .use .create, .poll 1,
      .use (.trigger 0), .use (.clone 1), .resume 0]
    let w : counted.World := []
    let s := (Registry.start w).run acts
    counted.view.Lawful ∧ s.handles.length = 4 ∧
      ∀ i h, s.handles[i]? = some h → h.isTriggered s.world = decide (i ≠ 2) := by
  intro acts w s
  obtain ⟨hlength, hshares⟩ := handles_share_flag_of_family counted.lawful w acts
  refine ⟨counted.lawful, hlength, ?_⟩
  intro i h hi
  have hlt : i < 4 := by
    have hlt := (List.getElem?_eq_some_iff.1 hi).1
    rwa [hlength] at hlt
  rw [(hshares i h hi).bookkeeping]
  have hall : ∀ i < 4, (after (uses acts)).isTriggered i = decide (i ≠ 2) := by decide
  exact hall i hlt

end AlertPolicy.Shutdown
