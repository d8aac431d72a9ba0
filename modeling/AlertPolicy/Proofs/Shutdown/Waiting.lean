import AlertPolicy.Shutdown.Handle

/-!
What a poll of waiting comes to, by the laws of the channels: waiting ends just if the flag is set.
A receiver that is still waited with may be polled again later, as long as it has not been told of a
flag that was set in between without anyone looking.
-/

namespace AlertPolicy

/-! ### Counted values -/

namespace WatchLibrary

variable {c : WatchLibrary}

theorem View.Keeps.refl (v : c.View) (w : c.World) : v.Keeps w w :=
  ⟨id, fun _ => rfl, fun _ => rfl⟩

theorem View.Keeps.trans {v : c.View} {w₁ w₂ w₃ : c.World} (h : v.Keeps w₁ w₂)
    (h' : v.Keeps w₂ w₃) : v.Keeps w₁ w₃ where
  held hheld := h'.held (h.held hheld)
  borrow hheld := (h'.borrow (h.held hheld)).trans (h.borrow hheld)
  hasChanged hheld := (h'.hasChanged (h.held hheld)).trans (h.hasChanged hheld)

theorem View.Continues.trans {v : c.View} {rx₁ rx₂ rx₃ : c.Receiver} {w₁ w₂ w₃ : c.World}
    (h : v.Continues rx₁ w₁ rx₂ w₂) (h' : v.Continues rx₂ w₂ rx₃ w₃) :
    v.Continues rx₁ w₁ rx₃ w₃ :=
  ⟨h.keeps.trans h'.keeps, h'.held, h'.receives.trans h.receives⟩

theorem View.Continues.borrow {v : c.View} (hv : v.Lawful) {rx rx' : c.Receiver} {w w' : c.World}
    (hheld : v.Held rx w) (h : v.Continues rx w rx' w') : c.borrow rx' w' = c.borrow rx w := by
  rw [← h.keeps.borrow hheld]
  exact hv.borrow_eq h.held (h.keeps.held hheld) h.receives

/-- What a receiver has seen may be old, but it is never ahead of its channel. -/
abbrev counted.view : counted.View where
  Channel := Nat
  sends tx := tx
  receives := CountedReceiver.channel
  Held rx w := ∃ x, w[rx.channel]? = some x ∧ rx.seen ≤ x.version

theorem getElem?_append_of_eq_some {α : Type} {l : List α} {n : Nat} {x : α} (more : List α)
    (h : l[n]? = some x) : (l ++ more)[n]? = some x := by
  rw [List.getElem?_append_left (List.getElem?_eq_some_iff.1 h).1, h]

theorem counted.opens (b : Bool) (w : List CountedValue) :
    counted.view.Opens b w w.length ⟨w.length, 0⟩ (w ++ [⟨b, 0⟩]) where
  keeps := by
    refine ⟨?_, ?_, ?_⟩
    · intro rx ⟨x, hx, hseen⟩
      exact ⟨x, getElem?_append_of_eq_some _ hx, hseen⟩
    · intro rx ⟨x, hx, _⟩
      simp only [hx, getElem?_append_of_eq_some _ hx]
    · intro rx ⟨x, hx, _⟩
      simp only [hx, getElem?_append_of_eq_some _ hx]
  held := ⟨⟨b, 0⟩, List.getElem?_concat_length, Nat.le_refl 0⟩
  sends := rfl
  borrow := by simp
  fresh := by
    intro r ⟨x, hx, _⟩
    exact Nat.ne_of_lt (List.getElem?_eq_some_iff.1 hx).1

theorem counted.lawful : counted.view.Lawful where
  borrow_eq := by
    intro rx rx' w _ _ h
    have hchannel : rx.channel = rx'.channel := h
    simp only [hchannel]
  channel := by
    intro b w tx rx w' h
    cases h
    exact counted.opens b w
  sent := by
    intro tx b w old w' rx h ⟨x, hx, hseen⟩ hchannel
    cases h
    have hsame : rx.channel = tx := hchannel
    have hnew : (w.modify tx fun x => (⟨b, x.version + 1⟩ : CountedValue))[rx.channel]? =
        some ⟨b, x.version + 1⟩ := by
      rw [hsame] at hx ⊢
      rw [List.getElem?_modify_eq, hx]
      rfl
    have hmissed : x.version + 1 ≠ rx.seen := by omega
    refine ⟨⟨_, hnew, Nat.le_succ_of_le hseen⟩, ?_, ?_⟩
    · simp only [hnew, Option.any_some]
    · simp [hnew, hmissed]
  sent_elsewhere := by
    intro tx b w old w' rx h hheld hchannel
    cases h
    have hkept : (w.modify tx fun x => (⟨b, x.version + 1⟩ : CountedValue))[rx.channel]? =
        w[rx.channel]? := List.getElem?_modify_ne _ _ (Ne.symm hchannel)
    simp only [hkept]
    exact ⟨hheld, trivial, trivial⟩
  clone := by
    intro rx w rx' w' h hheld
    cases h
    exact ⟨.refl _ _, hheld, rfl⟩
  borrowAndUpdate := by
    intro rx w b rx' w' h ⟨x, hx, hseen⟩
    simp only [hx] at h
    cases h
    refine ⟨?_, .refl _ _, ⟨x, hx, Nat.le_refl _⟩, rfl⟩
    simp only [hx, Option.any_some]
  changed := by
    intro rx w a rx' w' h ⟨x, hx, hseen⟩
    by_cases hsame : x.version = rx.seen
    · simp only [hx, if_pos hsame] at h
      cases h
      exact ⟨⟨.refl _ _, ⟨x, hx, hseen⟩, rfl⟩, by simp [hx, hsame]⟩
    · simp only [hx, if_neg hsame] at h
      cases h
      exact ⟨⟨.refl _ _, ⟨x, hx, Nat.le_refl _⟩, rfl⟩, by simp [hx, hsame]⟩
  changed_pending := by
    intro rx w rx' w' h ⟨x, hx, _⟩
    by_cases hsame : x.version = rx.seen
    · simp only [hx, if_pos hsame] at h
      cases h
      simp [hx, hsame]
    · simp only [hx, if_neg hsame] at h
      cases h

end WatchLibrary

/-! ### Polls -/

namespace Shutdown

variable {c : WatchLibrary} {v : c.View} {rx rx' : c.Receiver} {w w' : c.World}

theorem look_of_borrowAndUpdate {b : Bool} (h : c.borrowAndUpdate rx w = (b, rx', w')) :
    look rx w = if b then (.ended, w') else await rx' w' := by
  rw [look]
  split
  simp_all

theorem await_of_pending (h : c.changed rx w = (.pending, rx', w')) :
    await rx w = (.pending rx', w') := by
  rw [await]
  split
  all_goals simp_all

theorem await_of_ok {a : Unit} (h : c.changed rx w = (.ready (.ok a), rx', w')) :
    await rx w = look rx' w' := by
  rw [await]
  split
  all_goals simp_all

/-- Waiting ends if the flag is set. Otherwise it goes on with a receiver of the same channel
that has seen the flag as it is. -/
inductive ComesTo (v : c.View) (rx : c.Receiver) (w : c.World) : Waiting c × c.World → Prop
  | ended {w' : c.World} : v.Keeps w w' → c.borrow rx w = true → ComesTo v rx w (.ended, w')
  | pending {rx' : c.Receiver} {w' : c.World} : v.Continues rx w rx' w' → c.borrow rx w = false →
      c.hasChanged rx' w' = false → ComesTo v rx w (.pending rx', w')

namespace ComesTo

variable {polled : Waiting c × c.World}

theorem keeps (h : ComesTo v rx w polled) : v.Keeps w polled.2 := by
  cases h with
  | ended hkeeps _ => exact hkeeps
  | pending hcont _ _ => exact hcont.keeps

theorem ended_iff (h : ComesTo v rx w polled) : polled.1 = .ended ↔ c.borrow rx w = true := by
  cases h with
  | ended _ hset => simp [hset]
  | pending _ hunset _ => simp [hunset]

/-- What continues a receiver can be waited with in its place. -/
theorem of_continues (hv : v.Lawful) (hheld : v.Held rx w) {rx₁ : c.Receiver} {w₁ : c.World}
    (hcont : v.Continues rx w rx₁ w₁) (h : ComesTo v rx₁ w₁ polled) : ComesTo v rx w polled := by
  have hborrow := hcont.borrow hv hheld
  cases h with
  | ended hkeeps hset => exact .ended (hcont.keeps.trans hkeeps) (by rw [← hborrow, hset])
  | pending hon hunset hseen => exact .pending (hcont.trans hon) (by rw [← hborrow, hunset]) hseen

end ComesTo

theorem await_of_seen (hv : v.Lawful) (hheld : v.Held rx w) (hunset : c.borrow rx w = false)
    (hseen : c.hasChanged rx w = false) : ComesTo v rx w (await rx w) := by
  generalize hchanged : c.changed rx w = answer
  obtain ⟨a, rx', w'⟩ := answer
  obtain ⟨hcont, ha⟩ := hv.changed hchanged hheld
  rw [hseen, if_neg Bool.false_ne_true] at ha
  subst ha
  rw [await_of_pending hchanged]
  exact .pending hcont hunset (hv.changed_pending hchanged hheld)

theorem look_comesTo (hv : v.Lawful) (hheld : v.Held rx w) : ComesTo v rx w (look rx w) := by
  generalize hlooked : c.borrowAndUpdate rx w = answer
  obtain ⟨b, rx₁, w₁⟩ := answer
  obtain ⟨hb, hcont⟩ := hv.borrowAndUpdate hlooked hheld
  rw [look_of_borrowAndUpdate hlooked]
  cases b with
  | true => exact .ended hcont.keeps hb.symm
  | false =>
      have hunset : c.borrow rx₁ w₁ = false := by rw [hcont.borrow hv hheld, ← hb]
      have hseen := c.hasChanged_borrowAndUpdate hlooked
      exact (await_of_seen hv hcont.held hunset hseen).of_continues hv hheld hcont

/-- Waiting can be taken up again with a receiver that has not missed that the flag was set. -/
theorem await_comesTo (hv : v.Lawful) (hheld : v.Held rx w)
    (hset : c.borrow rx w = true → c.hasChanged rx w = true) : ComesTo v rx w (await rx w) := by
  cases hhas : c.hasChanged rx w with
  | true =>
      generalize hchanged : c.changed rx w = answer
      obtain ⟨a, rx₁, w₁⟩ := answer
      obtain ⟨hcont, ha⟩ := hv.changed hchanged hheld
      rw [hhas, if_pos rfl] at ha
      subst ha
      rw [await_of_ok hchanged]
      exact (look_comesTo hv hcont.held).of_continues hv hheld hcont
  | false =>
      have hunset : c.borrow rx w = false := by
        apply Bool.eq_false_iff.2
        exact fun h => Bool.false_ne_true (hhas.symm.trans (hset h))
      exact await_of_seen hv hheld hunset hhas

theorem cancelled_comesTo (hv : v.Lawful) {h : Handle c} (hheld : v.Held h.rx w) :
    ComesTo v h.rx w (h.cancelled w) := by
  generalize hcloned : c.clone h.rx w = answer
  obtain ⟨rx₁, w₁⟩ := answer
  have hcont := hv.clone hcloned hheld
  rw [Handle.cancelled, hcloned]
  exact (look_comesTo hv hcont.held).of_continues hv hheld hcont

end Shutdown

end AlertPolicy
