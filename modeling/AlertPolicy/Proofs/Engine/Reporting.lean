import AlertPolicy.CommandLine
import AlertPolicy.Proofs.Engine.Interleaving
import AlertPolicy.Proofs.Evaluation.Selection
import AlertPolicy.Proofs.Text.Pieces

/-!
The text of the reports of a run. Each report adds its rendering and a newline, so the text has one
line for each just if no rendering has a newline of its own. Names, records and labels are rendered
as they are; they come from the documents that were in force and from the samples that were given,
and nothing on the way keeps newlines out of them.
-/

namespace AlertPolicy.Engine

open AlertPolicy.Expr CommandLine Policy Sample Store Text Time

/-! ### Lines -/

/-- Reports as text, one after the other. -/
def written (rs : List Report) : String := lines (rs.map Report.textLine)

/-- Nothing that a report shows begins a line of its own. -/
structure SingleLine (r : Report) : Prop where
  group : '\n' ∉ r.group.toList
  record : '\n' ∉ r.record.toList
  labels : ∀ l ∈ r.labels.toList, '\n' ∉ l.text.toList

theorem written_concat (rs : List Report) (r : Report) :
    written (rs ++ [r]) = written rs ++ r.textLine ++ "\n" := by
  simp [written, lines, String.append_assoc]

theorem splitOn_lines (ls : List String) :
    (lines ls).toList.splitOn '\n' = ls.flatMap (fun l => l.toList.splitOn '\n') ++ [[]] := by
  induction ls with
  | nil => rfl
  | cons l ls ih =>
      have hlines : (lines (l :: ls)).toList = l.toList ++ '\n' :: (lines ls).toList := by
        simp [lines]
      rw [hlines, List.splitOn_append_cons_self, ih, List.flatMap_cons, List.append_assoc]

/-- Texts cut at a separator are what they were just if none of them has it. -/
theorem flatMap_splitOn_eq_iff (x : Char) (ls : List (List Char)) :
    ls.flatMap (·.splitOn x) = ls ↔ ∀ l ∈ ls, x ∉ l := by
  constructor
  · intro h l hl
    rw [← h] at hl
    obtain ⟨m, -, hpiece⟩ := List.mem_flatMap.1 hl
    exact not_mem_of_mem_splitOn hpiece
  · intro h
    induction ls with
    | nil => rfl
    | cons l ls ih =>
        rw [List.forall_mem_cons] at h
        rw [List.flatMap_cons, List.splitOn_eq_singleton h.1, ih h.2, List.singleton_append]

theorem not_mem_intercalate {x : Char} {between : List Char} (h : x ∉ between)
    (ls : List (List Char)) : x ∉ between.intercalate ls ↔ ∀ l ∈ ls, x ∉ l := by
  induction ls with
  | nil => simp
  | cons l ls ih =>
      cases ls with
      | nil => simp
      | cons m ms =>
          rw [List.intercalate_cons_cons, List.mem_append, List.mem_append, not_or, not_or, ih]
          simp [h]

theorem newline_not_mem_textLine {r : Report} : '\n' ∉ r.textLine.toList ↔ SingleLine r := by
  have hindex : '\n' ∉ (toString r.index).toList := by
    intro h
    have hdigits : '\n' ∈ Nat.toDigits 10 r.index := by
      rwa [← String.toList_ofList (l := Nat.toDigits 10 r.index), ← Nat.repr_eq_ofList_toDigits]
    exact absurd (Nat.isDigit_of_mem_toDigits (by decide) (by decide) hdigits) (by decide)
  have hlabels : '\n' ∉ (", ".intercalate (r.labels.toList.map Label.text)).toList ↔
      ∀ l ∈ r.labels.toList, '\n' ∉ l.text.toList := by
    rw [String.toList_intercalate, not_mem_intercalate (by decide), List.map_map,
      List.forall_mem_map]
    rfl
  have hparts : '\n' ∉ r.textLine.toList ↔ '\n' ∉ r.group.toList ∧ '\n' ∉ r.record.toList ∧
      ∀ l ∈ r.labels.toList, '\n' ∉ l.text.toList := by
    rw [← hlabels]
    delta Report.textLine
    generalize toString r.index = index at hindex
    generalize ", ".intercalate (r.labels.toList.map Label.text) = shown
    simp [hindex]
  rw [hparts]
  exact ⟨fun h => ⟨h.1, h.2.1, h.2.2⟩, fun h => ⟨h.group, h.record, h.labels⟩⟩

/-- The lines of a text are those of the renderings, one after the other; and they are the renderings
themselves just if every report is on a single line. -/
theorem splitOn_written (rs : List Report) :
    (written rs).toList.splitOn '\n' =
      rs.flatMap (fun r => r.textLine.toList.splitOn '\n') ++ [[]] := by
  rw [written, splitOn_lines, List.flatMap_map]

theorem splitOn_written_eq_iff {rs : List Report} :
    (written rs).toList.splitOn '\n' = rs.map (·.textLine.toList) ++ [[]] ↔
      ∀ r ∈ rs, SingleLine r := by
  have hpieces := flatMap_splitOn_eq_iff '\n' (rs.map (·.textLine.toList))
  rw [List.flatMap_map, List.forall_mem_map] at hpieces
  simp only [newline_not_mem_textLine] at hpieces
  rw [splitOn_written, List.append_cancel_right_eq]
  exact hpieces

/-! ### Where reports come from -/

/-- The report is that of a rule of the document, and each of its labels is that of samples that one
of the sources gave. -/
structure Stems (d : Document) (given : Source → Prop) (r : Report) : Prop where
  rule : ∃ g ∈ d.groups, ∃ rule ∈ g.rules, r.group = g.name ∧ r.record = rule.record
  labels : ∀ l ∈ r.labels.toList, ∃ source, given source ∧
    ∃ v series, source v = .ok series ∧ ∃ x ∈ series, x.label = l

theorem label_of_evaluate {c : Condition} {series : List Series} {labels : OrderedSet Label}
    (h : c.evaluate series = .ok labels) {l : Label} (hl : l ∈ labels.toList) :
    ∃ x ∈ series, x.label = l := by
  cases ht : c.threshold with
  | error e =>
      rw [evaluate_eq, ht] at h
      cases h
  | ok t =>
      rw [evaluate_of_threshold ht] at h
      cases h
      obtain ⟨v, ⟨-, x, hx, hlabel, -⟩, -⟩ := (mem_selected (isNaN_of_threshold ht)).1 hl
      exact ⟨x, hx, hlabel⟩

theorem stems_of_evaluateRule {d : Document} {given : Source → Prop} {source : Source}
    {time : Instant} {g : Group} {i : Nat} {rule : Rule} {r : Report} (hsource : given source)
    (hg : g ∈ d.groups) (hrule : rule ∈ g.rules)
    (h : (evaluateRule source time g i rule).result = .ok r) : Stems d given r := by
  cases standing rule with
  | unreadable e he =>
      rw [evaluateRule_unreadable he] at h
      cases h
  | unbounded c e hc he =>
      rw [evaluateRule_unbounded hc he] at h
      cases h
  | literal c t hc ht hleft =>
      rw [evaluateRule_literal hc ht hleft] at h
      cases h
  | watching c v hw =>
      cases hv : source v with
      | error e =>
          rw [evaluateRule_failed hw hv] at h
          cases h
      | ok series =>
          obtain ⟨labels, hlabels⟩ := evaluate_of_isFiniteNumber hw.bounded series
          rw [evaluateRule_reported hw hv hlabels] at h
          cases h
          refine ⟨⟨g, hg, rule, hrule, rfl, rfl⟩, fun l hl => ?_⟩
          exact ⟨source, hsource, v, series, hv, label_of_evaluate hlabels hl⟩

theorem result_of_report? {o : Outcome} {r : Report} (h : o.report? = some r) :
    o.result = .ok r := by
  cases hresult : o.result with
  | ok x =>
      rw [Outcome.report?, hresult] at h
      cases h
      rfl
  | error f =>
      rw [Outcome.report?, hresult] at h
      cases h

namespace Tick

theorem reports_settle (t : Tick) (o : Outcome) :
    (t.settle o).reports = t.reports ++ o.report?.toList := by
  obtain ⟨group, index, rule, fetched, result⟩ := o
  cases result with
  | ok r => simp [settle, report, reports, Effect.report?, Outcome.report?, Except.toOption]
  | error f =>
      simp [settle, fail, reports, Outcome.report?, Except.toOption, List.filterMap_map,
        Function.comp_def, Effect.report?]

theorem reports_fetch (t : Tick) (fetched : Option String) :
    (t.fetch fetched).reports = t.reports := by
  simp [fetch, reports, List.filterMap_map, Function.comp_def, Effect.report?]

end Tick

namespace Interplay

variable {w w' : Interplay} {t : Turn} {brought : Document → Prop} {given : Source → Prop}

/-- The reports of all ticks that have begun, in the order in which they were handed over. -/
def reports (w : Interplay) : List Report := w.visits.flatMap (·.tick.reports)

/-- The document of the tick was brought, and what the tick reports stems from it. -/
structure Fit (brought : Document → Prop) (given : Source → Prop) (v : Visit) : Prop where
  document : brought v.document
  reports : ∀ r ∈ v.tick.reports, Stems v.document given r

/-- What is left to do leads to reports that stem from the document. -/
def Promises (d : Document) (given : Source → Prop) : Task → Prop
  | .look g _ rule => g ∈ d.groups ∧ rule ∈ g.rules
  | .settle o => ∀ r, o.result = .ok r → Stems d given r
  | .close _ => True

/-- All that is under way stems from documents that were brought and sources that were given. -/
structure Supplied (brought : Document → Prop) (given : Source → Prop) (w : Interplay) : Prop where
  holds : ∀ d, w.Holds d → brought d
  visits : ∀ v ∈ w.visits, Fit brought given v
  left : ∀ v left, w.tick = .working v left → ∀ task ∈ left, Promises v.document given task

theorem visits_of_visit {v : Visit} (h : w.tick.visit? = some v) : w.visits = w.done ++ [v] := by
  rw [Interplay.visits, h]
  rfl

theorem reports_of_visit {v : Visit} (h : w.tick.visit? = some v) :
    w.reports = w.done.flatMap (·.tick.reports) ++ v.tick.reports := by
  rw [reports, visits_of_visit h, List.flatMap_append, List.flatMap_singleton]

theorem promises_groupTasks {d : Document} {g : Group} (hg : g ∈ d.groups) :
    ∀ task ∈ groupTasks g, Promises d given task := by
  intro task htask
  rcases mem_groupTasks.1 htask with ⟨i, rule, hrule, rfl⟩ | rfl
  · exact ⟨hg, List.mem_of_getElem? hrule⟩
  · trivial

/-- The tick that works goes on with the same document. -/
theorem Supplied.work (hw : Supplied brought given w) {v v' : Visit} {left left' : List Task}
    (htick : w.tick = .working v left) (htick' : w'.tick = .working v' left')
    (hdone : w'.done = w.done) (hholds : ∀ d, w'.Holds d → brought d)
    (hdocument : v'.document = v.document)
    (hreports : ∀ r ∈ v'.tick.reports, r ∈ v.tick.reports ∨ Stems v.document given r)
    (hleft : ∀ task ∈ left', task ∈ left ∨ Promises v.document given task) :
    Supplied brought given w' := by
  have hvisits : w.visits = w.done ++ [v] := visits_of_visit (by rw [htick]; rfl)
  have hvisits' : w'.visits = w.done ++ [v'] := by
    rw [← hdone]
    exact visits_of_visit (by rw [htick']; rfl)
  have hfit := hw.visits
  rw [hvisits, List.forall_mem_append, List.forall_mem_singleton] at hfit
  refine ⟨hholds, ?_, ?_⟩
  · rw [hvisits', List.forall_mem_append, List.forall_mem_singleton]
    refine ⟨hfit.1, ?_, ?_⟩
    · rw [hdocument]
      exact hfit.2.document
    · intro r hr
      rw [hdocument]
      cases hreports r hr with
      | inl h => exact hfit.2.reports r h
      | inr h => exact h
  · intro u more hu task htask
    rw [htick'] at hu
    cases hu
    rw [hdocument]
    cases hleft task htask with
    | inl h => exact hw.left v left htick task h
    | inr h => exact h

variable [Yaml.Library]

theorem Turned.supplied (h : Turned w t w') (hw : Supplied brought given w)
    (hload : ∀ file d, t = .load file → Document.loadFile file = .ok d → brought d)
    (hwork : ∀ source, t = .work source → given source) : Supplied brought given w' := by
  have hholds (d : Document) (hd : w'.Holds d) : brought d := by
    rcases h.holds hd with hd | ⟨file, ht, hfile⟩
    · exact hw.holds d hd
    · exact hload file d ht hfile
  cases h with
  | begin time htick =>
      have hdone := hw.visits
      rw [visits_of_idle htick] at hdone
      refine ⟨hholds, ?_, fun u left hu => by cases hu⟩
      change ∀ v ∈ w.done ++ [_], Fit brought given v
      rw [List.forall_mem_append, List.forall_mem_singleton]
      exact ⟨hdone, hw.holds _ (.inl rfl), fun r hr => absurd hr List.not_mem_nil⟩
  | @readDue v htick =>
      have hvisits : w.visits = w.done ++ [v] := visits_of_visit (by rw [htick]; rfl)
      have hfit := hw.visits
      rw [hvisits] at hfit
      refine ⟨hholds, hfit, ?_⟩
      intro u left hu task htask
      cases hu
      obtain ⟨g, hg, htask⟩ := List.mem_flatMap.1 htask
      exact promises_groupTasks (mem_of_group? hg) task htask
  | @look v g i r left o source htick ho =>
      refine hw.work htick rfl rfl hholds rfl ?_ ?_
      · intro r hr
        rw [Tick.reports_fetch] at hr
        exact .inl hr
      · intro task htask
        have hlook := hw.left v _ htick _ List.mem_cons_self
        cases htask with
        | head =>
            refine .inr fun r hr => ?_
            rw [ho] at hr
            exact stems_of_evaluateRule (hwork source rfl) hlook.1 hlook.2 hr
        | tail _ h => exact .inl (List.mem_cons_of_mem _ h)
  | @settle v o left source htick =>
      refine hw.work htick rfl rfl hholds rfl ?_ fun task h => .inl (List.mem_cons_of_mem _ h)
      intro r hr
      rw [Tick.reports_settle, List.mem_append, Option.mem_toList] at hr
      cases hr with
      | inl h => exact .inl h
      | inr h =>
          have hsettle := hw.left v _ htick _ List.mem_cons_self
          exact .inr (hsettle r (result_of_report? h))
  | @close v g left source htick =>
      exact hw.work htick rfl rfl hholds rfl (fun r hr => .inl hr)
        fun task h => .inl (List.mem_cons_of_mem _ h)
  | @finish v source htick =>
      have hvisits : w.visits = w.done ++ [v] := visits_of_visit (by rw [htick]; rfl)
      have hfit := hw.visits
      rw [hvisits] at hfit
      refine ⟨hholds, ?_, fun u left hu => by cases hu⟩
      rw [visits_of_idle rfl]
      exact hfit
  | _ => exact ⟨hholds, hw.visits, hw.left⟩

theorem Supplied.play (hw : Supplied brought given w) (turns : List Turn)
    (hload : ∀ file d, .load file ∈ turns → Document.loadFile file = .ok d → brought d)
    (hwork : ∀ source, .work source ∈ turns → given source) :
    Supplied brought given (w.play turns) := by
  induction turns generalizing w with
  | nil => exact hw
  | cons t ts ih =>
      have hnext : Supplied brought given (w.turn t) := by
        refine (turned w t).supplied hw ?_ ?_
        · intro file d ht
          exact hload file d (ht ▸ List.mem_cons_self)
        · intro source ht
          exact hwork source (ht ▸ List.mem_cons_self)
      exact ih hnext (fun file d h => hload file d (List.mem_cons_of_mem _ h))
        fun source h => hwork source (List.mem_cons_of_mem _ h)

/-- A step hands over one report at most. -/
theorem Turned.reports (h : Turned w t w') :
    w'.reports = w.reports ∨ ∃ r, w'.reports = w.reports ++ [r] := by
  cases h with
  | begin time htick =>
      refine .inl ?_
      rw [reports_of_visit rfl, Interplay.reports, visits_of_idle htick]
      exact List.append_nil _
  | readDue htick =>
      refine .inl ?_
      rw [reports_of_visit rfl, reports_of_visit (by rw [htick]; rfl)]
  | @look v g i r left o source htick ho =>
      refine .inl ?_
      rw [reports_of_visit rfl, reports_of_visit (v := v) (by rw [htick]; rfl), Tick.reports_fetch]
  | @settle v o left source htick =>
      rw [reports_of_visit rfl, reports_of_visit (v := v) (by rw [htick]; rfl), Tick.reports_settle,
        ← List.append_assoc]
      cases o.report? with
      | none => exact .inl (List.append_nil _)
      | some r => exact .inr ⟨r, rfl⟩
  | @close v g left source htick =>
      refine .inl ?_
      rw [reports_of_visit rfl, reports_of_visit (v := v) (by rw [htick]; rfl)]
      rfl
  | @finish v source htick =>
      refine .inl ?_
      rw [Interplay.reports, visits_of_idle rfl, Interplay.reports,
        visits_of_visit (v := v) (by rw [htick]; rfl)]
  | _ => exact .inl rfl

end Interplay

/-- The documents that a run can have in force: the one at its start and those that it loads. -/
def Brought [Yaml.Library] (s : State) (turns : List Turn) (d : Document) : Prop :=
  d = s.document ∨ ∃ file, .load file ∈ turns ∧ Document.loadFile file = .ok d

/-- Some fetch of the run is answered by the source. -/
def Given (turns : List Turn) (source : Source) : Prop := .work source ∈ turns

theorem supplied_play [Yaml.Library] (s : State) (turns : List Turn) :
    Interplay.Supplied (Brought s turns) (Given turns) ((Interplay.start s).play turns) := by
  refine Interplay.Supplied.play ?_ turns ?_ fun source h => h
  · refine ⟨?_, fun v hv => absurd hv List.not_mem_nil, fun v left h => by cases h⟩
    intro d hd
    rcases hd with rfl | hd | hd
    · exact .inl rfl
    · cases hd
    · cases hd
  · exact fun file d hmem hload => .inr ⟨file, hmem, hload⟩

/-- No name of a group or record of the document begins another line. -/
def SingleLineNames (d : Document) : Prop :=
  ∀ g ∈ d.groups, '\n' ∉ g.name.toList ∧ ∀ rule ∈ g.rules, '\n' ∉ rule.record.toList

def SingleLineLabels (source : Source) : Prop :=
  ∀ v series, source v = .ok series → ∀ x ∈ series, '\n' ∉ x.label.text.toList

theorem Stems.singleLine {d : Document} {given : Source → Prop} {r : Report} (h : Stems d given r)
    (hd : SingleLineNames d) (hgiven : ∀ source, given source → SingleLineLabels source) :
    SingleLine r := by
  obtain ⟨g, hg, rule, hrule, hgroup, hrecord⟩ := h.rule
  refine ⟨?_, ?_, ?_⟩
  · rw [hgroup]
    exact (hd g hg).1
  · rw [hrecord]
    exact (hd g hg).2 rule hrule
  · intro l hl
    obtain ⟨source, hsource, v, series, hv, x, hx, rfl⟩ := h.labels l hl
    exact hgiven source hsource v series hv x hx

/-- In any run, with reloads amid its ticks and an answer of its own for every fetch, a step adds the
rendering of one report and a newline to the text, or nothing. The lines of the text are those of the
renderings, one after the other, and so there is one line for each report, which is its rendering,
just if no report shows a newline. What a report shows is from a document that was brought and from
samples that were given, so that this holds if there is no newline in any of these. -/
theorem reports_take_one_line_each_iff [Yaml.Library] (s : State) (turns : List Turn) :
    let w := (Interplay.start s).play turns
    let cut := (written w.reports).toList.splitOn '\n'
    let shown := w.reports.map (·.textLine.toList)
    (∀ t, written (w.turn t).reports = written w.reports ∨ ∃ r,
      (w.turn t).reports = w.reports ++ [r] ∧
        written (w.turn t).reports = written w.reports ++ r.textLine ++ "\n") ∧
    cut = shown.flatMap (·.splitOn '\n') ++ [[]] ∧
    (cut = shown ++ [[]] ↔ ∀ r ∈ w.reports, SingleLine r) ∧
    (∀ r ∈ w.reports, ∃ d, Brought s turns d ∧ Stems d (Given turns) r) ∧
    ((∀ d, Brought s turns d → SingleLineNames d) →
      (∀ source, Given turns source → SingleLineLabels source) → cut = shown ++ [[]]) := by
  intro w cut shown
  have hsupplied : Interplay.Supplied (Brought s turns) (Given turns) w := supplied_play s turns
  have hstems : ∀ r ∈ w.reports, ∃ d, Brought s turns d ∧ Stems d (Given turns) r := by
    intro r hr
    obtain ⟨v, hv, hr⟩ := List.mem_flatMap.1 hr
    have hfit := hsupplied.visits v hv
    exact ⟨v.document, hfit.document, hfit.reports r hr⟩
  refine ⟨?_, ?_, splitOn_written_eq_iff, hstems, ?_⟩
  · intro t
    cases (Interplay.turned w t).reports with
    | inl h => exact .inl (by rw [h])
    | inr h =>
        obtain ⟨r, h⟩ := h
        exact .inr ⟨r, h, by rw [h, written_concat]⟩
  · change (written w.reports).toList.splitOn '\n' = _
    rw [splitOn_written, List.flatMap_map]
  · intro hnames hlabels
    refine splitOn_written_eq_iff.2 fun r hr => ?_
    obtain ⟨d, hd, h⟩ := hstems r hr
    exact h.singleLine (hnames d hd) hlabels

/-- A step of each kind that a tick of one rule takes. -/
def oneRuleTurns (source : Source) : List Turn :=
  [.begin ⟨0⟩, .readDue, .work source, .work source, .work source, .work source]

theorem reports_take_one_line_each_of_tap :
    let source : Source := fun _ => .ok [⟨⟨"vm", some "tap"⟩, []⟩]
    let s := State.ofDocument ⟨[⟨"a", .empty, none, [⟨"r", "vm.rx > 1"⟩]⟩]⟩
    let w := (Interplay.start s).play (oneRuleTurns source)
    w.reports.length = 1 ∧ (written w.reports).toList.splitOn '\n' =
      w.reports.map (·.textLine.toList) ++ [[]] := by
  intro source s w
  obtain ⟨-, -, -, -, hlines⟩ := reports_take_one_line_each_iff s (oneRuleTurns source)
  refine ⟨by decide +kernel, hlines ?_ ?_⟩
  · intro d hd
    rcases hd with rfl | ⟨file, hfile, -⟩
    · intro g hg
      cases List.mem_singleton.1 hg
      exact ⟨by decide, by decide⟩
    · simp [oneRuleTurns] at hfile
  · intro given hgiven v series hseries x hx
    have heq : given = source := by simpa [Given, oneRuleTurns] using hgiven
    subst heq
    cases hseries
    cases List.mem_singleton.1 hx
    decide

/-- A name with a newline is accepted, and the text of the one report is then that of two reports on
other groups. A key with a newline gives a label with one, too. -/
theorem newline_in_name_forges_line :
    let yaml := "groups:\n- name: \"a[0] r: []\\ntransmit: b\"\n  rules:\n" ++
      "  - record: s\n    expr: vm.rx > 1\n"
    let d : Document := ⟨[⟨"a[0] r: []\ntransmit: b", .empty, none, [⟨"s", "vm.rx > 1"⟩]⟩]⟩
    let others : List Report :=
      [⟨"a", 0, "r", .empty, .empty, ⟨0⟩⟩, ⟨"b", 0, "s", .empty, .empty, ⟨0⟩⟩]
    let source : Source := fun _ => .ok []
    let w := (Interplay.start (.ofDocument d)).play (oneRuleTurns source)
    Document.load yaml = .ok d ∧ w.reports.length = 1 ∧
      written w.reports = "transmit: a[0] r: []\ntransmit: b[0] s: []\n" ∧
      written w.reports = written others ∧
      (written w.reports).toList.splitOn '\n' ≠ w.reports.map (·.textLine.toList) ++ [[]] ∧
      (labelOfKey? "collectd/a\nb/virt/if_octets-t").map Label.text = some "a\nb/t" := by
  intro yaml d others source w
  refine ⟨?_, ?_, ?_, ?_, ?_, ?_⟩
  all_goals decide +kernel

end AlertPolicy.Engine
