import AlertPolicy.Policy.Loading
import AlertPolicy.Policy.Writing
import Mathlib.Data.List.Forall2

/-!
Documents that are written and read back. How a document is written and how one is read are said
apart, field by field; here the two are shown to agree, whatever library is between them, as long as
that gives back the tree it was given. The readers are compared with nodes that show a tree, since
it is open in which style a library writes a text.
-/

namespace AlertPolicy.Policy

open Yaml

variable {α : Type} {c : Content} {n : Node} {ns : List Node} {pairs : List (Node × Node)}
  {s name : String} {t : Tree} {ts : List Tree} {es : List (String × Tree)}

/-! ### Nodes that show trees -/

theorem exists_scalar_of_shows (h : n.shows (.text s) = true) :
    ∃ plain, n = .scalar none plain s ∧ (plain = true → isAmbiguous s = false) := by
  match n, h with
  | .scalar none plain s', h =>
      simp only [Node.shows, Bool.and_eq_true, beq_iff_eq, Bool.not_eq_true', Bool.and_eq_false_imp]
        at h
      obtain ⟨rfl, hplain⟩ := h
      exact ⟨plain, rfl, hplain⟩

theorem exists_sequence_of_shows (h : n.shows (.list ts) = true) :
    ∃ ns, n = .sequence ns ∧ Node.showsItems ns ts = true := by
  match n, h with
  | .sequence ns, h => exact ⟨ns, rfl, by simpa only [Node.shows] using h⟩

theorem exists_mapping_of_shows (h : n.shows (.fields es) = true) :
    ∃ pairs, n = .mapping pairs ∧ Node.showsEntries pairs es = true := by
  match n, h with
  | .mapping pairs, h => exact ⟨pairs, rfl, by simpa only [Node.shows] using h⟩

theorem isEmpty_or_isNull_of_not_isAmbiguous (h : isAmbiguous s = false) :
    (s.isEmpty || isNull s) = false := by
  simp only [isAmbiguous, Bool.or_eq_false_iff] at h ⊢
  obtain ⟨⟨⟨⟨⟨hnull, -⟩, -⟩, -⟩, -⟩, -⟩ := h
  exact hnull

/-! ### Readers of trees -/

/-- The reader takes the value from every node that shows the tree, and follows no alias for it. -/
def Takes (read : Node → Reading α) (t : Tree) (a : α) : Prop :=
  ∀ n : Node, n.shows t = true → read n = pure a

theorem takes_text (c : Content) (s : String) : Takes (readText c) (.text s) s := by
  intro n h
  obtain ⟨plain, rfl, -⟩ := exists_scalar_of_shows h
  rfl

/-- A text is never mistaken for none, since a plain scalar that shows one is not empty or null. -/
theorem takes_optionalText (c : Content) (s : String) :
    Takes (readOptionalText c) (.text s) (some s) := by
  intro n h
  obtain ⟨plain, rfl, hplain⟩ := exists_scalar_of_shows h
  cases plain with
  | false => rfl
  | true =>
      have hread : readOptionalText c (.scalar none true s) =
          pure (if s.isEmpty || isNull s then none else some s) := rfl
      rw [hread, isEmpty_or_isNull_of_not_isAmbiguous (hplain rfl)]
      rfl

theorem mapM_of_showsItems {read : Node → Reading α} {tree : α → Tree} {as : List α}
    (hread : ∀ a ∈ as, Takes read (tree a) a)
    (h : Node.showsItems ns (as.map tree) = true) : ns.mapM read = pure as := by
  induction ns generalizing as with
  | nil =>
      match as, h with
      | [], _ => rfl
  | cons n ns ih =>
      match as, h with
      | a :: as, h =>
          rw [List.map_cons, Node.showsItems, Bool.and_eq_true] at h
          have hfirst : read n = pure a := hread a List.mem_cons_self n h.1
          have hrest : ns.mapM read = pure as := ih (fun b hb => hread b (.tail a hb)) h.2
          rw [List.mapM_cons, hfirst, hrest, pure_bind, pure_bind]

/-- A list is read item by item. -/
theorem takes_list {read : Node → Reading α} {tree : α → Tree} {as : List α}
    (hread : ∀ a ∈ as, Takes read (tree a) a) :
    Takes (readList c read) (.list (as.map tree)) as := by
  intro n h
  obtain ⟨ns, rfl, hitems⟩ := exists_sequence_of_shows h
  exact mapM_of_showsItems hread hitems

/-! ### Fields -/

/-- Fields as they are read show the entries of a tree, in their order. -/
def FieldsShow (fs : List (String × Node)) (es : List (String × Tree)) : Prop :=
  List.Forall₂ (fun f e => f.1 = e.1 ∧ f.2.shows e.2 = true) fs es

theorem exists_mapM_of_showsEntries (h : Node.showsEntries pairs es = true) :
    ∃ fs, (pairs.mapM fun (key, value) => return (← readText c key, value)) = pure fs ∧
      FieldsShow fs es := by
  induction pairs generalizing es with
  | nil =>
      match es, h with
      | [], _ => exact ⟨[], rfl, .nil⟩
  | cons pair pairs ih =>
      match pair, es, h with
      | (key, value), (name, t) :: es, h =>
          simp only [Node.showsEntries, Bool.and_eq_true] at h
          obtain ⟨⟨hkey, hvalue⟩, hrest⟩ := h
          obtain ⟨fs, hfs, hshow⟩ := ih hrest
          refine ⟨(name, value) :: fs, ?_, .cons ⟨rfl, hvalue⟩ hshow⟩
          rw [List.mapM_cons, hfs]
          dsimp only
          rw [takes_text c name key hkey, pure_bind, pure_bind, pure_bind]

theorem exists_readFields (c : Content) (h : n.shows (.fields es) = true) :
    ∃ fs, readFields c n = pure fs ∧ FieldsShow fs es := by
  obtain ⟨pairs, rfl, hpairs⟩ := exists_mapping_of_shows h
  exact exists_mapM_of_showsEntries hpairs

theorem FieldsShow.filter {fs : List (String × Node)} (h : FieldsShow fs es) (name : String) :
    FieldsShow (fs.filter (·.1 == name)) (es.filter (·.1 == name)) := by
  refine List.rel_filter (fun f e hshow => ?_) h
  change (f.1 == name) = true ↔ (e.1 == name) = true
  rw [hshow.1]

/-- A field that was written is read. -/
theorem readField_of_written {fs : List (String × Node)} {absent : Reading α}
    {read : Node → Reading α} {a : α} (h : FieldsShow fs es)
    (hwritten : es.filter (·.1 == name) = [(name, t)]) (hread : Takes read t a) :
    readField name absent read fs = pure a := by
  have hshow : FieldsShow (fs.filter (·.1 == name)) [(name, t)] := hwritten ▸ h.filter name
  obtain ⟨f, fs', hfirst, hrest, hfilter⟩ := List.forall₂_cons_right_iff.1 hshow
  obtain rfl : fs' = [] := List.forall₂_nil_right_iff.1 hrest
  rw [readField, hfilter]
  exact hread f.2 hfirst.2

/-- A field that was left out has its default. -/
theorem readField_of_left_out {fs : List (String × Node)} {absent : Reading α}
    {read : Node → Reading α} (h : FieldsShow fs es) (hwritten : es.filter (·.1 == name) = []) :
    readField name absent read fs = absent := by
  have hshow : FieldsShow (fs.filter (·.1 == name)) [] := hwritten ▸ h.filter name
  have hfilter : fs.filter (·.1 == name) = [] := List.forall₂_nil_right_iff.1 hshow
  rw [readField, hfilter]

/-! ### Documents -/

theorem takes_rule (c : Content) (r : Rule) : Takes (readRule c) r.tree r := by
  intro n h
  obtain ⟨fs, hfs, hshow⟩ := exists_readFields c h
  have hrecord : readField "record" (pure "") (readText c) fs = pure r.record :=
    readField_of_written hshow rfl (takes_text c r.record)
  have hexpr : readField "expr" failure (readText c) fs = pure r.expr :=
    readField_of_written hshow rfl (takes_text c r.expr)
  rw [readRule, hfs, pure_bind, hrecord, pure_bind, hexpr, pure_bind]

theorem ofList_toList (tags : OrderedSet String) : OrderedSet.ofList tags.toList = tags := by
  refine OrderedSet.eq_of_mem_iff fun s => ?_
  rw [OrderedSet.mem_ofList, OrderedSet.mem_toList]

theorem takes_group (c : Content) (g : Group) : Takes (readGroup c) g.tree g := by
  intro n h
  obtain ⟨fs, hfs, hshow⟩ := exists_readFields c h
  -- Tags and interval may be left out, each without the other, so what stands under a name is
  -- looked for in every tree that the group can have.
  have hname : readField "name" failure (readText c) fs = pure g.name :=
    readField_of_written hshow (by split <;> split <;> rfl) (takes_text c g.name)
  have htags : readField "annotation" (pure []) (readList c (readText c)) fs =
      pure g.annotations.toList := by
    cases hempty : g.annotations.isEmpty with
    | true =>
        have hnone : g.annotations.toList = [] := List.isEmpty_iff.1 hempty
        rw [readField_of_left_out hshow (by rw [if_pos hempty]; split <;> rfl), hnone]
    | false =>
        exact readField_of_written hshow (by rw [if_neg (by simp [hempty])]; split <;> rfl)
          (takes_list fun s _ => takes_text c s)
  have hinterval : readField "interval" (pure none) (readOptionalText c) fs = pure g.interval := by
    cases hgiven : g.interval with
    | none => exact readField_of_left_out hshow (by rw [hgiven]; split <;> rfl)
    | some raw =>
        exact readField_of_written hshow (by rw [hgiven]; split <;> rfl)
          (takes_optionalText c raw)
  have hrules : readField "rules" (pure []) (readList c (readRule c)) fs = pure g.rules :=
    readField_of_written hshow (by split <;> split <;> rfl)
      (takes_list fun r _ => takes_rule c r)
  rw [readGroup, hfs, pure_bind, hname, pure_bind, htags, pure_bind, hinterval, pure_bind, hrules,
    pure_bind, ofList_toList]

theorem takes_document (c : Content) (d : Document) : Takes (readDocument c) d.tree d := by
  intro n h
  obtain ⟨fs, hfs, hshow⟩ := exists_readFields c h
  have hgroups : readField "groups" (pure []) (readList c (readGroup c)) fs = pure d.groups :=
    readField_of_written hshow rfl (takes_list fun g _ => takes_group c g)
  rw [readDocument, hfs, pure_bind, hgroups, pure_bind]

/-! ### Texts -/

theorem ofYaml?_toYaml [Library] {d : Document} (h : Library.ReadsBack d.tree) :
    Document.ofYaml? d.toYaml = some d := by
  obtain ⟨c, hread, hshows⟩ := (Option.any_eq_true _ _).1 h
  rw [Document.ofYaml?, Document.toYaml, hread, Option.bind_some, Document.ofContent?,
    takes_document c d c.root hshows]
  rfl

/-- A document that is written and read again is the same document, with the names, the tags, the
intervals and the rules it had, given or left out. All that is asked of a library is that it reads
back the tree of this document. So loading what was written gives the document if it can be
scheduled, and otherwise fails for the fault that the document has. -/
theorem written_document_is_read_back [Library] (d : Document) (h : Library.ReadsBack d.tree) :
    Document.ofYaml? d.toYaml = some d ∧
      (d.fault? = none → Document.load d.toYaml = .ok d) ∧
      ∀ fault, d.fault? = some fault → Document.load d.toYaml = .error (.invalid fault) := by
  have hread := ofYaml?_toYaml h
  refine ⟨hread, fun hfault => ?_, fun fault hfault => ?_⟩
  · rw [Document.load, hread]
    simp only [hfault]
  · rw [Document.load, hread]
    simp only [hfault]

theorem written_document_is_read_back_with_odd_texts :
    let d : Document := ⟨[⟨"a\nb", .ofList ["null", ""], none, [⟨"", "vm.rx > 1 # x"⟩]⟩]⟩
    let d' : Document := ⟨[⟨"~", .empty, some "", []⟩]⟩
    Library.ReadsBack d.tree ∧ d.fault? = none ∧ Document.ofYaml? d.toYaml = some d ∧
      Document.load d.toYaml = .ok d ∧
      Library.ReadsBack d'.tree ∧ d'.fault? = some (.invalidInterval "~" "") ∧
      Document.ofYaml? d'.toYaml = some d' ∧
      Document.load d'.toYaml = .error (.invalid (.invalidInterval "~" "")) := by
  intro d d'
  have hback : Library.ReadsBack d.tree := by decide +kernel
  have hback' : Library.ReadsBack d'.tree := by decide +kernel
  have hfault : d.fault? = none := by decide +kernel
  have hfault' : d'.fault? = some (.invalidInterval "~" "") := by decide +kernel
  obtain ⟨hread, hload, -⟩ := written_document_is_read_back d hback
  obtain ⟨hread', -, hload'⟩ := written_document_is_read_back d' hback'
  exact ⟨hback, hfault, hread, hload hfault, hback', hfault', hread', hload' _ hfault'⟩

end AlertPolicy.Policy
