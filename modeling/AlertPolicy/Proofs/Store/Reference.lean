import AlertPolicy.Proofs.Text.Pieces
import AlertPolicy.Store.Variable

/-!
What texts denote references, said without reading them: `vm`, the names that narrow the reference
and the field, each behind a point. The field may be left out where the last name is not that of a
field, so a text denotes one reference at most.
-/

namespace AlertPolicy.Store

variable {s : String} {v : VariableRef} {scope : Scope} {field : Field}
  {ps front : List (List Char)}

/-- A text that can stand between points. -/
def IsName (s : String) : Prop := s ≠ "" ∧ '.' ∉ s.toList

namespace Scope

/-- The names that narrow a reference, that of the machine first. -/
def names : Scope → List String
  | everything => []
  | resource r => [r]
  | interface r i => [r, i]

/-- The names as the segments that they are read from. -/
def segments (scope : Scope) : List (List Char) := scope.names.map String.toList

/-- The names, each behind a point. -/
def text : Scope → String
  | everything => ""
  | resource r => "." ++ r
  | interface r i => "." ++ r ++ "." ++ i

def Nameable (scope : Scope) : Prop := ∀ name ∈ scope.names, IsName name

end Scope

/-- The text denotes the reference. -/
inductive Denotes (s : String) : VariableRef → Prop where
  | written (scope : Scope) (field : Field) (nameable : scope.Nameable)
      (text : s = "vm" ++ scope.text ++ "." ++ field.name) : Denotes s ⟨scope, field⟩
  | unwritten (scope : Scope) (nameable : scope.Nameable) (text : s = "vm" ++ scope.text)
      (last : ∀ field : Field, scope.names.getLast? ≠ some field.name) :
      Denotes s ⟨scope, .received⟩

/-! ### Segments -/

namespace Scope

theorem toList_text (scope : Scope) : scope.text.toList = scope.segments.flatMap ('.' :: ·) := by
  cases scope with
  | everything => rfl
  | resource r => simp [text, segments, names]
  | interface r i => simp [text, segments, names]

theorem ofSegments?_eq_some :
    ofSegments? ps = some scope ↔
      ps = scope.segments ∧ ∀ name ∈ scope.names, name ≠ "" := by
  constructor
  · intro h
    rcases ps with - | ⟨r, - | ⟨i, - | ⟨c, rest⟩⟩⟩
    · cases h
      exact ⟨rfl, by simp [names]⟩
    · simp only [ofSegments?] at h
      split at h
      · contradiction
      · next hr =>
        cases h
        simp only [List.isEmpty_iff] at hr
        simp [Scope.segments, names, hr]
    · simp only [ofSegments?] at h
      split at h
      · contradiction
      · next hri =>
        cases h
        simp only [Bool.or_eq_true, List.isEmpty_iff, not_or] at hri
        simp [Scope.segments, names, hri.1, hri.2]
    · contradiction
  · rintro ⟨rfl, hne⟩
    cases scope with
    | everything => rfl
    | resource r =>
        have hr : r ≠ "" := hne r (by simp [names])
        simp [Scope.segments, names, ofSegments?, hr]
    | interface r i =>
        have hr : r ≠ "" := hne r (by simp [names])
        have hi : i ≠ "" := hne i (by simp [names])
        simp [Scope.segments, names, ofSegments?, hr, hi]

/-- The names of a scope are known by its segments. -/
theorem getLast?_segments :
    scope.segments.getLast? = some field.name.toList ↔ scope.names.getLast? = some field.name := by
  rw [Scope.segments, List.getLast?_map, Option.map_eq_some_iff]
  simp only [String.toList_inj, exists_eq_right]

theorem mem_names_of_resource? {r : String} (h : scope.resource? = some r) : r ∈ scope.names := by
  cases scope with
  | everything => contradiction
  | resource | interface =>
      cases h
      exact List.mem_cons_self

theorem mem_names_of_interface? {i : String} (h : scope.interface? = some i) :
    i ∈ scope.names := by
  cases scope with
  | everything | resource => contradiction
  | interface =>
      cases h
      exact List.mem_cons_of_mem _ List.mem_cons_self

theorem nameable_iff :
    scope.Nameable ↔ (∀ name ∈ scope.names, name ≠ "") ∧ ∀ p ∈ scope.segments, '.' ∉ p := by
  simp only [Nameable, IsName, Scope.segments, List.forall_mem_map, ← forall₂_and]

/-- What is left of a scope whose last name is that of a field. -/
theorem exists_text_of_getLast? (h : scope.names.getLast? = some field.name)
    (hn : scope.Nameable) :
    ∃ wider : Scope, wider.Nameable ∧ scope.text = wider.text ++ "." ++ field.name := by
  cases scope with
  | everything => contradiction
  | resource r =>
      cases h
      exact ⟨.everything, by simp [Nameable, names], rfl⟩
  | interface r i =>
      cases h
      refine ⟨.resource r, fun name hname => hn name ?_, rfl⟩
      exact List.mem_cons.2 (.inl (List.mem_singleton.1 hname))

end Scope

theorem Denotes.mem {name : String} {c : Char} (h : Denotes s v) (hname : name ∈ v.scope.names)
    (hc : c ∈ name.toList) : c ∈ s.toList := by
  have htext : c ∈ v.scope.text.toList := by
    rw [Scope.toList_text, List.mem_flatMap]
    exact ⟨name.toList, List.mem_map_of_mem hname, List.mem_cons_of_mem _ hc⟩
  cases h with
  | written scope field hn hs =>
      rw [hs, String.append_assoc, String.append_assoc, String.toList_append, String.toList_append]
      exact List.mem_append_right _ (List.mem_append_left _ htext)
  | unwritten scope hn hs hlast =>
      rw [hs, String.toList_append]
      exact List.mem_append_right _ htext

theorem Denotes.nameable (h : Denotes s v) : v.scope.Nameable := by
  cases h with
  | written scope field hn hs => exact hn
  | unwritten scope hn hs hlast => exact hn

namespace VariableRef

theorem splitField_concat (front : List (List Char)) (field : Field) :
    splitField (front ++ [field.name.toList]) = (front, field) := by
  cases field <;> simp [splitField, Field.name]

theorem splitField_of_getLast? (h : ∀ field : Field, ps.getLast? ≠ some field.name.toList) :
    splitField ps = (ps, .received) := by
  rw [splitField]
  split
  · next hlast => exact absurd hlast (h .received)
  · next hlast => exact absurd hlast (h .sent)
  · rfl

theorem splitField_eq_iff :
    splitField ps = (front, field) ↔
      ps = front ++ [field.name.toList] ∨
        ps = front ∧ field = .received ∧
          ∀ f : Field, front.getLast? ≠ some f.name.toList := by
  constructor
  · intro h
    by_cases hlast : ∃ f : Field, ps.getLast? = some f.name.toList
    · obtain ⟨f, hf⟩ := hlast
      obtain ⟨init, rfl⟩ := List.getLast?_eq_some_iff.1 hf
      rw [splitField_concat] at h
      cases h
      exact .inl rfl
    · rw [splitField_of_getLast? (not_exists.1 hlast)] at h
      cases h
      exact .inr ⟨rfl, rfl, not_exists.1 hlast⟩
  · rintro (rfl | ⟨rfl, rfl, hlast⟩)
    · exact splitField_concat front field
    · exact splitField_of_getLast? hlast

/-! ### Reading -/

theorem parse_eq_ok_iff_splitOn :
    parse s = .ok v ↔
      ∃ ps, s.toList.splitOn '.' = ['v', 'm'] :: ps ∧
        splitField ps = (v.scope.segments, v.field) ∧ ∀ name ∈ v.scope.names, name ≠ "" := by
  constructor
  · intro h
    rw [parse] at h
    split at h
    · next ps hsplit =>
      dsimp only at h
      split at h
      · next scope hscope =>
        cases h
        obtain ⟨hsegments, hne⟩ := Scope.ofSegments?_eq_some.1 hscope
        exact ⟨ps, hsplit, Prod.ext hsegments rfl, hne⟩
      · contradiction
    · contradiction
  · rintro ⟨ps, hsplit, hfield, hne⟩
    have hscope : Scope.ofSegments? v.scope.segments = some v.scope :=
      Scope.ofSegments?_eq_some.2 ⟨rfl, hne⟩
    simp only [parse, hsplit, hfield, hscope]

/-- A text with its field left out or written is read from the segments that it shows. -/
theorem splitOn_unwritten (hs : s = "vm" ++ scope.text) (hn : scope.Nameable) :
    s.toList.splitOn '.' = ['v', 'm'] :: scope.segments := by
  rw [Text.splitOn_eq_cons_iff, hs, String.toList_append, Scope.toList_text, List.forall_mem_cons]
  exact ⟨rfl, by decide, (Scope.nameable_iff.1 hn).2⟩

theorem splitOn_written (hs : s = "vm" ++ scope.text ++ "." ++ field.name) (hn : scope.Nameable) :
    s.toList.splitOn '.' = ['v', 'm'] :: (scope.segments ++ [field.name.toList]) := by
  have hname : '.' ∉ field.name.toList := by cases field <;> decide
  rw [Text.splitOn_eq_cons_iff, hs, String.toList_append, String.toList_append,
    String.toList_append, Scope.toList_text, List.flatMap_append, List.forall_mem_cons,
    List.forall_mem_append, List.forall_mem_singleton]
  refine ⟨?_, by decide, (Scope.nameable_iff.1 hn).2, hname⟩
  simp

theorem parse_eq_ok_iff : parse s = .ok v ↔ Denotes s v := by
  rw [parse_eq_ok_iff_splitOn]
  constructor
  · rintro ⟨ps, hsplit, hfield, hne⟩
    obtain ⟨htext, hpoint⟩ := Text.splitOn_eq_cons_iff.1 hsplit
    rw [List.forall_mem_cons] at hpoint
    rcases splitField_eq_iff.1 hfield with rfl | ⟨rfl, hreceived, hlast⟩
    · have hn : v.scope.Nameable :=
        Scope.nameable_iff.2 ⟨hne, fun p hp => hpoint.2 p (List.mem_append_left _ hp)⟩
      refine .written v.scope v.field hn ?_
      rw [← String.toList_inj, htext, String.toList_append, String.toList_append,
        String.toList_append, Scope.toList_text]
      simp
    · have hn : v.scope.Nameable := Scope.nameable_iff.2 ⟨hne, hpoint.2⟩
      have heq : v = ⟨v.scope, .received⟩ := by rw [← hreceived]
      rw [heq]
      refine .unwritten v.scope hn ?_ fun field hfield => hlast field ?_
      · rw [← String.toList_inj, htext, String.toList_append, Scope.toList_text]
        rfl
      · exact Scope.getLast?_segments.2 hfield
  · intro h
    cases h with
    | written scope field hn hs =>
        exact ⟨_, splitOn_written hs hn, splitField_concat _ _, (Scope.nameable_iff.1 hn).1⟩
    | unwritten scope hn hs hlast =>
        refine ⟨_, splitOn_unwritten hs hn, splitField_of_getLast? ?_, (Scope.nameable_iff.1 hn).1⟩
        exact fun field hfield => hlast field (Scope.getLast?_segments.1 hfield)

/-- A last segment that names a field is the field. -/
theorem parse_of_field {front : String} (h : parse s = .ok v)
    (hs : s = front ++ "." ++ field.name) :
    v.field = field ∧ front = "vm" ++ v.scope.text := by
  obtain ⟨ps, hsplit, hfield, -⟩ := parse_eq_ok_iff_splitOn.1 h
  have hname : '.' ∉ field.name.toList := by cases field <;> decide
  have hcut : s.toList.splitOn '.' = front.toList.splitOn '.' ++ [field.name.toList] := by
    rw [hs, String.toList_append, String.toList_append, List.append_assoc]
    change List.splitOn '.' (front.toList ++ '.' :: field.name.toList) = _
    rw [List.splitOn_append_cons_self, List.splitOn_eq_singleton hname]
  obtain ⟨p, qs, hfront⟩ := List.exists_cons_of_ne_nil (List.splitOn_ne_nil '.' front.toList)
  rw [hcut, hfront, List.cons_append] at hsplit
  cases hsplit
  rw [splitField_concat] at hfield
  cases hfield
  refine ⟨rfl, ?_⟩
  rw [← String.toList_inj, (Text.splitOn_eq_cons_iff.1 hfront).1, String.toList_append,
    Scope.toList_text]
  rfl

theorem parse_eq_error {e : StoreError} (h : parse s = .error e) : e = .invalidVariable s := by
  rw [parse] at h
  split at h
  · dsimp only at h
    split at h
    · contradiction
    · exact (Except.error.inj h).symm
  · exact (Except.error.inj h).symm

theorem source_eq (v : VariableRef) : v.source = "vm" ++ v.scope.text ++ "." ++ v.field.name := by
  obtain ⟨scope, field⟩ := v
  rw [← String.toList_inj]
  cases scope <;> simp [source, Scope.text]

/-- The texts that denote references are the ones that are read, each as what it denotes, and the
error about any other carries that text. So a reference with its field written out is read back,
and a last segment that names a field is never the name of a machine or of an interface. -/
theorem references_are_unambiguous :
    (∀ s, (∃ v, parse s = .ok v) ↔ ∃ scope : Scope, scope.Nameable ∧
      (s = "vm" ++ scope.text ∨ ∃ field : Field, s = "vm" ++ scope.text ++ "." ++ field.name)) ∧
    (∀ s v, parse s = .ok v ↔ Denotes s v) ∧
    (∀ front v (field : Field), parse (front ++ "." ++ field.name) = .ok v →
      v.field = field ∧ front = "vm" ++ v.scope.text) ∧
    (∀ v : VariableRef, v.scope.Nameable → parse v.source = .ok v) ∧
    ∀ s e, parse s = .error e → e = .invalidVariable s := by
  refine ⟨fun s => ⟨?_, ?_⟩, fun s v => parse_eq_ok_iff, fun front v field h => ?_, fun v hn => ?_,
    fun s e => parse_eq_error⟩
  · rintro ⟨v, h⟩
    cases parse_eq_ok_iff.1 h with
    | written scope field hn hs => exact ⟨scope, hn, .inr ⟨field, hs⟩⟩
    | unwritten scope hn hs hlast => exact ⟨scope, hn, .inl hs⟩
  · rintro ⟨scope, hn, hs | ⟨field, hs⟩⟩
    · by_cases hlast : ∃ field : Field, scope.names.getLast? = some field.name
      · -- The last name is read as the field, so the reference is wider than the names suggest.
        obtain ⟨field, hfield⟩ := hlast
        obtain ⟨wider, hwider, htext⟩ := Scope.exists_text_of_getLast? hfield hn
        refine ⟨⟨wider, field⟩, parse_eq_ok_iff.2 (.written wider field hwider ?_)⟩
        rw [hs, htext, String.append_assoc, String.append_assoc, String.append_assoc]
      · exact ⟨_, parse_eq_ok_iff.2 (.unwritten scope hn hs (not_exists.1 hlast))⟩
    · exact ⟨_, parse_eq_ok_iff.2 (.written scope field hn hs)⟩
  · exact parse_of_field h rfl
  · exact parse_eq_ok_iff.2 (.written v.scope v.field hn (source_eq v))

theorem references_are_unambiguous_among_names_of_fields :
    parse "vm.tx.rx.tx" = .ok ⟨.interface "tx" "rx", .sent⟩ ∧
      parse "vm.tx.rx" = .ok ⟨.resource "tx", .received⟩ := by
  obtain ⟨-, -, -, hsource, -⟩ := references_are_unambiguous
  constructor
  · exact hsource ⟨.interface "tx" "rx", .sent⟩ (by simp [Scope.Nameable, Scope.names, IsName])
  · exact hsource ⟨.resource "tx", .received⟩ (by simp [Scope.Nameable, Scope.names, IsName])

end VariableRef

end AlertPolicy.Store
