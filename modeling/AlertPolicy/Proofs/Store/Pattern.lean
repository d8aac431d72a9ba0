import AlertPolicy.Proofs.Expr.Printing
import AlertPolicy.Proofs.Store.Reference
import AlertPolicy.Store.Key

/-!
Keys, their labels and the patterns that select them. The label of a key of interface counters gives
back the names that the key was made of, and a pattern selects the keys that are made of the names
in its reference. So no two labelled keys that one pattern selects have the same label, as long as
the layout itself means nothing but its own text to the server.
-/

namespace AlertPolicy.Store

open AlertPolicy.Expr Sample

variable {l : KeyLayout} {v : VariableRef} {x y : String}

namespace KeyLayout

/-- The key of the names. -/
def key (l : KeyLayout) (x y : String) : String :=
  l.root ++ "/" ++ x ++ "/" ++ l.plugin ++ "/" ++ l.kind ++ "-" ++ y

/-- The segments of the layout can be told from what stands between them, and its kind is one of
interface counters. -/
structure OfInterfaces (l : KeyLayout) : Prop where
  root : '/' ∉ l.root.toList
  plugin : '/' ∉ l.plugin.toList
  kind : '/' ∉ l.kind.toList
  begins : ['i', 'f', '_'] <+: l.kind.toList
  noHyphen : '-' ∉ l.kind.toList

end KeyLayout

/-! ### Labels of keys -/

theorem interfaceOfSegment?_kind (hl : l.OfInterfaces) (y : String) :
    interfaceOfSegment? (l.kind.toList ++ '-' :: y.toList) =
      if y = "" then none else some y := by
  have hkind : ∀ c ∈ l.kind.toList, (c != '-') = true := by
    intro c hc
    rw [bne_iff_ne]
    rintro rfl
    exact hl.noHyphen hc
  have hstops : Stops (· != '-') ('-' :: y.toList) := stops_cons.2 rfl
  have hbegins : ['i', 'f', '_'].isPrefixOf l.kind.toList = true :=
    List.isPrefixOf_iff_prefix.2 hl.begins
  simp only [interfaceOfSegment?, dropWhile_append_of_stops hkind hstops,
    takeWhile_append_of_stops hkind hstops, hbegins]
  by_cases hy : y = ""
  · simp [hy]
  · simp [hy]

theorem splitOn_key (hl : l.OfInterfaces) (x y : String) :
    (l.key x y).toList.splitOn '/' =
      l.root.toList :: (x.toList.splitOn '/' ++
        l.plugin.toList :: (l.kind.toList ++ '-' :: y.toList).splitOn '/') := by
  have hkey : (l.key x y).toList = l.root.toList ++ '/' :: (x.toList ++ '/' ::
      (l.plugin.toList ++ '/' :: (l.kind.toList ++ '-' :: y.toList))) := by
    simp [KeyLayout.key]
  rw [hkey, List.splitOn_append_cons_self, List.splitOn_append_cons_self,
    List.splitOn_append_cons_self, List.splitOn_eq_singleton hl.root,
    List.splitOn_eq_singleton hl.plugin]
  rfl

theorem labelOfKey?_key_of_not_mem (hl : l.OfInterfaces) (hx : '/' ∉ x.toList)
    (hy : '/' ∉ y.toList) :
    labelOfKey? (l.key x y) =
      if x = "" then none else some ⟨x, if y = "" then none else some y⟩ := by
  have hlast : '/' ∉ l.kind.toList ++ '-' :: y.toList := by
    simp [hl.kind, hy]
  rw [labelOfKey?, splitOn_key hl, List.splitOn_eq_singleton hx, List.splitOn_eq_singleton hlast]
  simp [interfaceOfSegment?_kind hl]

theorem labelOfKey?_key_of_mem (hl : l.OfInterfaces) (h : '/' ∈ x.toList ∨ '/' ∈ y.toList) :
    labelOfKey? (l.key x y) = none := by
  rw [labelOfKey?]
  split
  · next hsplit =>
    -- Four segments leave one for each name, but a name with a slash takes up two.
    have hlength := congrArg List.length hsplit
    have hx := Text.length_splitOn_pos '/' x.toList
    have hy := Text.length_splitOn_pos '/' (l.kind.toList ++ '-' :: y.toList)
    simp only [splitOn_key hl, List.length_cons, List.length_append, List.length_nil] at hlength
    rcases h with h | h
    · have hmore := Text.one_lt_length_splitOn h
      omega
    · have hmem : '/' ∈ l.kind.toList ++ '-' :: y.toList := by simp [h]
      have hmore := Text.one_lt_length_splitOn hmem
      omega
  · rfl

/-- The label of a key of interface counters tells the names that the key was made of. -/
theorem labelOfKey?_key (hl : l.OfInterfaces) (x y : String) :
    labelOfKey? (l.key x y) =
      if x = "" ∨ '/' ∈ x.toList ∨ '/' ∈ y.toList then none
      else some ⟨x, if y = "" then none else some y⟩ := by
  by_cases hslash : '/' ∈ x.toList ∨ '/' ∈ y.toList
  · rw [labelOfKey?_key_of_mem hl hslash, if_pos (.inr hslash)]
  · rw [not_or] at hslash
    rw [labelOfKey?_key_of_not_mem hl hslash.1 hslash.2]
    simp only [hslash, or_false]

/-- Keys that have a label have the same names if they have the same label. -/
theorem names_eq_of_label {x' y' : String} {label : Label} (hl : l.OfInterfaces)
    (h : labelOfKey? (l.key x y) = some label) (h' : labelOfKey? (l.key x' y') = some label) :
    x = x' ∧ y = y' := by
  rw [labelOfKey?_key hl, Option.ite_none_left_eq_some] at h h'
  have heq := h.2.trans h'.2.symm
  simp only [Option.some.injEq, Label.mk.injEq] at heq
  refine ⟨heq.1, ?_⟩
  have hy := heq.2
  split at hy
  · next hempty =>
    split at hy
    · next hempty' => rw [hempty, hempty']
    · contradiction
  · split at hy
    · contradiction
    · exact Option.some.inj hy

/-! ### Keys that a pattern selects -/

/-- A server gives these characters of a pattern a meaning of their own. -/
def isSpecial (c : Char) : Bool := c == '*' || c == '?' || c == '[' || c == '\\'

/-- How a server compares keys with a pattern: a star takes in any run of characters, the slash
among them, and a character without a meaning of its own stands for itself. What the other special
characters take in is left open. -/
structure Glob where
  Matches : List Char → List Char → Prop
  nil_iff {k : List Char} : Matches [] k ↔ k = []
  star_iff {p k : List Char} : Matches ('*' :: p) k ↔ ∃ run rest, k = run ++ rest ∧ Matches p rest
  plain_iff {c : Char} {p k : List Char} (h : isSpecial c = false) :
    Matches (c :: p) k ↔ ∃ rest, k = c :: rest ∧ Matches p rest

/-- Comparison with a pattern in which nothing but stars has a meaning of its own. -/
def matchesStars : List Char → List Char → Prop
  | [], k => k = []
  | c :: p, k =>
      if c = '*' then ∃ run rest, k = run ++ rest ∧ matchesStars p rest
      else ∃ rest, k = c :: rest ∧ matchesStars p rest

def Glob.stars : Glob where
  Matches := matchesStars
  nil_iff := Iff.rfl
  star_iff := Iff.rfl
  plain_iff {c p k} h := by
    have hc : c ≠ '*' := by
      rintro rfl
      contradiction
    rw [matchesStars, if_neg hc]

/-- The pattern selects the key. -/
def Glob.Selects (g : Glob) (pattern key : String) : Prop := g.Matches pattern.toList key.toList

/-- The text means itself in a pattern. -/
def IsPlain (s : String) : Prop := ∀ c ∈ s.toList, isSpecial c = false

instance (s : String) : Decidable (IsPlain s) :=
  decidable_of_iff (s.toList.all fun c => !isSpecial c) (by simp [IsPlain])

structure KeyLayout.Plain (l : KeyLayout) : Prop where
  root : IsPlain l.root
  plugin : IsPlain l.plugin
  kind : IsPlain l.kind

def VariableRef.Plain (v : VariableRef) : Prop := ∀ name ∈ v.scope.names, IsPlain name

variable {g : Glob} {k p plain : List Char}

namespace Glob

theorem matches_append (h : ∀ c ∈ plain, isSpecial c = false) :
    g.Matches (plain ++ p) k ↔ ∃ rest, k = plain ++ rest ∧ g.Matches p rest := by
  induction plain generalizing k with
  | nil => simp
  | cons c cs ih =>
      rw [List.forall_mem_cons] at h
      rw [List.cons_append, g.plain_iff h.1]
      constructor
      · rintro ⟨rest, rfl, hrest⟩
        obtain ⟨rest', rfl, hrest'⟩ := (ih h.2).1 hrest
        exact ⟨rest', rfl, hrest'⟩
      · rintro ⟨rest, rfl, hrest⟩
        exact ⟨cs ++ rest, rfl, (ih h.2).2 ⟨rest, rfl, hrest⟩⟩

/-- A name that may be missing takes in itself, or any text. -/
theorem matches_name {name? : Option String} (h : ∀ name, name? = some name → IsPlain name) :
    g.Matches ((name?.getD "*").toList ++ p) k ↔
      ∃ x rest, k = String.toList x ++ rest ∧ (∀ name, name? = some name → x = name) ∧
        g.Matches p rest := by
  cases name? with
  | none =>
      change g.Matches ('*' :: p) k ↔ _
      rw [g.star_iff]
      constructor
      · rintro ⟨run, rest, rfl, hrest⟩
        exact ⟨String.ofList run, rest, by rw [String.toList_ofList], by simp, hrest⟩
      · rintro ⟨x, rest, rfl, -, hrest⟩
        exact ⟨x.toList, rest, rfl, hrest⟩
  | some name =>
      rw [Option.getD_some, matches_append (h name rfl)]
      constructor
      · rintro ⟨rest, rfl, hrest⟩
        exact ⟨name, rest, rfl, by simp, hrest⟩
      · rintro ⟨x, rest, rfl, hx, hrest⟩
        exact ⟨rest, by rw [hx name rfl], hrest⟩

/-- The pattern of a reference selects the keys that are made of its names, and of any texts where
it has none. -/
theorem selects_pattern {key : String} (hl : l.Plain) (hv : v.Plain) :
    g.Selects (l.pattern v) key ↔
      ∃ x y, key = l.key x y ∧ (∀ r, v.scope.resource? = some r → x = r) ∧
        ∀ i, v.scope.interface? = some i → y = i := by
  have hresource : ∀ r, v.scope.resource? = some r → IsPlain r := by
    intro r hr
    exact hv r (Scope.mem_names_of_resource? hr)
  have hinterface : ∀ i, v.scope.interface? = some i → IsPlain i := by
    intro i hi
    exact hv i (Scope.mem_names_of_interface? hi)
  have hfront : ∀ c ∈ l.root.toList ++ ['/'], isSpecial c = false := by
    simp only [List.forall_mem_append, List.forall_mem_singleton]
    exact ⟨hl.root, rfl⟩
  have hmiddle : ∀ c ∈ '/' :: (l.plugin.toList ++ '/' :: (l.kind.toList ++ ['-'])),
      isSpecial c = false := by
    simp only [List.forall_mem_cons, List.forall_mem_append]
    exact ⟨rfl, hl.plugin, rfl, hl.kind, rfl, List.forall_mem_nil _⟩
  have hkey (x y : String) : (l.key x y).toList = (l.root.toList ++ ['/']) ++ (x.toList ++
      (('/' :: (l.plugin.toList ++ '/' :: (l.kind.toList ++ ['-']))) ++ (y.toList ++ []))) := by
    simp [KeyLayout.key]
  have hpattern : l.pattern v =
      l.key (v.scope.resource?.getD "*") (v.scope.interface?.getD "*") := rfl
  simp only [Selects, hpattern, hkey, matches_append hfront, matches_name hresource,
    matches_append hmiddle, matches_name hinterface, g.nil_iff]
  constructor
  · rintro ⟨_, htext, x, _, rfl, hx, _, rfl, y, _, rfl, hy, rfl⟩
    refine ⟨x, y, ?_, hx, hy⟩
    rw [← String.toList_inj, htext, hkey]
  · rintro ⟨x, y, rfl, hx, hy⟩
    exact ⟨_, hkey x y, x, _, rfl, hx, _, rfl, y, _, rfl, hy, rfl⟩

end Glob

/-! ### References in expressions -/

/-- The text is a variable of some expression. -/
def IsVariable (s : String) : Prop :=
  ∃ expr c, Condition.parse expr = .ok c ∧ (c.left = ⟨.variable, s⟩ ∨ c.right = ⟨.variable, s⟩)

theorem isIdentifier_of_isVariable {s : String} (h : IsVariable s) :
    ∀ c ∈ s.toList, isIdentifier c = true := by
  obtain ⟨expr, c, hc, hs⟩ := h
  obtain ⟨hleft, hright⟩ := expressible_of_parse hc
  have hword : IsWord s.toList := by
    rcases hs with hs | hs
    · rwa [hs] at hleft
    · rwa [hs] at hright
  exact hword.2.1

theorem not_isSpecial_of_isIdentifier {c : Char} (h : isIdentifier c = true) :
    isSpecial c = false := by
  cases hspecial : isSpecial c with
  | false => rfl
  | true =>
      simp only [isSpecial, Bool.or_eq_true, beq_iff_eq] at hspecial
      rcases hspecial with ((rfl | rfl) | rfl) | rfl <;> contradiction

theorem mem_name_isIdentifier {s name : String} (hs : IsVariable s)
    (h : VariableRef.parse s = .ok v) (hname : name ∈ v.scope.names) :
    ∀ c ∈ name.toList, isIdentifier c = true := fun c hc =>
  isIdentifier_of_isVariable hs c ((VariableRef.parse_eq_ok_iff.1 h).mem hname hc)

theorem plain_of_isVariable {s : String} (hs : IsVariable s)
    (h : VariableRef.parse s = .ok v) : v.Plain := fun _ hname c hc =>
  not_isSpecial_of_isIdentifier (mem_name_isIdentifier hs h hname c hc)

theorem labelOfKey?_pattern {s r i : String} (hl : l.OfInterfaces) (hs : IsVariable s)
    (h : VariableRef.parse s = .ok v) (hv : v.scope = .interface r i) :
    labelOfKey? (l.pattern v) = some ⟨r, some i⟩ := by
  have hnames : v.scope.names = [r, i] := by rw [hv, Scope.names]
  have hname : ∀ name ∈ [r, i], name ≠ "" ∧ '/' ∉ name.toList := by
    intro name hmem
    rw [← hnames] at hmem
    refine ⟨((VariableRef.parse_eq_ok_iff.1 h).nameable name hmem).1, fun hslash => ?_⟩
    exact absurd (mem_name_isIdentifier hs h hmem '/' hslash) (by decide)
  have hpattern : l.pattern v = l.key r i := by rw [KeyLayout.pattern, hv]; rfl
  have hr := hname r List.mem_cons_self
  have hi := hname i (List.mem_cons_of_mem _ List.mem_cons_self)
  rw [hpattern, labelOfKey?_key_of_not_mem hl hr.2 hi.2, if_neg hr.1, if_neg hi.1]

/-- The label of a key is that of the names the key was made of. So the pattern of a reference with
all its names is the key that has them for its label, and if the layout has no meaning of its own to
the server, of two keys that a pattern selects no label is the same. -/
theorem label_inverts_key (g : Glob) (hl : l.OfInterfaces) :
    (∀ x y, labelOfKey? (l.key x y) =
      if x = "" ∨ '/' ∈ x.toList ∨ '/' ∈ y.toList then none
      else some ⟨x, if y = "" then none else some y⟩) ∧
    (∀ s v, IsVariable s → VariableRef.parse s = .ok v → v.Plain ∧
      ∀ r i, v.scope = .interface r i →
        l.pattern v = l.key r i ∧ labelOfKey? (l.pattern v) = some ⟨r, some i⟩ ∧
        (l.Plain → ∀ key, g.Selects (l.pattern v) key ↔ key = l.pattern v)) ∧
    (l.Plain → ∀ v : VariableRef, v.Plain → ∀ key key' label, g.Selects (l.pattern v) key →
      g.Selects (l.pattern v) key' → labelOfKey? key = some label →
      labelOfKey? key' = some label → key = key') := by
  refine ⟨labelOfKey?_key hl, fun s v hs h => ⟨plain_of_isVariable hs h, ?_⟩, ?_⟩
  · intro r i hv
    have hpattern : l.pattern v = l.key r i := by rw [KeyLayout.pattern, hv]; rfl
    refine ⟨hpattern, labelOfKey?_pattern hl hs h hv, fun hplain key => ?_⟩
    rw [Glob.selects_pattern hplain (plain_of_isVariable hs h), hpattern, hv]
    constructor
    · rintro ⟨x, y, rfl, hx, hy⟩
      rw [hx r rfl, hy i rfl]
    · rintro rfl
      exact ⟨r, i, rfl, fun _ => Option.some.inj, fun _ => Option.some.inj⟩
  · intro hplain v hv key key' label hkey hkey' hlabel hlabel'
    obtain ⟨x, y, rfl, -⟩ := (Glob.selects_pattern hplain hv).1 hkey
    obtain ⟨x', y', rfl, -⟩ := (Glob.selects_pattern hplain hv).1 hkey'
    obtain ⟨rfl, rfl⟩ := names_eq_of_label hl hlabel hlabel'
    rfl

theorem label_inverts_key_of_tap :
    let l : KeyLayout := ⟨"collectd", "virt", "if_octets"⟩
    let v : VariableRef := ⟨.interface "vm-1" "tap-0", .sent⟩
    let key := "collectd/vm-1/virt/if_octets-tap-0"
    labelOfKey? key = some ⟨"vm-1", some "tap-0"⟩ ∧
      (∀ k, Glob.stars.Selects (l.pattern v) k ↔ k = key) ∧
      ∀ k, Glob.stars.Selects "collectd/*/virt/if_octets-*" k →
        labelOfKey? k = some ⟨"vm-1", some "tap-0"⟩ → k = key := by
  intro l v key
  have hl : l.OfInterfaces := ⟨by decide, by decide, by decide, by decide, by decide⟩
  have hplain : l.Plain := ⟨by decide, by decide, by decide⟩
  have hv : IsVariable "vm.vm-1.tap-0.tx" :=
    ⟨"vm.vm-1.tap-0.tx > 5", ⟨⟨.variable, "vm.vm-1.tap-0.tx"⟩, .greater, ⟨.number, "5"⟩⟩,
      by decide +kernel, .inl rfl⟩
  have hparse : VariableRef.parse "vm.vm-1.tap-0.tx" = .ok v := by decide +kernel
  obtain ⟨hlabel, hliteral, hinjective⟩ := label_inverts_key Glob.stars hl
  -- nothing below depends on what else the globs are
  generalize Glob.stars = g at hliteral hinjective ⊢
  obtain ⟨hpattern, hkey, hself⟩ := (hliteral _ v hv hparse).2 "vm-1" "tap-0" rfl
  have hstarred : VariableRef.Plain ⟨.everything, .received⟩ := fun _ h => absurd h List.not_mem_nil
  refine ⟨hkey, hself hplain, fun k hk hlabelled => ?_⟩
  refine hinjective hplain ⟨.everything, .received⟩ hstarred k key _ hk ?_ hlabelled hkey
  refine (Glob.selects_pattern hplain hstarred).2 ⟨"vm-1", "tap-0", rfl, ?_, ?_⟩
  · rintro r ⟨⟩
  · rintro i ⟨⟩

/-- A layout that has a star in it lets one pattern select one label twice. -/
theorem starred_layout_repeats_label :
    let l : KeyLayout := ⟨"*", "virt", "if_octets"⟩
    l.OfInterfaces ∧ VariableRef.parse "vm.rx" = .ok ⟨.everything, .received⟩ ∧
      "a/x/virt/if_octets-y" ≠ "b/x/virt/if_octets-y" ∧
      (∀ g : Glob, g.Selects (l.pattern ⟨.everything, .received⟩) "a/x/virt/if_octets-y" ∧
        g.Selects (l.pattern ⟨.everything, .received⟩) "b/x/virt/if_octets-y") ∧
      labelOfKey? "a/x/virt/if_octets-y" = some ⟨"x", some "y"⟩ ∧
      labelOfKey? "b/x/virt/if_octets-y" = some ⟨"x", some "y"⟩ := by
  intro l
  have hselects (g : Glob) (c : Char) : g.Matches (l.pattern ⟨.everything, .received⟩).toList
      (c :: "/x/virt/if_octets-y".toList) := by
    have hslash : IsPlain "/" := by decide
    have hmiddle : IsPlain "/virt/if_octets-" := by decide
    have hpattern : (l.pattern ⟨.everything, .received⟩).toList =
        '*' :: ("/".toList ++ '*' :: ("/virt/if_octets-".toList ++ ['*'])) := by decide +kernel
    have hkey : "/x/virt/if_octets-y".toList =
        "/".toList ++ (['x'] ++ ("/virt/if_octets-".toList ++ ['y'])) := by decide +kernel
    rw [hpattern, hkey]
    refine g.star_iff.2 ⟨[c], _, rfl, (Glob.matches_append hslash).2 ⟨_, rfl, ?_⟩⟩
    refine g.star_iff.2 ⟨['x'], _, rfl, (Glob.matches_append hmiddle).2 ⟨_, rfl, ?_⟩⟩
    exact g.star_iff.2 ⟨['y'], [], rfl, g.nil_iff.2 rfl⟩
  exact ⟨⟨by decide, by decide, by decide, by decide, by decide⟩, by decide +kernel, by decide,
    fun g => ⟨hselects g 'a', hselects g 'b'⟩, by decide +kernel, by decide +kernel⟩

end AlertPolicy.Store
