import Mathlib.Algebra.Ring.Nat
import AlertPolicy.Proofs.Expr.Cursor
import AlertPolicy.Time.Duration

/-!
The texts of durations. What a word stands for is said in unbounded numbers and without reading it:
digits alone are seconds, and all else is a row of components. Reading in 64-bit words finds the
same number, and gives up only where it does not fit: no part of a sum is greater than the sum.
-/

namespace AlertPolicy.Time

open AlertPolicy.Expr AlertPolicy.Number AlertPolicy.Text

/-! ### What words stand for -/

/-- How a unit is written. -/
def TimeUnit.chars : TimeUnit → List Char
  | day => ['d']
  | hour => ['h']
  | minute => ['m']
  | second => ['s']
  | millisecond => ['m', 's']

/-- How many milliseconds a unit lasts. -/
def TimeUnit.length : TimeUnit → Nat
  | day => 24 * 60 * 60 * 1000
  | hour => 60 * 60 * 1000
  | minute => 60 * 1000
  | second => 1000
  | millisecond => 1

/-- A number of some unit. -/
structure Component where
  digits : List Char
  unit : TimeUnit
  written : isDigits digits

namespace Component

def chars (c : Component) : List Char := c.digits ++ c.unit.chars

def value (c : Component) : Nat := ofDigits c.digits * c.unit.length

end Component

/-- Components in a row. -/
def spelled (cs : List Component) : List Char := cs.flatMap Component.chars

def sumOf (cs : List Component) : Nat := (cs.map Component.value).sum

/-- The number of milliseconds that a word stands for, however large it is. -/
inductive StandsFor : List Char → Nat → Prop where
  | seconds {word : List Char} (digits : isDigits word) : StandsFor word (ofDigits word * 1000)
  | sum (cs : List Component) (nonempty : cs ≠ []) : StandsFor (spelled cs) (sumOf cs)

/-- The word is the first run of characters of the text that are not blank. -/
def IsFirstWord (word cs : List Char) : Prop :=
  word ≠ [] ∧ ∃ before after, cs = before ++ (word ++ after) ∧ (∀ c ∈ before, isBlank c = true) ∧
    (∀ c ∈ word, isBlank c = false) ∧ Stops (fun c => !isBlank c) after

theorem isFirstWord_iff {word cs : List Char} :
    IsFirstWord word cs ↔ word ≠ [] ∧ firstWord cs = word := by
  refine and_congr_right fun hne => ⟨?_, ?_⟩
  · rintro ⟨before, after, rfl, hbefore, hword, hafter⟩
    obtain ⟨c, rest, rfl⟩ := List.exists_cons_of_ne_nil hne
    have hstops : Stops isBlank (c :: rest ++ after) := stops_cons.2 (hword c List.mem_cons_self)
    have hword' : ∀ d ∈ c :: rest, (!isBlank d) = true := fun d hd => by rw [hword d hd]; rfl
    rw [firstWord, dropWhile_append_of_stops hbefore hstops]
    exact takeWhile_append_of_stops hword' hafter
  · rintro rfl
    obtain ⟨before, tail, rfl, hbefore, htail⟩ := exists_cut isBlank cs
    obtain ⟨word, after, rfl, hword, hafter⟩ := exists_cut (fun c => !isBlank c) tail
    have hfirst : firstWord (before ++ (word ++ after)) = word := by
      rw [firstWord, dropWhile_append_of_stops hbefore htail]
      exact takeWhile_append_of_stops hword hafter
    rw [hfirst]
    exact ⟨before, after, rfl, hbefore, fun c hc => by simpa using hword c hc, hafter⟩

theorem spelled_cons (c : Component) (cs : List Component) (tail : List Char) :
    spelled (c :: cs) ++ tail = c.digits ++ (c.unit.chars ++ (spelled cs ++ tail)) := by
  simp [spelled, Component.chars]

theorem sumOf_cons (c : Component) (cs : List Component) :
    sumOf (c :: cs) = c.value + sumOf cs := by
  simp [sumOf]

theorem spelled_ne_nil {cs : List Component} (h : cs ≠ []) : spelled cs ≠ [] := by
  obtain ⟨c, cs, rfl⟩ := List.exists_cons_of_ne_nil h
  have hne := ne_nil_of_isDigits c.written
  simp [spelled, Component.chars, hne]

/-- Components begin with a digit. -/
theorem stops_spelled {p : Char → Bool} (hp : ∀ c, c.isDigit = true → p c = false)
    (cs : List Component) {tail : List Char} (htail : ∀ c ∈ tail, c.isDigit = true) :
    Stops p (spelled cs ++ tail) := by
  cases cs with
  | nil => exact fun c hc => hp c (htail c (List.mem_of_mem_head? hc))
  | cons c cs =>
      obtain ⟨d, ds, hd⟩ := List.exists_cons_of_ne_nil (ne_nil_of_isDigits c.written)
      have hdigit := all_of_isDigits c.written
      rw [hd] at hdigit
      rw [spelled_cons, hd]
      exact stops_cons.2 (hp d (hdigit d List.mem_cons_self))

theorem stops_chars (unit : TimeUnit) (rest : List Char) :
    Stops Char.isDigit (unit.chars ++ rest) := by
  cases unit <;> exact stops_cons.2 (by decide)

/-! ### A word stands for one number -/

theorem not_s_of_isDigit {c : Char} (h : c.isDigit = true) : (c == 's') = false := by
  cases hc : c == 's' with
  | false => rfl
  | true =>
      cases eq_of_beq hc
      contradiction

theorem unit_unique {u v : TimeUnit} {xs ys : List Char} (heq : u.chars ++ xs = v.chars ++ ys)
    (hx : Stops (· == 's') xs) (hy : Stops (· == 's') ys) : u = v ∧ xs = ys := by
  -- Only minutes and milliseconds begin alike, and no `s` follows the minutes.
  have hx' : ∀ r, xs ≠ 's' :: r := by
    rintro r rfl
    exact absurd (stops_cons.1 hx) (by decide)
  have hy' : ∀ r, 's' :: r ≠ ys := by
    rintro r rfl
    exact absurd (stops_cons.1 hy) (by decide)
  cases u <;> cases v <;> simp_all [TimeUnit.chars]

theorem spelled_injective {cs ds : List Component} (heq : spelled cs = spelled ds) : cs = ds := by
  induction cs generalizing ds with
  | nil =>
      cases ds with
      | nil => rfl
      | cons d ds => exact absurd heq.symm (spelled_ne_nil (List.cons_ne_nil d ds))
  | cons c cs ih =>
      cases ds with
      | nil => exact absurd heq (spelled_ne_nil (List.cons_ne_nil c cs))
      | cons d ds =>
          have hstops (cs : List Component) : Stops (· == 's') (spelled cs ++ []) :=
            stops_spelled (fun _ => not_s_of_isDigit) cs (by simp)
          rw [← List.append_nil (spelled (c :: cs)), ← List.append_nil (spelled (d :: ds)),
            spelled_cons, spelled_cons] at heq
          have hdigits := congrArg (List.takeWhile Char.isDigit) heq
          rw [takeWhile_append_of_stops (all_of_isDigits c.written) (stops_chars c.unit _),
            takeWhile_append_of_stops (all_of_isDigits d.written) (stops_chars d.unit _)] at hdigits
          rw [hdigits, List.append_cancel_left_eq] at heq
          obtain ⟨hunit, hrest⟩ := unit_unique heq (hstops cs) (hstops ds)
          rw [List.append_nil, List.append_nil] at hrest
          obtain ⟨digits, unit, written⟩ := c
          cases hdigits
          cases hunit
          rw [ih hrest]

theorem not_isDigits_spelled {cs : List Component} (hne : cs ≠ []) :
    ¬ isDigits (spelled cs) = true := by
  intro h
  obtain ⟨c, cs, rfl⟩ := List.exists_cons_of_ne_nil hne
  obtain ⟨u, r, hu⟩ : ∃ u r, c.unit.chars = u :: r := by cases c.unit <;> exact ⟨_, _, rfl⟩
  have hstops := stops_chars c.unit []
  rw [hu, List.cons_append, stops_cons] at hstops
  have hdigit := all_of_isDigits h u (by simp [spelled, Component.chars, hu])
  rw [hstops] at hdigit
  contradiction

theorem standsFor_iff {word : List Char} {n : Nat} :
    StandsFor word n ↔ (isDigits word = true ∧ n = ofDigits word * 1000) ∨
      ∃ cs : List Component, cs ≠ [] ∧ word = spelled cs ∧ n = sumOf cs := by
  constructor
  · intro h
    cases h with
    | seconds digits => exact .inl ⟨digits, rfl⟩
    | sum cs nonempty => exact .inr ⟨cs, nonempty, rfl, rfl⟩
  · rintro (⟨digits, rfl⟩ | ⟨cs, nonempty, rfl, rfl⟩)
    · exact .seconds digits
    · exact .sum cs nonempty

/-- A word stands for at most one number: what is digits has no unit in it, and components can be
told apart. -/
theorem standsFor_unique {word : List Char} {m n : Nat} (hm : StandsFor word m)
    (hn : StandsFor word n) : m = n := by
  rw [standsFor_iff] at hm hn
  rcases hm with ⟨hdigits, rfl⟩ | ⟨cs, hcs, rfl, rfl⟩
  · rcases hn with ⟨-, rfl⟩ | ⟨ds, hds, rfl, -⟩
    · rfl
    · exact absurd hdigits (not_isDigits_spelled hds)
  · rcases hn with ⟨hdigits, -⟩ | ⟨ds, -, heq, rfl⟩
    · exact absurd hdigits (not_isDigits_spelled hcs)
    · rw [spelled_injective heq]

/-! ### Reading -/

theorem exists_word {n : Nat} (h : n < UInt64.size) : ∃ w : UInt64, w.toNat = n :=
  ⟨UInt64.ofNatLT n h, UInt64.toNat_ofNatLT⟩

theorem TimeUnit.toNat_milliseconds (unit : TimeUnit) : unit.milliseconds.toNat = unit.length := by
  cases unit <;> rfl

theorem TimeUnit.le_mul_length (n : Nat) (unit : TimeUnit) : n ≤ n * unit.length := by
  cases unit <;> exact Nat.le_mul_of_pos_right n (by decide)

/-- The digits fit whenever the product does, as they are no greater. -/
theorem TimeUnit.count?_eq_some_iff {unit : TimeUnit} {digits : List Char} {w : UInt64} :
    unit.count? digits = some w ↔ isDigits digits ∧ w.toNat = ofDigits digits * unit.length := by
  simp only [count?, Option.bind_eq_bind, Option.bind_eq_some_iff, Word64.ofDigits?_eq_some_iff,
    Word64.mul?, Word64.ofNat?_eq_some_iff, toNat_milliseconds]
  constructor
  · rintro ⟨n, ⟨hdigits, hn⟩, hw⟩
    exact ⟨hdigits, by rw [hw, hn]⟩
  · rintro ⟨hdigits, hw⟩
    have hfits := w.toNat_lt_size
    have hle := le_mul_length (ofDigits digits) unit
    obtain ⟨n, hn⟩ := exists_word (n := ofDigits digits) (by omega)
    exact ⟨n, ⟨hdigits, hn⟩, by rw [hw, hn]⟩

theorem chars_of_ofChar? {c : Char} {unit : TimeUnit} (h : TimeUnit.ofChar? c = some unit) :
    unit.chars = [c] := by
  unfold TimeUnit.ofChar? at h
  split at h <;> cases h <;> rfl

namespace DurationScan

/-- A component is added exactly if there are digits and the new sum fits. -/
theorem close_eq_some_iff {scan next : DurationScan} {unit : TimeUnit} :
    scan.close unit = some next ↔
      isDigits scan.digits ∧ next.digits = [] ∧ next.foundUnit = true ∧
        next.total.toNat = scan.total.toNat + ofDigits scan.digits * unit.length := by
  simp only [close, Option.bind_eq_bind, Option.bind_eq_some_iff, TimeUnit.count?_eq_some_iff,
    Word64.add?, Word64.ofNat?_eq_some_iff, pure, Option.some.injEq]
  constructor
  · rintro ⟨value, ⟨hdigits, hvalue⟩, total, htotal, rfl⟩
    exact ⟨hdigits, rfl, rfl, by rw [htotal, hvalue]⟩
  · rintro ⟨hdigits, hnext, hfound, htotal⟩
    have hfits := next.total.toNat_lt_size
    obtain ⟨value, hvalue⟩ := exists_word (n := ofDigits scan.digits * unit.length) (by omega)
    refine ⟨value, ⟨hdigits, hvalue⟩, next.total, by rw [htotal, hvalue], ?_⟩
    rw [← hnext, ← hfound]

variable (scan : DurationScan)

theorem read?_digit {c : Char} (h : c.isDigit = true) (cs : List Char) :
    scan.read? (c :: cs) = (scan.push c).read? cs := by
  rw [read?, if_pos h]
  rintro _ rfl
  contradiction

theorem read?_char {c : Char} {unit : TimeUnit} (hc : TimeUnit.ofChar? c = some unit)
    {cs : List Char} (h : Stops (· == 's') cs) :
    scan.read? (c :: cs) = (scan.close unit).bind fun next => next.read? cs := by
  have hdigit : ¬ c.isDigit = true := by
    unfold TimeUnit.ofChar? at hc
    split at hc <;> first | decide | contradiction
  rw [read?, if_neg hdigit, hc]
  rintro tail rfl rfl
  exact absurd (stops_cons.1 h) (by decide)

theorem read?_unit (unit : TimeUnit) {cs : List Char} (h : Stops (· == 's') cs) :
    scan.read? (unit.chars ++ cs) = (scan.close unit).bind fun next => next.read? cs := by
  cases unit with
  | millisecond => rfl
  | day | hour | minute | second => exact read?_char scan rfl h

theorem read?_digits {ds : List Char} (h : ∀ c ∈ ds, c.isDigit = true) (cs : List Char) :
    scan.read? (ds ++ cs) = read? { scan with digits := scan.digits ++ ds } cs := by
  induction ds generalizing scan with
  | nil => simp
  | cons d ds ih =>
      rw [List.cons_append, read?_digit scan (h d List.mem_cons_self),
        ih (scan.push d) fun c hc => h c (List.mem_cons_of_mem d hc)]
      simp [push]

/-- What a scan comes to that reads all of the characters: components that begin with the digits it
holds, and digits behind them. -/
def Reaches (scan : DurationScan) (cs : List Char) (stop : DurationScan) : Prop :=
  ∃ components : List Component, scan.digits ++ cs = spelled components ++ stop.digits ∧
    (∀ c ∈ stop.digits, c.isDigit = true) ∧
    stop.total.toNat = scan.total.toNat + sumOf components ∧
    stop.foundUnit = (scan.foundUnit || !components.isEmpty)

variable {scan} {next stop : DurationScan} {cs : List Char}

theorem reaches_self (h : ∀ c ∈ scan.digits, c.isDigit = true) : scan.Reaches [] scan :=
  ⟨[], by simp [spelled], h, by simp [sumOf], by simp⟩

/-- A component that is closed is the first of those that are read. -/
theorem Reaches.of_close {unit : TimeUnit} (hclose : scan.close unit = some next)
    (h : next.Reaches cs stop) : scan.Reaches (unit.chars ++ cs) stop := by
  obtain ⟨hdigits, hnext, hfound, htotal⟩ := close_eq_some_iff.1 hclose
  obtain ⟨components, hcs, htail, hsum, hunit⟩ := h
  rw [hnext, List.nil_append] at hcs
  refine ⟨⟨scan.digits, unit, hdigits⟩ :: components, ?_, htail, ?_, ?_⟩
  · rw [spelled_cons, hcs]
  · rw [hsum, htotal, sumOf_cons, Component.value, Nat.add_assoc]
  · rw [hunit, hfound]
    simp

theorem Reaches.of_push {c : Char} (h : (scan.push c).Reaches cs stop) :
    scan.Reaches (c :: cs) stop := by
  simpa [Reaches, push] using h

theorem reaches_of_read? (hscan : ∀ c ∈ scan.digits, c.isDigit = true)
    (h : scan.read? cs = some stop) : scan.Reaches cs stop := by
  fun_induction read? scan cs with
  | case1 scan =>
      cases h
      exact reaches_self hscan
  | case2 scan cs ih =>
      obtain ⟨next, hclose, hread⟩ := Option.bind_eq_some_iff.1 h
      have hnext := (close_eq_some_iff.1 hclose).2.1
      exact (ih next (by simp [hnext]) hread).of_close hclose
  | case3 scan c cs _ hdigit ih =>
      have hpush : ∀ d ∈ (scan.push c).digits, d.isDigit = true := by
        intro d hd
        rcases List.mem_append.1 hd with hd | hd
        · exact hscan d hd
        · cases List.mem_singleton.1 hd
          exact hdigit
      exact (ih hpush h).of_push
  | case4 scan c cs _ hdigit unit hunit ih =>
      obtain ⟨next, hclose, hread⟩ := Option.bind_eq_some_iff.1 h
      have hnext := (close_eq_some_iff.1 hclose).2.1
      have hreaches := (ih next (by simp [hnext]) hread).of_close hclose
      rwa [chars_of_ofChar? hunit] at hreaches
  | case5 => contradiction

theorem read?_spelled (components : List Component) (hempty : scan.digits = [])
    (htail : ∀ c ∈ stop.digits, c.isDigit = true)
    (hsum : stop.total.toNat = scan.total.toNat + sumOf components)
    (hunit : stop.foundUnit = (scan.foundUnit || !components.isEmpty)) :
    scan.read? (spelled components ++ stop.digits) = some stop := by
  induction components generalizing scan with
  | nil =>
      have htotal : scan.total = stop.total := by
        rw [← UInt64.toNat_inj, hsum]
        rfl
      have hfound : scan.foundUnit = stop.foundUnit := by simp [hunit]
      have hread := read?_digits scan htail []
      rw [List.append_nil, hempty, List.nil_append, htotal, hfound] at hread
      exact hread
  | cons c components ih =>
      have hfits := stop.total.toNat_lt_size
      rw [sumOf_cons] at hsum
      obtain ⟨total, htotal⟩ := exists_word (n := scan.total.toNat + c.value) (by omega)
      have hclose : close { scan with digits := c.digits } c.unit = some ⟨total, [], true⟩ :=
        close_eq_some_iff.2 ⟨c.written, rfl, rfl, htotal⟩
      have hstops := stops_spelled (fun _ => not_s_of_isDigit) components htail
      rw [spelled_cons, read?_digits scan (all_of_isDigits c.written), hempty, List.nil_append,
        read?_unit _ c.unit hstops, hclose]
      refine ih rfl ?_ ?_
      · rw [hsum, htotal, Nat.add_assoc]
      · simp [hunit]

/-- Digits that were held before are read as if they stood in front of the rest. -/
theorem read?_of_reaches (hscan : ∀ c ∈ scan.digits, c.isDigit = true)
    (h : scan.Reaches cs stop) : scan.read? cs = some stop := by
  obtain ⟨components, hcs, htail, hsum, hunit⟩ := h
  have hheld := read?_digits { scan with digits := [] } hscan cs
  have hread : read? { scan with digits := [] } _ = some stop :=
    read?_spelled components rfl htail hsum hunit
  rw [← hcs, hheld] at hread
  exact hread

theorem read?_eq_some_iff (hscan : ∀ c ∈ scan.digits, c.isDigit = true) :
    scan.read? cs = some stop ↔ scan.Reaches cs stop :=
  ⟨reaches_of_read? hscan, read?_of_reaches hscan⟩

end DurationScan

/-! ### Durations -/

theorem finish?_eq_some_iff {scan : DurationScan} {w : UInt64} :
    scan.finish? = some w ↔
      (scan.digits = [] ∧ scan.total = w) ∨
        (scan.foundUnit = false ∧ isDigits scan.digits = true ∧
          w.toNat = ofDigits scan.digits * 1000) := by
  obtain ⟨total, digits, found⟩ := scan
  cases digits with
  | nil => simp [DurationScan.finish?, isDigits]
  | cons d ds =>
      cases found with
      | true => simp [DurationScan.finish?]
      | false => simp [DurationScan.finish?, TimeUnit.count?_eq_some_iff, TimeUnit.length]

theorem read?_start_iff {word : List Char} {scan : DurationScan} :
    DurationScan.start.read? word = some scan ↔ DurationScan.start.Reaches word scan :=
  DurationScan.read?_eq_some_iff (by simp [DurationScan.start])

/-- A word that is read to its end stands for what is found. -/
theorem standsFor_of_scan {word : List Char} (hne : word ≠ []) {scan : DurationScan} {w : UInt64}
    (hread : DurationScan.start.read? word = some scan) (hfinish : scan.finish? = some w) :
    StandsFor word w.toNat := by
  obtain ⟨components, hword, -, hsum, hunit⟩ := read?_start_iff.1 hread
  change word = spelled components ++ scan.digits at hword
  rw [standsFor_iff]
  rcases finish?_eq_some_iff.1 hfinish with ⟨hdigits, rfl⟩ | ⟨hfound, hdigits, hw⟩
  · rw [hdigits, List.append_nil] at hword
    refine .inr ⟨components, ?_, hword, hsum.trans (Nat.zero_add _)⟩
    rintro rfl
    exact hne hword
  · have hnil : components = [] := by
      simpa [hunit, DurationScan.start] using hfound
    subst hnil
    cases hword
    exact .inl ⟨hdigits, hw⟩

/-- A word that stands for a number that fits is read to its end, and that number is found. -/
theorem exists_scan_of_standsFor {word : List Char} {w : UInt64} (h : StandsFor word w.toNat) :
    ∃ scan, DurationScan.start.read? word = some scan ∧ scan.finish? = some w := by
  rcases standsFor_iff.1 h with ⟨hdigits, hw⟩ | ⟨components, hcs, rfl, hsum⟩
  · refine ⟨⟨0, word, false⟩, read?_start_iff.2 ?_, finish?_eq_some_iff.2 (.inr ⟨rfl, hdigits, hw⟩)⟩
    exact ⟨[], rfl, all_of_isDigits hdigits, rfl, rfl⟩
  · refine ⟨⟨w, [], true⟩, read?_start_iff.2 ?_, finish?_eq_some_iff.2 (.inl ⟨rfl, rfl⟩)⟩
    refine ⟨components, ?_, by simp, hsum.trans (Nat.zero_add _).symm, ?_⟩
    · simp [DurationScan.start]
    · simp [DurationScan.start, hcs]

theorem ofMilliseconds?_eq_some_iff {m n : Nat} :
    (Duration.ofMilliseconds? m).map Duration.milliseconds = some n ↔
      m = n ∧ 1 ≤ n ∧ n ≤ 2 ^ 64 - 1 := by
  have hsize : UInt64.size = 2 ^ 64 := rfl
  unfold Duration.ofMilliseconds?
  split
  · simp only [Option.map_some, Option.some.injEq]
    omega
  · simp only [Option.map_none, reduceCtorEq, false_iff]
    omega

theorem parse?_stages {s : String} {n : Nat} :
    (Duration.parse? s).map Duration.milliseconds = some n ↔
      ∃ scan w, DurationScan.start.read? (firstWord s.toList) = some scan ∧
        scan.finish? = some w ∧ w.toNat = n ∧ 1 ≤ n ∧ n ≤ 2 ^ 64 - 1 := by
  simp only [Duration.parse?, Option.bind_eq_bind, Option.map_bind, Option.bind_eq_some_iff,
    Function.comp_def, ofMilliseconds?_eq_some_iff]
  constructor
  · rintro ⟨scan, hread, w, hfinish, h⟩
    exact ⟨scan, w, hread, hfinish, h⟩
  · rintro ⟨scan, w, hread, hfinish, h⟩
    exact ⟨scan, hread, w, hfinish, h⟩

theorem parse?_eq_some_iff {s : String} {n : Nat} :
    (Duration.parse? s).map Duration.milliseconds = some n ↔
      ∃ word, IsFirstWord word s.toList ∧ StandsFor word n ∧ 1 ≤ n ∧ n ≤ 2 ^ 64 - 1 := by
  rw [parse?_stages]
  constructor
  · rintro ⟨scan, w, hread, hfinish, rfl, hpos, hfits⟩
    have hne : firstWord s.toList ≠ [] := by
      intro hnil
      rw [hnil] at hread
      cases hread
      cases hfinish
      contradiction
    exact ⟨firstWord s.toList, isFirstWord_iff.2 ⟨hne, rfl⟩, standsFor_of_scan hne hread hfinish,
      hpos, hfits⟩
  · rintro ⟨word, hword, hstands, hpos, hfits⟩
    obtain ⟨-, rfl⟩ := isFirstWord_iff.1 hword
    have hsize : UInt64.size = 2 ^ 64 := rfl
    obtain ⟨w, rfl⟩ := exists_word (n := n) (by omega)
    obtain ⟨scan, hread, hfinish⟩ := exists_scan_of_standsFor hstands
    exact ⟨scan, w, hread, hfinish, rfl, hpos, hfits⟩

/-- A text is a duration of `n` milliseconds exactly if its first word stands for `n`, and `n` is
positive and fits in 64 bits. Any other text is refused; nothing wraps around, and no word can be
understood in two ways. -/
theorem duration_is_what_first_word_stands_for (s : String) :
    (∀ n, (Duration.parse? s).map Duration.milliseconds = some n ↔
      ∃ word, IsFirstWord word s.toList ∧ StandsFor word n ∧ 1 ≤ n ∧ n ≤ 2 ^ 64 - 1) ∧
    (Duration.parse? s = none ↔ ∀ word n, IsFirstWord word s.toList → StandsFor word n →
      n = 0 ∨ 2 ^ 64 ≤ n) ∧
    ∀ word m n, StandsFor word m → StandsFor word n → m = n := by
  refine ⟨fun n => parse?_eq_some_iff, ?_, fun word m n => standsFor_unique⟩
  constructor
  · intro hnone word n hword hstands
    have hnot : ¬ (1 ≤ n ∧ n ≤ 2 ^ 64 - 1) := by
      intro hn
      have hsome := parse?_eq_some_iff.2 ⟨word, hword, hstands, hn⟩
      rw [hnone] at hsome
      contradiction
    omega
  · intro h
    cases hparse : Duration.parse? s with
    | none => rfl
    | some d =>
        have hsome : (Duration.parse? s).map Duration.milliseconds = some d.milliseconds := by
          rw [hparse]
          rfl
        obtain ⟨word, hword, hstands, hpos, hfits⟩ := parse?_eq_some_iff.1 hsome
        have hbounds := h word _ hword hstands
        omega

end AlertPolicy.Time
