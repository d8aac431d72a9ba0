import AlertPolicy.Proofs.Expr.Cursor
import AlertPolicy.Proofs.Sample.Order
import AlertPolicy.Proofs.Store.Window

/-!
Connection strings read back. The password is put into the string as it is, so it comes back just if
no character of it ends the part of the string that it stands in and no percent sign of it begins an
escape. As long as nothing ends that part, the host, the port and the database come back in any case,
and the password comes back with its escapes decoded.
-/

namespace AlertPolicy.Store

open AlertPolicy.Expr AlertPolicy.Number Text

/-! ### Octets -/

theorem toList_loop (o : ByteArray) (i : Nat) (r : List UInt8) :
    ByteArray.toList.loop o i r = r.reverse ++ o.data.toList.drop i := by
  fun_induction ByteArray.toList.loop o i r with
  | case1 i r h ih =>
      have hi : i < o.data.toList.length := h
      have hget : o.get! i = o.data.toList[i] := getElem!_pos o.data i h
      rw [ih, hget, List.drop_eq_getElem_cons hi]
      simp
  | case2 i r h =>
      have hi : o.data.toList.length ≤ i := Nat.le_of_not_lt h
      rw [List.drop_eq_nil_of_le hi, List.append_nil]

theorem toList_toUTF8 (s : String) : s.toUTF8.toList = bytes s := by
  rw [ByteArray.toList, toList_loop]
  rfl

theorem length_bytes (s : String) : (bytes s).length = byteLength s.toList := by
  rw [← utf8ByteSize_ofList, String.ofList_toList]
  rfl

theorem bytes_ofList_cons (c : Char) (cs : List Char) :
    bytes (String.ofList (c :: cs)) = bytes (String.singleton c) ++ bytes (String.ofList cs) := by
  simp [bytes_eq]

theorem length_bytes_singleton (c : Char) : (bytes (String.singleton c)).length = c.utf8Size := by
  simp [length_bytes]

/-! ### Escapes -/

def IsHexDigit (c : Char) : Prop := c.isDigit ∨ 'a' ≤ c ∧ c ≤ 'f' ∨ 'A' ≤ c ∧ c ≤ 'F'

/-- A percent sign stands before two hexadecimal digits. -/
def Escaped (cs : List Char) : Prop :=
  ∃ a b, IsHexDigit a ∧ IsHexDigit b ∧ ['%', a, b] <:+: cs

theorem toNat_toLower (c : Char) :
    c.toLower.toNat = if 65 ≤ c.toNat ∧ c.toNat ≤ 90 then c.toNat + 32 else c.toNat := by
  have hval (d : Char) : d.val.toNat = d.toNat := rfl
  unfold Char.toLower
  simp only [ge_iff_le, UInt32.le_iff_toNat_le, hval]
  split
  · next h =>
    have hrange : 65 ≤ c.toNat ∧ c.toNat ≤ 90 := h
    rw [if_pos hrange, Char.toNat, UInt32.toNat_add, hval]
    change (c.toNat + 32) % 2 ^ 32 = _
    omega
  · next h =>
    have hrange : ¬ (65 ≤ c.toNat ∧ c.toNat ≤ 90) := h
    rw [if_neg hrange]

theorem isSome_hexValue? {c : Char} : (hexValue? c).isSome ↔ IsHexDigit c := by
  have hval (d : Char) : d.val.toNat = d.toNat := rfl
  cases hdigit : c.isDigit with
  | true => simp [hexValue?, IsHexDigit, hdigit]
  | false =>
      simp only [hexValue?, IsHexDigit, hdigit, Char.le_def, UInt32.le_iff_toNat_le, hval,
        toNat_toLower, Bool.false_eq_true, if_false, Char.reduceVal, UInt32.reduceToNat,
        Bool.and_eq_true, decide_eq_true_eq, Option.isSome_ite, false_or]
      split <;> omega

theorem escaped_cons {c : Char} {cs : List Char} (h : Escaped cs) : Escaped (c :: cs) := by
  obtain ⟨a, b, ha, hb, hin⟩ := h
  exact ⟨a, b, ha, hb, List.infix_cons hin⟩

theorem escaped_hex {a b : Char} {cs : List Char} {x y : Nat} (ha : hexValue? a = some x)
    (hb : hexValue? b = some y) : Escaped ('%' :: a :: b :: cs) := by
  refine ⟨a, b, isSome_hexValue?.1 ?_, isSome_hexValue?.1 ?_, ?_⟩
  · simp [ha]
  · simp [hb]
  · exact (List.prefix_append ['%', a, b] cs).isInfix

/-- An escape is at the beginning or in the rest. -/
theorem escaped_cons_iff {c : Char} {cs : List Char} :
    Escaped (c :: cs) ↔ (∃ a b ds x y, c = '%' ∧ cs = a :: b :: ds ∧ hexValue? a = some x ∧
      hexValue? b = some y) ∨ Escaped cs := by
  constructor
  · intro ⟨a, b, ha, hb, hin⟩
    cases List.infix_cons_iff.1 hin with
    | inl hfirst =>
        obtain ⟨ds, heq⟩ := hfirst
        cases heq
        obtain ⟨x, hx⟩ := Option.isSome_iff_exists.1 (isSome_hexValue?.2 ha)
        obtain ⟨y, hy⟩ := Option.isSome_iff_exists.1 (isSome_hexValue?.2 hb)
        exact .inl ⟨a, b, ds, x, y, rfl, rfl, hx, hy⟩
    | inr hrest => exact .inr ⟨a, b, ha, hb, hrest⟩
  · intro h
    cases h with
    | inl h =>
        obtain ⟨a, b, ds, x, y, rfl, rfl, hx, hy⟩ := h
        exact escaped_hex hx hy
    | inr h => exact escaped_cons h

theorem percentDecoded_of_not_escaped {cs : List Char} (h : ¬ Escaped cs) :
    percentDecoded cs = bytes (String.ofList cs) := by
  fun_induction percentDecoded cs with
  | case1 => rfl
  | case2 a b cs x y hb ha => exact absurd (escaped_hex ha hb) h
  | case3 a b cs hhex ih =>
      rw [ih fun hrest => h (escaped_cons hrest), bytes_ofList_cons '%']
      rfl
  | case4 c cs hshape ih =>
      rw [ih fun hrest => h (escaped_cons hrest), bytes_ofList_cons c, toList_toUTF8]

theorem length_percentDecoded_le (cs : List Char) :
    (percentDecoded cs).length ≤ byteLength cs := by
  fun_induction percentDecoded cs with
  | case1 => exact Nat.le_refl 0
  | case2 a b cs x y hb ha ih =>
      simp only [List.length_cons, byteLength_cons]
      have ha := Char.utf8Size_pos a
      omega
  | case3 a b cs hhex ih =>
      have hpercent : '%'.utf8Size = 1 := rfl
      simp only [List.length_cons, byteLength_cons] at ih ⊢
      omega
  | case4 c cs hshape ih =>
      rw [List.length_append, toList_toUTF8, length_bytes_singleton, byteLength_cons]
      omega

theorem length_percentDecoded_lt {cs : List Char} (h : Escaped cs) :
    (percentDecoded cs).length < byteLength cs := by
  fun_induction percentDecoded cs with
  | case1 =>
      obtain ⟨a, b, -, -, hin⟩ := h
      exact absurd (List.infix_nil.1 hin) (List.cons_ne_nil _ _)
  | case2 a b cs x y hb ha ih =>
      simp only [List.length_cons, byteLength_cons]
      have hle := length_percentDecoded_le cs
      have ha := Char.utf8Size_pos a
      have hb := Char.utf8Size_pos b
      have hpercent : '%'.utf8Size = 1 := rfl
      omega
  | case3 a b cs hhex ih =>
      have hpercent : '%'.utf8Size = 1 := rfl
      cases escaped_cons_iff.1 h with
      | inl h =>
          obtain ⟨a, b, ds, x, y, -, heq, hx, hy⟩ := h
          cases heq
          exact absurd hy (hhex x y hx)
      | inr h =>
          have hlt := ih h
          simp only [List.length_cons, byteLength_cons] at hlt ⊢
          omega
  | case4 c cs hshape ih =>
      cases escaped_cons_iff.1 h with
      | inl h =>
          obtain ⟨a, b, ds, x, y, hc, heq, -⟩ := h
          exact absurd heq (hshape a b ds hc)
      | inr h =>
          have hlt := ih h
          rw [List.length_append, toList_toUTF8, length_bytes_singleton, byteLength_cons]
          omega

/-- The password that the octets of a text with its escapes decoded are, if they are UTF-8. -/
def decoded? (p : String) : Option String :=
  String.fromUTF8? ⟨(percentDecoded p.toList).toArray⟩

theorem decoded?_eq_some {p q : String} :
    decoded? p = some q ↔ percentDecoded p.toList = bytes q := by
  rw [decoded?, fromUTF8?_eq_some]
  constructor
  · intro h
    rw [bytes, ← h]
  · intro h
    rw [h, bytes]

theorem decoded?_eq_self_iff {p : String} : decoded? p = some p ↔ ¬ Escaped p.toList := by
  rw [decoded?_eq_some]
  constructor
  · intro heq hescaped
    have hlt := length_percentDecoded_lt hescaped
    rw [heq, length_bytes] at hlt
    exact Nat.lt_irrefl _ hlt
  · intro h
    rw [percentDecoded_of_not_escaped h, String.ofList_toList]

/-! ### Parts -/

/-- The character does not end the authority of a connection string. -/
def inAuthority (c : Char) : Bool := c != '/' && c != '?' && c != '#'

/-- None of the signs that end a part of a connection string stands in the name of the host. Any
word of letters, digits, points and hyphens is such a name. -/
structure IsHost (host : String) : Prop where
  ne_empty : host ≠ ""
  plain : ∀ c ∈ host.toList, c ≠ ':' ∧ c ≠ '@' ∧ inAuthority c = true

theorem isHost_localhost : IsHost "localhost" where
  ne_empty := by decide
  plain := by
    have hall : "localhost".toList.all (fun c => c != ':' && c != '@' && inAuthority c) = true := by
      decide
    rw [List.all_eq_true] at hall
    intro c hc
    simpa [and_assoc] using hall c hc

/-- The password stands for itself where it is put into a connection string. -/
structure PlainPassword (p : String) : Prop where
  ne_empty : p ≠ ""
  inAuthority : ∀ c ∈ p.toList, inAuthority c = true
  unescaped : ¬ Escaped p.toList

/-- What a connection string of the settings should lead to. -/
def ServerSettings.target (s : ServerSettings) : Target :=
  ⟨s.host, s.tcpPort.toNat, s.password, s.database.toNat⟩

/-- The host and the port, as they are written. -/
def ServerSettings.place (s : ServerSettings) : List Char :=
  s.host.toList ++ ':' :: s.tcpPort.toNat.repr.toList

theorem splitUser_of_not_mem {place : List Char} (h : '@' ∉ place) :
    splitUser place = (none, place) := by
  have hall : ∀ c ∈ place.reverse, (c != '@') = true := by
    intro c hc
    rw [bne_iff_ne]
    intro heq
    rw [heq, List.mem_reverse] at hc
    exact h hc
  have hplace := takeWhile_append_of_stops hall stops_nil
  rw [List.append_nil] at hplace
  rw [splitUser, hplace, List.length_reverse, if_pos rfl]

/-- Whatever is in the user part, it ends at the last at sign. -/
theorem splitUser_append (user : List Char) {place : List Char} (h : '@' ∉ place) :
    splitUser (user ++ '@' :: place) = (some user, place) := by
  have hall : ∀ c ∈ place.reverse, (c != '@') = true := by
    intro c hc
    rw [bne_iff_ne]
    intro heq
    rw [heq, List.mem_reverse] at hc
    exact h hc
  have hplace : (user ++ '@' :: place).reverse.takeWhile (· != '@') = place.reverse := by
    rw [List.reverse_append, List.reverse_cons, List.append_assoc]
    exact takeWhile_append_of_stops hall (stops_cons.2 rfl)
  have hlonger : ¬ place.reverse.length = (user ++ '@' :: place).length := by
    simp
    omega
  have huser : (user ++ '@' :: place).length - place.reverse.length - 1 = user.length := by
    simp
    omega
  rw [splitUser, hplace, if_neg hlonger, huser, List.take_left, List.reverse_reverse]

theorem splitUser_fst (authority : List Char) :
    ∃ k, (splitUser authority).1.getD [] = authority.take k := by
  rw [splitUser]
  split
  · exact ⟨0, rfl⟩
  · exact ⟨_, rfl⟩

theorem toList_connectionString (s : ServerSettings) :
    s.connectionString.toList = "redis://".toList ++
      (((s.password.map fun p => ':' :: p.toList ++ ['@']).getD [] ++ s.place) ++
        '/' :: s.database.toNat.repr.toList) := by
  have hport : toString s.tcpPort = s.tcpPort.toNat.repr := rfl
  have hdatabase : toString s.database = s.database.toNat.repr := rfl
  delta ServerSettings.connectionString
  rw [hport, hdatabase, ServerSettings.place]
  cases s.password with
  | none => simp
  | some p => simp

/-- A string is read from its authority and what follows that. -/
theorem read?_eq {s : String} {authority tail : List Char}
    (hs : s.toList = "redis://".toList ++ (authority ++ tail))
    (hauthority : ∀ c ∈ authority, inAuthority c = true) (htail : Stops inAuthority tail) :
    Target.read? s =
      (passwordOf? ((splitUser authority).1.getD [])).bind fun password =>
        let place := (splitUser authority).2
        let host := place.takeWhile (· != ':')
        if host.isEmpty then none
        else
          (numberOr? 65535 6379 ((place.drop host.length).drop 1)).bind fun listening =>
            (numberOr? (UInt64.size / 2 - 1) 0
              ((tail.takeWhile fun c => c != '?' && c != '#').drop 1)).bind fun database =>
                some ⟨String.ofList host, listening, password, database⟩ := by
  have hprefix : "redis://".toList.isPrefixOf? s.toList = some (authority ++ tail) := by
    rw [List.isPrefixOf?_eq_some_iff_append_eq, hs]
  have htake : (authority ++ tail).takeWhile (fun c => c != '/' && c != '?' && c != '#') =
      authority := takeWhile_append_of_stops hauthority htail
  rw [Target.read?, hprefix, Option.bind_eq_bind, Option.bind_some, htake]
  dsimp only
  rw [List.drop_left]
  rfl

theorem numberOr?_repr {limit n : Nat} (absent : Nat) (h : n ≤ limit) :
    numberOr? limit absent n.repr.toList = some n := by
  have hne : n.repr.toList.isEmpty = false := by
    simp
  rw [numberOr?, hne, String.ofList_toList]
  exact readNatural_repr h

theorem passwordOf?_of_read? {s : String} {authority tail : List Char} {t : Target}
    (hs : s.toList = "redis://".toList ++ (authority ++ tail))
    (hauthority : ∀ c ∈ authority, inAuthority c = true) (htail : Stops inAuthority tail)
    (h : Target.read? s = some t) :
    passwordOf? ((splitUser authority).1.getD []) = some t.password := by
  rw [read?_eq hs hauthority htail, Option.bind_eq_some_iff] at h
  obtain ⟨password, hpassword, h⟩ := h
  dsimp only at h
  split at h
  · contradiction
  · obtain ⟨listening, -, h⟩ := Option.bind_eq_some_iff.1 h
    obtain ⟨database, -, h⟩ := Option.bind_eq_some_iff.1 h
    cases h
    exact hpassword

variable {s : ServerSettings} {p q : String}

theorem isDigit_of_mem_repr {n : Nat} {c : Char} (h : c ∈ n.repr.toList) : c.isDigit = true := by
  rw [Nat.repr_eq_ofList_toDigits, String.toList_ofList] at h
  exact Nat.isDigit_of_mem_toDigits (by decide) (by decide) h

theorem plain_of_isDigit {c : Char} (h : c.isDigit = true) : c ≠ '@' ∧ inAuthority c = true := by
  constructor
  · rintro rfl
    contradiction
  · simp only [inAuthority, Bool.and_eq_true, bne_iff_ne]
    refine ⟨⟨?_, ?_⟩, ?_⟩
    all_goals
      rintro rfl
      contradiction

theorem IsHost.place (hs : IsHost s.host) {c : Char} (h : c ∈ s.place) :
    c ≠ '@' ∧ inAuthority c = true := by
  rw [ServerSettings.place, List.mem_append, List.mem_cons] at h
  rcases h with h | rfl | h
  · exact (hs.plain c h).2
  · decide
  · exact plain_of_isDigit (isDigit_of_mem_repr h)

theorem stops_path (n : Nat) : Stops inAuthority ('/' :: n.repr.toList) := stops_cons.2 rfl

/-- The host, the port and the database are read behind any user part that does not end early. -/
theorem read?_of_user (hs : IsHost s.host) {text : String} {authority : List Char}
    (htext : text.toList = "redis://".toList ++ (authority ++ '/' :: s.database.toNat.repr.toList))
    (hauthority : ∀ c ∈ authority, inAuthority c = true) {user : Option (List Char)}
    (huser : splitUser authority = (user, s.place)) :
    Target.read? text =
      (passwordOf? (user.getD [])).map fun password => { s.target with password := password } := by
  have hhost : s.place.takeWhile (· != ':') = s.host.toList :=
    takeWhile_append_of_stops (fun c hc => bne_iff_ne.2 (hs.plain c hc).1) (stops_cons.2 rfl)
  have hrest : (s.place.drop s.host.toList.length).drop 1 = s.tcpPort.toNat.repr.toList := by
    rw [ServerSettings.place, List.drop_left, List.drop_one, List.tail_cons]
  have hpath : ('/' :: s.database.toNat.repr.toList).takeWhile (fun c => c != '?' && c != '#') =
      '/' :: s.database.toNat.repr.toList := by
    have hall : ∀ c ∈ '/' :: s.database.toNat.repr.toList, (c != '?' && c != '#') = true := by
      intro c hc
      cases List.mem_cons.1 hc with
      | inl h =>
          rw [h]
          rfl
      | inr h =>
          have hplain := (plain_of_isDigit (isDigit_of_mem_repr h)).2
          simp only [inAuthority, Bool.and_eq_true] at hplain ⊢
          exact ⟨hplain.1.2, hplain.2⟩
    have htake := takeWhile_append_of_stops hall stops_nil
    rwa [List.append_nil] at htake
  have hport : s.tcpPort.toNat ≤ 65535 := Nat.le_of_lt_succ s.tcpPort.toNat_lt
  have hdatabase : s.database.toNat ≤ UInt64.size / 2 - 1 := by
    have hlt := s.database.toNat_lt
    change s.database.toNat ≤ 2 ^ 63 - 1
    omega
  have hne : s.host.toList.isEmpty = false := by
    simpa using hs.ne_empty
  rw [read?_eq htext hauthority (stops_path _), huser]
  cases passwordOf? (user.getD []) with
  | none => rfl
  | some password =>
      simp only [Option.bind_some, Option.map_some, hhost, hrest, hpath, hne, List.drop_one,
        List.tail_cons, numberOr?_repr _ hport, numberOr?_repr _ hdatabase, String.ofList_toList,
        Bool.false_eq_true, if_false, ServerSettings.target]

theorem not_mem_place (hs : IsHost s.host) : '@' ∉ s.place := fun h => (hs.place h).1 rfl

theorem read?_without_password (hs : IsHost s.host) (hpassword : s.password = none) :
    Target.read? s.connectionString = some s.target := by
  have htext := toList_connectionString s
  rw [hpassword] at htext
  rw [read?_of_user hs htext (fun c hc => (hs.place hc).2)
    (splitUser_of_not_mem (not_mem_place hs))]
  rw [ServerSettings.target, hpassword]
  rfl

theorem read?_of_inAuthority (hs : IsHost s.host) (hpassword : s.password = some p)
    (hp : ∀ c ∈ p.toList, inAuthority c = true) :
    Target.read? s.connectionString =
      (passwordOf? (':' :: p.toList)).map fun password => { s.target with password := password } := by
  have htext := toList_connectionString s
  have hauthority : ((s.password.map fun p => ':' :: p.toList ++ ['@']).getD [] ++ s.place) =
      (':' :: p.toList) ++ '@' :: s.place := by
    rw [hpassword]
    simp
  rw [hauthority] at htext
  have hinner : ∀ c ∈ (':' :: p.toList) ++ '@' :: s.place, inAuthority c = true := by
    intro c hc
    rw [List.mem_append, List.mem_cons, List.mem_cons] at hc
    rcases hc with (rfl | hc) | rfl | hc
    · rfl
    · exact hp c hc
    · rfl
    · exact (hs.place hc).2
  exact read?_of_user hs htext hinner (splitUser_append _ (not_mem_place hs))

theorem passwordOf?_colon (hne : p ≠ "") :
    passwordOf? (':' :: p.toList) = (decoded? p).map some := by
  have hchars : p.toList ≠ [] := by simpa using hne
  obtain ⟨c, cs, hcs⟩ := List.exists_cons_of_ne_nil hchars
  rw [decoded?, hcs]
  rfl

/-! ### Passwords that end the authority -/

theorem byteLength_take_le (cs : List Char) (k : Nat) : byteLength (cs.take k) ≤ byteLength cs := by
  calc byteLength (cs.take k)
    _ ≤ byteLength (cs.take k) + byteLength (cs.drop k) := Nat.le_add_right _ _
    _ = byteLength cs := by rw [← byteLength_append, List.take_append_drop]

/-- What is read as the password is no longer than what stands after the first colon. -/
theorem length_of_passwordOf? {cs : List Char} {k : Nat}
    (h : passwordOf? ((':' :: cs).take k) = some (some p)) : (bytes p).length ≤ byteLength cs := by
  cases k with
  | zero => cases h
  | succ k =>
      have hdrop : (((':' :: cs).take (k + 1)).dropWhile (· != ':')).drop 1 = cs.take k := rfl
      rw [passwordOf?, hdrop] at h
      split at h
      · cases h
      · obtain ⟨q, hq, heq⟩ := Option.map_eq_some_iff.1 h
        cases heq
        have hdecoded : percentDecoded (cs.take k) = bytes p := by
          rw [bytes, ← fromUTF8?_eq_some.1 hq]
        calc (bytes p).length
          _ = (percentDecoded (cs.take k)).length := by rw [hdecoded]
          _ ≤ byteLength (cs.take k) := length_percentDecoded_le _
          _ ≤ byteLength cs := byteLength_take_le cs k

/-- A password that ends the authority is not what is read. -/
theorem password_ne_of_read? (hpassword : s.password = some p)
    (hp : ¬ ∀ c ∈ p.toList, inAuthority c = true) {t : Target}
    (h : Target.read? s.connectionString = some t) : t.password ≠ some p := by
  obtain ⟨taken, rest, hcut, htaken, hrest⟩ := exists_cut inAuthority p.toList
  cases rest with
  | nil =>
      rw [List.append_nil] at hcut
      rw [hcut] at hp
      exact absurd htaken hp
  | cons c rest =>
      have htext := toList_connectionString s
      have hparts : ((s.password.map fun p => ':' :: p.toList ++ ['@']).getD [] ++ s.place) ++
          '/' :: s.database.toNat.repr.toList =
          (':' :: taken) ++ (c :: rest ++ '@' :: s.place ++ '/' :: s.database.toNat.repr.toList) := by
        rw [hpassword]
        simp [hcut]
      rw [hparts] at htext
      have hauthority : ∀ d ∈ ':' :: taken, inAuthority d = true :=
        List.forall_mem_cons.2 ⟨rfl, htaken⟩
      have hread := passwordOf?_of_read? htext hauthority (stops_cons.2 (stops_cons.1 hrest)) h
      obtain ⟨k, hk⟩ := splitUser_fst (':' :: taken)
      intro heq
      rw [hk, heq] at hread
      have hle := length_of_passwordOf? hread
      rw [length_bytes, hcut, byteLength_append, byteLength_cons] at hle
      have hsize := Char.utf8Size_pos c
      omega

theorem read?_eq_target_iff (hs : IsHost s.host) :
    Target.read? s.connectionString = some s.target ↔ ∀ p, s.password = some p → PlainPassword p := by
  cases hpassword : s.password with
  | none => simp [read?_without_password hs hpassword]
  | some p =>
      constructor
      · intro h q hq
        cases hq
        have hinner : ∀ c ∈ p.toList, inAuthority c = true := by
          refine Classical.byContradiction fun hends => ?_
          exact password_ne_of_read? hpassword hends h hpassword
        rw [read?_of_inAuthority hs hpassword hinner] at h
        obtain ⟨password, hread, htarget⟩ := Option.map_eq_some_iff.1 h
        have hsame : password = some p := by
          rw [← hpassword]
          exact congrArg Target.password htarget
        have hne : p ≠ "" := by
          rintro rfl
          rw [hsame] at hread
          cases hread
        rw [hsame, passwordOf?_colon hne, Option.map_eq_some_iff] at hread
        obtain ⟨q, hq, heq⟩ := hread
        cases heq
        exact ⟨hne, hinner, decoded?_eq_self_iff.1 hq⟩
      · intro h
        have hp := h p rfl
        rw [read?_of_inAuthority hs hpassword hp.inAuthority, passwordOf?_colon hp.ne_empty,
          decoded?_eq_self_iff.2 hp.unescaped, Option.map_some, Option.map_some, ← hpassword]
        rfl

/-- A connection string leads to what the settings say just if the password, where there is one,
stands for itself in it; then that is what the server is greeted with. A password that does not end
the authority never changes the host, the port or the database, and comes back decoded. -/
theorem connection_string_carries_plain_passwords (s : ServerSettings) (hs : IsHost s.host) :
    (Target.read? s.connectionString = some s.target ↔
      ∀ p, s.password = some p → PlainPassword p) ∧
    ((∀ p, s.password = some p → PlainPassword p) → ∀ replies,
      ((Endpoint.answering replies).connect s).result = .ok replies ∧
        ((Endpoint.answering replies).connect s).commands = Endpoint.greeting s.target) ∧
    (∀ p, s.password = some p → p ≠ "" → (∀ c ∈ p.toList, inAuthority c = true) →
      Target.read? s.connectionString =
        (decoded? p).map fun q => { s.target with password := some q }) ∧
    ∀ p t, s.password = some p → ¬ (∀ c ∈ p.toList, inAuthority c = true) →
      Target.read? s.connectionString = some t → t.password ≠ some p := by
  refine ⟨read?_eq_target_iff hs, ?_, ?_, ?_⟩
  · intro h replies
    have hread := (read?_eq_target_iff hs).2 h
    delta Endpoint.connect
    rw [hread]
    exact ⟨rfl, rfl⟩
  · intro p hpassword hne hp
    rw [read?_of_inAuthority hs hpassword hp, passwordOf?_colon hne, Option.map_map]
    rfl
  · intro p t hpassword hp h
    exact password_ne_of_read? hpassword hp h

theorem connection_string_carries_plain_passwords_with_signs :
    let s : ServerSettings := { ServerSettings.default with password := some "p@ss:100%" }
    IsHost s.host ∧ Target.read? s.connectionString =
      some ⟨"localhost", 6379, some "p@ss:100%", 0⟩ := by
  intro s
  have hhost : IsHost s.host := isHost_localhost
  have hplain : ∀ p, s.password = some p → PlainPassword p := by
    intro p hp
    cases hp
    refine ⟨by decide, List.all_eq_true.1 (by decide), ?_⟩
    refine decoded?_eq_self_iff.1 ?_
    decide +kernel
  exact ⟨hhost, (connection_string_carries_plain_passwords s hhost).1.2 hplain⟩

/-- An escape in a password is decoded, so that another password is sent; and behind a question mark
in it another host is read. -/
theorem escape_in_password_is_decoded :
    let s (p : String) : ServerSettings := { ServerSettings.default with password := some p }
    IsHost (s "%41").host ∧ "%41" ≠ "" ∧
      Target.read? (s "%41").connectionString = some ⟨"localhost", 6379, some "A", 0⟩ ∧
      Target.read? (s "%41").connectionString ≠ some (s "%41").target ∧
      Target.read? (s "pw@elsewhere?").connectionString =
        some ⟨"elsewhere", 6379, some "pw", 0⟩ := by
  intro s
  refine ⟨isHost_localhost, by decide, ?_, ?_, ?_⟩
  all_goals decide +kernel

end AlertPolicy.Store
