import AlertPolicy.Settings
import Mathlib.Logic.Function.Basic

/-!
A profile is laid over the environment: the settings under it are those that are read without a
profile once each key has been given the value of its variable under the profile, where that has one.
What is found there counts before it is known to be of use, and no variable stands for two keys.
-/

namespace AlertPolicy

open Number Store Time

/-! ### Names -/

namespace SettingKey

def all : List SettingKey :=
  [policyFile, tick, reportFormat, host, tcpPort, password, database, window, root, plugin, kind]

theorem mem_all (k : SettingKey) : k ∈ all := by cases k <;> decide

def ofName? (n : String) : Option SettingKey := all.find? (·.name == n)

theorem ofName?_name (k : SettingKey) : ofName? k.name = some k := by cases k <;> decide

theorem name_injective : Function.Injective name := by
  intro k k' h
  have hread := ofName?_name k
  rw [h, ofName?_name] at hread
  exact (Option.some.inj hread).symm

theorem profiledName_injective (profile : String) : Function.Injective (profiledName profile) := by
  intro k k' h
  apply name_injective
  simpa [profiledName] using h

theorem isSuffix_of_profiledName_eq {k : SettingKey} {profile n : String}
    (h : k.profiledName profile = n) : '_' :: k.name.toList <:+ n.toList := by
  refine ⟨profile.toList, ?_⟩
  rw [← h]
  simp [profiledName]

/-- No key's name ends in an underscore and another key's name, so that the variables of a profile
are none of those without one, whatever its name is. -/
theorem profiledName_ne_name (profile : String) (k k' : SettingKey) :
    k.profiledName profile ≠ k'.name := by
  intro h
  have hnever : ∀ k ∈ all, ∀ k' ∈ all, ¬ '_' :: k.name.toList <:+ k'.name.toList := by decide
  exact hnever k (mem_all k) k' (mem_all k') (isSuffix_of_profiledName_eq h)

end SettingKey

/-! ### Environments -/

namespace Environment

variable {env env' : Environment} {names : List String} {n : String}

def unset (env : Environment) (name : String) : Environment :=
  fun n => if n = name then none else env n

/-- The same variables, but for those that are named. -/
def AgreeOff (names : List String) (env env' : Environment) : Prop :=
  ∀ n, n ∉ names → env n = env' n

/-- The variables with those of a profile laid over them. Each key has the value of its variable
under the profile if that is a text and not empty, and its own otherwise. -/
def overlay (env : Environment) (profile : String) : Environment := fun n =>
  match SettingKey.ofName? n with
  | some k =>
      if (env.value? (k.profiledName profile)).isSome then env (k.profiledName profile) else env n
  | none => env n

theorem value?_congr (h : env n = env' n) : env.value? n = env'.value? n := by
  simp only [value?, text?, h]

theorem AgreeOff.value? (h : AgreeOff names env env') (hn : n ∉ names) :
    env.value? n = env'.value? n := value?_congr (h n hn)

theorem agreeOff_unset (env : Environment) (name : String) :
    AgreeOff [name] env (env.unset name) := by
  intro n hn
  rw [List.mem_singleton] at hn
  simp [unset, hn]

theorem value?_unset (env : Environment) (name : String) : (env.unset name).value? name = none := by
  simp [Environment.value?, text?, unset]

theorem value?_overlay (env : Environment) (profile : String) (k : SettingKey) :
    (env.overlay profile).value? k.name =
      (env.value? (k.profiledName profile)).or (env.value? k.name) := by
  have hlaid : env.overlay profile k.name =
      if (env.value? (k.profiledName profile)).isSome then env (k.profiledName profile)
      else env k.name := by
    simp only [overlay, SettingKey.ofName?_name]
  cases hvalue : env.value? (k.profiledName profile) with
  | none =>
      simp only [hvalue, Option.isSome_none, Bool.false_eq_true, if_false] at hlaid
      simp only [Environment.value?, text?, hlaid, Option.none_or]
  | some v =>
      simp only [hvalue, Option.isSome_some, if_true] at hlaid
      rw [Option.some_or, ← hvalue]
      simp only [Environment.value?, text?, hlaid]

end Environment

/-! ### Lookups -/

namespace SettingKey

variable {env env' : Environment} {profile : String} {k k' : SettingKey}

theorem lookup?_without_profile (env : Environment) (k : SettingKey) :
    k.lookup? env "" = env.value? k.name := rfl

theorem lookup?_of_ne (env : Environment) (h : profile ≠ "") (k : SettingKey) :
    k.lookup? env profile = (env.value? (k.profiledName profile)).or (env.value? k.name) := by
  simp [lookup?, h]

theorem lookup?_overlay (env : Environment) (h : profile ≠ "") (k : SettingKey) :
    k.lookup? (env.overlay profile) "" = k.lookup? env profile := by
  rw [lookup?_without_profile, Environment.value?_overlay, lookup?_of_ne env h]

/-- The variables of one key, under the profile and without it, are not looked at for another. -/
theorem lookup?_congr (h : env.AgreeOff [k.name, k.profiledName profile] env') (hne : k' ≠ k) :
    k'.lookup? env profile = k'.lookup? env' profile := by
  have hname : k'.name ∉ [k.name, k.profiledName profile] := by
    simp [name_injective.ne hne, (profiledName_ne_name profile k k').symm]
  have hprofiled : k'.profiledName profile ∉ [k.name, k.profiledName profile] := by
    simp [profiledName_ne_name profile k' k, (profiledName_injective profile).ne hne]
  simp only [lookup?, h.value? hname, h.value? hprofiled]

/-- A variable of the profile that gives nothing may as well be unset. -/
theorem lookup?_unset (h : profile ≠ "") (hnone : env.value? (k.profiledName profile) = none)
    (k' : SettingKey) :
    k'.lookup? env profile = k'.lookup? (env.unset (k.profiledName profile)) profile := by
  have hagree := env.agreeOff_unset (k.profiledName profile)
  have hname : k'.name ∉ [k.profiledName profile] := by
    simp [(profiledName_ne_name profile k k').symm]
  rw [lookup?_of_ne env h, lookup?_of_ne _ h, hagree.value? hname]
  by_cases hk : k' = k
  · rw [hk, hnone, Environment.value?_unset]
  · have hprofiled : k'.profiledName profile ∉ [k.profiledName profile] := by
      simp [(profiledName_injective profile).ne hk]
    rw [hagree.value? hprofiled]

/-- Where the variable of the profile gives a text, the key's own variable is not looked at. -/
theorem lookup?_of_value? {v : String} (h : profile ≠ "")
    (hv : env.value? (k.profiledName profile) = some v) (hagree : env.AgreeOff [k.name] env')
    (k' : SettingKey) : k'.lookup? env profile = k'.lookup? env' profile := by
  have hprofiled : k'.profiledName profile ∉ [k.name] := by
    simp [profiledName_ne_name profile k' k]
  rw [lookup?_of_ne env h, lookup?_of_ne _ h, ← hagree.value? hprofiled]
  by_cases hk : k' = k
  · rw [hk, hv, Option.some_or, Option.some_or]
  · have hname : k'.name ∉ [k.name] := by
      simp [name_injective.ne hk]
    rw [hagree.value? hname]

end SettingKey

/-! ### Settings -/

namespace SettingKey

/-- Whether a value can be used for a key. Any text can be, where a text is asked for. -/
def usable (k : SettingKey) (s : String) : Bool :=
  match k with
  | tick => (Duration.parse? s).isSome
  | reportFormat => (ReportFormat.parse s).toOption.isSome
  | tcpPort | database => (readNatural (UInt16.size - 1) s).isSome
  | window => (readNatural (UInt64.size - 1) s).isSome
  | policyFile | host | password | root | plugin | kind => true

end SettingKey

namespace Settings

variable {env env' : Environment} {profile : String} {k : SettingKey}

/-- The settings with the default of one key. -/
def reset (s : Settings) : SettingKey → Settings
  | .policyFile => { s with policyFile := "policy.yaml" }
  | .tick => { s with tick := .oneSecond }
  | .reportFormat => { s with format := .text }
  | .host => { s with server.host := "localhost" }
  | .tcpPort => { s with server.tcpPort := 6379 }
  | .password => { s with server.password := none }
  | .database => { s with server.database := 0 }
  | .window => { s with server.window := 60 }
  | .root => { s with server.layout.root := "collectd" }
  | .plugin => { s with server.layout.plugin := "virt" }
  | .kind => { s with server.layout.kind := "if_octets" }

/-- A value that cannot be used gives the default of its key, whatever there is for it elsewhere. -/
theorem ofValues_eq_reset {value value' : SettingKey → Option String} {v : String}
    (hvalue : value k = some v) (husable : k.usable v = false)
    (hothers : ∀ k', k' ≠ k → value k' = value' k') :
    ofValues profile value = (ofValues profile value').reset k := by
  have hkept : value = Function.update value' k (some v) :=
    Function.eq_update_iff.2 ⟨hvalue, hothers⟩
  subst hkept
  cases k <;> simp [SettingKey.usable] at husable
  all_goals
    simp [ofValues, reset, tickOf, formatOf, word16, word64, husable, ServerSettings.default]

/-- The settings and what is said of values depend on what is found for the keys, and on the
environment not otherwise. -/
theorem forProfile_congr
    (h : ∀ k : SettingKey, k.lookup? env (Text.upper profile) = k.lookup? env' (Text.upper profile)) :
    forProfile env profile = forProfile env' profile ∧
      readingEvents env profile = readingEvents env' profile := by
  have hvalue : SettingKey.lookup? env (Text.upper profile) =
      SettingKey.lookup? env' (Text.upper profile) := funext h
  simp only [forProfile, readingEvents, hvalue, and_self]

theorem forProfile_overlay (env : Environment) (h : Text.upper profile ≠ "") :
    let laid := env.overlay (Text.upper profile)
    forProfile env profile = { forProfile laid "" with profile := Text.upper profile } ∧
      readingEvents env profile = readingEvents laid "" := by
  intro laid
  have hvalue : SettingKey.lookup? laid "" = SettingKey.lookup? env (Text.upper profile) :=
    funext (SettingKey.lookup?_overlay env h)
  have hupper : Text.upper "" = "" := rfl
  simp only [forProfile, readingEvents, hupper, hvalue, ofValues, and_self]

/-- A profile is an overlay. The settings under it and what is said of values are those without a
profile in the environment with the variables of the profile laid over it. A variable of the profile
that gives no text, or an empty one, may as well be unset; one that gives a text decides, whatever
the key's own variable is. A text that is of no use for its key leaves the key with its default and
every other key as it is. -/
theorem profile_is_overlay (env : Environment) (profile : String) (h : Text.upper profile ≠ "") :
    let p := Text.upper profile
    let laid := env.overlay p
    let Alike (env' : Environment) := forProfile env profile = forProfile env' profile ∧
      readingEvents env profile = readingEvents env' profile
    (forProfile env profile = { forProfile laid "" with profile := p } ∧
      readingEvents env profile = readingEvents laid "") ∧
    ∀ k : SettingKey,
      (env.value? (k.profiledName p) = none → Alike (env.unset (k.profiledName p))) ∧
      ∀ v, env.value? (k.profiledName p) = some v →
        (∀ env', env.AgreeOff [k.name] env' → Alike env') ∧
        (k.usable v = false → ∀ env', env.AgreeOff [k.name, k.profiledName p] env' →
          forProfile env profile = (forProfile env' profile).reset k ∧
            ∀ k', k' ≠ k → k'.lookup? env p = k'.lookup? env' p) := by
  intro p laid Alike
  refine ⟨forProfile_overlay env h, fun k => ⟨?_, fun v hv => ⟨?_, ?_⟩⟩⟩
  · intro hnone
    exact forProfile_congr fun k' => SettingKey.lookup?_unset h hnone k'
  · intro env' hagree
    exact forProfile_congr fun k' => SettingKey.lookup?_of_value? h hv hagree k'
  · intro husable env' hagree
    have hothers : ∀ k', k' ≠ k → k'.lookup? env p = k'.lookup? env' p :=
      fun k' hk => SettingKey.lookup?_congr hagree hk
    have hvalue : k.lookup? env p = some v := by
      rw [SettingKey.lookup?_of_ne env h, hv, Option.some_or]
    exact ⟨ofValues_eq_reset hvalue husable hothers, hothers⟩

theorem profile_is_overlay_prod :
    let env := ((Environment.empty.set "POLICY_TICK" "5s").set "PROD_POLICY_TICK" "0s").set
      "PROD_REDIS_HOST" "db"
    let s := forProfile env "prod"
    Text.upper "prod" ≠ "" ∧ s = { forProfile (env.overlay "PROD") "" with profile := "PROD" } ∧
      s.tick = .oneSecond ∧ s.server.host = "db" ∧
      (readingEvents env "prod").map (·.fields) = [[("value", "0s")]] := by
  intro env s
  have hupper : Text.upper "prod" = "PROD" := by decide +kernel
  have hne : Text.upper "prod" ≠ "" := by decide +kernel
  have hoverlay := (profile_is_overlay env "prod" hne).1.1
  rw [hupper] at hoverlay
  refine ⟨hne, hoverlay, ?_, ?_, ?_⟩
  all_goals decide +kernel

end Settings

end AlertPolicy
