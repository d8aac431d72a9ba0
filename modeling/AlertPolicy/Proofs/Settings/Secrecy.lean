import AlertPolicy.Proofs.Settings.Overlay
import AlertPolicy.Store.Server

/-!
Secrecy of the password. Environments that differ in nothing but the variables of the password give
settings that differ in nothing but the password, and what is logged from the first look at the
environment to a connection tells of it only whether there is one.
-/

namespace AlertPolicy

open Store

/-! ### Variables -/

namespace SettingKey

/-- The variables that a key can be given in, under a profile and without it. -/
def variableNames (k : SettingKey) (profile : String) : List String :=
  [k.name, k.profiledName profile]

/-- The profile is not named by a variable of any key. -/
theorem profileVariable_not_mem_variableNames (k : SettingKey) (profile : String) :
    Settings.profileVariable ∉ k.variableNames profile := by
  have hnever : ∀ k ∈ all, Settings.profileVariable ≠ k.name ∧
      ¬ '_' :: k.name.toList <:+ Settings.profileVariable.toList := by decide
  obtain ⟨hname, hends⟩ := hnever k (mem_all k)
  have hprofiled : Settings.profileVariable ≠ k.profiledName profile :=
    fun h => hends (isSuffix_of_profiledName_eq h.symm)
  simp [variableNames, hname, hprofiled]

end SettingKey

namespace Settings

variable {env env' : Environment} {profile : String} {s : Settings}

theorem activeProfile_congr {names : List String} (h : env.AgreeOff names env')
    (hn : profileVariable ∉ names) : activeProfile env = activeProfile env' := by
  simp only [activeProfile, Environment.text?, h profileVariable hn]

/-! ### Settings that differ in the password -/

/-- The settings with another password, or without one. -/
def withPassword (s : Settings) (password : Option String) : Settings :=
  { s with server.password := password }

theorem ofValues_withPassword {value value' : SettingKey → Option String}
    (h : ∀ k, k ≠ .password → value k = value' k) :
    ofValues profile value' = (ofValues profile value).withPassword (value' .password) := by
  have hkept : value' = Function.update value .password (value' .password) :=
    Function.eq_update_iff.2 ⟨rfl, fun k hk => (h k hk).symm⟩
  rw [hkept]
  simp [ofValues, withPassword]

theorem summaryEvents_withPassword {password : Option String}
    (h : s.server.password.isSome = password.isSome) :
    (s.withPassword password).summaryEvents = s.summaryEvents := by
  unfold summaryEvents summaryLines
  rw [h]
  rfl

end Settings

/-! ### Connections -/

namespace Store.Endpoint

variable {e : Endpoint} {s : ServerSettings} {r : Replies}

/-- A connection that was made is noted with the place it was made to. -/
theorem events_connect (h : (e.connect s).result = .ok r) :
    (e.connect s).events = [⟨.info, "connected to redis sample store",
      [("host", s.host), ("port", toString s.tcpPort), ("db", toString s.database)]⟩] := by
  unfold connect at h ⊢
  split at h
  · rfl
  · cases h

theorem result_connect {t : Target} (h : Target.read? s.connectionString = some t) (r : Replies) :
    ((answering r).connect s).result = .ok r := by
  unfold connect
  rw [h]

end Store.Endpoint

/-! ### Two runs -/

namespace Settings

variable {env env' : Environment} {profile : String}

theorem forProfile_withPassword
    (h : env.AgreeOff (SettingKey.variableNames .password (Text.upper profile)) env') :
    forProfile env' profile =
        (forProfile env profile).withPassword (forProfile env' profile).server.password ∧
      readingEvents env profile = readingEvents env' profile := by
  have hothers : ∀ k, k ≠ .password →
      SettingKey.lookup? env (Text.upper profile) k =
        SettingKey.lookup? env' (Text.upper profile) k :=
    fun k hk => SettingKey.lookup?_congr h hk
  refine ⟨ofValues_withPassword hothers, ?_⟩
  simp only [readingEvents, hothers .tick (by decide), hothers .reportFormat (by decide)]

/-- The password is kept out of the log. Let two environments differ in the variables of the
password only, and let there be a password in both of them or in neither. Then they name the same
profile; under any profile, all settings but the password are the same, and so is what is said of
values that cannot be used, the summary, and what is noted of two connections that were made, which
may be made to different servers. -/
theorem password_is_not_logged
    (hagree : env.AgreeOff (SettingKey.variableNames .password (Text.upper profile)) env')
    (hgiven : (forProfile env profile).server.password.isSome =
      (forProfile env' profile).server.password.isSome) :
    let s := forProfile env profile
    let s' := forProfile env' profile
    activeProfile env = activeProfile env' ∧
    s' = s.withPassword s'.server.password ∧
    readingEvents env profile = readingEvents env' profile ∧
    s.summaryEvents = s'.summaryEvents ∧
    ∀ (e e' : Endpoint) (r r' : Replies),
      (e.connect s.server).result = .ok r → (e'.connect s'.server).result = .ok r' →
      (e.connect s.server).events = (e'.connect s'.server).events := by
  intro s s'
  obtain ⟨hsettings, hreading⟩ := forProfile_withPassword hagree
  refine ⟨activeProfile_congr hagree (SettingKey.profileVariable_not_mem_variableNames _ _),
    hsettings, hreading, ?_, ?_⟩
  · have hsummary := summaryEvents_withPassword hgiven
    rw [← hsettings] at hsummary
    exact hsummary.symm
  · intro e e' r r' hmade hmade'
    have hserver : s'.server = { s.server with password := s'.server.password } :=
      congrArg server hsettings
    rw [Endpoint.events_connect hmade, Endpoint.events_connect hmade', hserver]

theorem password_is_not_logged_prod :
    let common := (Environment.empty.set "POLICY_TICK" "often").set "REDIS_HOST" "db"
    let env := common.set "PROD_REDIS_PASSWORD" "first"
    let env' := common.set "REDIS_PASSWORD" "second"
    let server := Endpoint.answering ⟨fun _ => none, fun _ => none⟩
    let s := forProfile env "prod"
    let s' := forProfile env' "prod"
    env.AgreeOff (SettingKey.variableNames .password (Text.upper "prod")) env' ∧
      s.server.password = some "first" ∧ s'.server.password = some "second" ∧
      (readingEvents env "prod").map (·.fields) = [[("value", "often")]] ∧
      readingEvents env "prod" = readingEvents env' "prod" ∧
      s.summaryEvents = s'.summaryEvents ∧
      (server.connect s.server).events ≠ [] ∧
      (server.connect s.server).events = (server.connect s'.server).events := by
  intro common env env' server s s'
  have hupper : Text.upper "prod" = "PROD" := by decide +kernel
  have hagree : env.AgreeOff (SettingKey.variableNames .password (Text.upper "prod")) env' := by
    rw [hupper]
    intro n hn
    obtain ⟨hname, hprofiled⟩ : n ≠ "REDIS_PASSWORD" ∧ n ≠ "PROD_REDIS_PASSWORD" := by
      simpa [SettingKey.variableNames, SettingKey.name, SettingKey.profiledName] using hn
    simp [env, env', Environment.set, hname, hprofiled]
  have hfirst : s.server.password = some "first" := by decide +kernel
  have hsecond : s'.server.password = some "second" := by decide +kernel
  have hread : Target.read? s.server.connectionString = some ⟨"db", 6379, some "first", 0⟩ := by
    decide +kernel
  have hread' : Target.read? s'.server.connectionString = some ⟨"db", 6379, some "second", 0⟩ := by
    decide +kernel
  have hmade := Endpoint.result_connect hread ⟨fun _ => none, fun _ => none⟩
  have hmade' := Endpoint.result_connect hread' ⟨fun _ => none, fun _ => none⟩
  obtain ⟨-, -, hreading, hsummary, hconnect⟩ :=
    password_is_not_logged hagree (by rw [hfirst, hsecond]; rfl)
  refine ⟨hagree, hfirst, hsecond, by decide +kernel, hreading, hsummary, ?_,
    hconnect server server _ _ hmade hmade'⟩
  rw [Endpoint.events_connect hmade]
  exact List.cons_ne_nil _ _

end Settings

end AlertPolicy
