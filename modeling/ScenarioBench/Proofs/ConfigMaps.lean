import ScenarioBench.Proofs.CredentialSources

/-! Configurations as maps.

The named fields of a configuration and its extra options share one map, in which an extra option can have the name of
a field. Main statement: the map holds what a field says, else what the extra options say, and nothing else; and the
credentials that are read back are those of the configuration, unless one of the extra options is a key that goes
before a user.
-/

set_option autoImplicit false

namespace ScenarioBench.JobConfig

/-- What the fields of a configuration put under an option. -/
inductive Puts (config : JobConfig) : String → Json → Prop where
  | tracing {level : TraceLevel} : config.tracing = some level → Puts config "tracing" (.string level.spelling)
  | verifyPeer {verify : Bool} : config.verifyPeer = some verify → Puts config "ssl_verify" (.bool verify)
  | userName {name password : String} : config.credentials = some (.user name password) →
      Puts config "username" (.string name)
  | password {name password : String} : config.credentials = some (.user name password) →
      Puts config "password" (.string password)
  | apiKey {key endpoint : String} : config.credentials = some (.apiKey key endpoint) →
      Puts config "api_key" (.string key)
  | tokenEndpoint {key endpoint : String} : config.credentials = some (.apiKey key endpoint) →
      Puts config "token_endpoint" (.string endpoint)

variable {config : JobConfig} {option : String} {value : Json}

theorem mem_options_iff : (option, value) ∈ config.options ↔ config.Puts option value := by
  constructor
  · intro member
    rcases List.mem_append.1 member with front | traced
    · rcases List.mem_append.1 front with verified | credential
      · obtain ⟨verify, given, same⟩ := Option.map_eq_some_iff.1 (Option.mem_toList.1 verified)
        cases same
        exact .verifyPeer given
      · rcases given : config.credentials with _ | (_ | _)
        · rw [given] at credential
          cases credential
        -- Each kind of credentials has two options.
        all_goals
          rw [given] at credential
          simp only [Option.map_some, Option.getD_some, Credentials.options, List.mem_cons, Prod.mk.injEq,
            List.not_mem_nil, or_false] at credential
          rcases credential with ⟨rfl, rfl⟩ | ⟨rfl, rfl⟩
        · exact .userName given
        · exact .password given
        · exact .apiKey given
        · exact .tokenEndpoint given
    · obtain ⟨level, given, same⟩ := Option.map_eq_some_iff.1 (Option.mem_toList.1 traced)
      cases same
      exact .tracing given
  · intro puts
    cases puts with
    | tracing given | verifyPeer given => simp [options, given, JobOption.tracing, JobOption.verifyPeer]
    | userName given | password given =>
      simp [options, given, Credentials.options, JobOption.userName, JobOption.password]
    | apiKey given | tokenEndpoint given =>
      simp [options, given, Credentials.options, JobOption.apiKey, JobOption.tokenEndpoint]

theorem nodup_options (config : JobConfig) : (config.options.map (·.1)).Nodup := by
  have table : ["ssl_verify", "username", "password", "api_key", "token_endpoint", "tracing"].Nodup := by decide
  refine List.Nodup.sublist ?_ table
  unfold options
  rw [List.map_append, List.map_append]
  have verified : ((config.verifyPeer.map fun verify => (JobOption.verifyPeer, Json.bool verify)).toList.map
      (·.1)).Sublist ["ssl_verify"] := by
    cases config.verifyPeer <;> simp [JobOption.verifyPeer]
  have traced : ((config.tracing.map fun level => (JobOption.tracing, Json.string level.spelling)).toList.map
      (·.1)).Sublist ["tracing"] := by
    cases config.tracing <;> simp [JobOption.tracing]
  have credential : (((config.credentials.map Credentials.options).getD []).map (·.1)).Sublist
      ["username", "password", "api_key", "token_endpoint"] := by
    rcases config.credentials with _ | (⟨name, password⟩ | ⟨key, endpoint⟩)
    · exact List.nil_sublist _
    · exact List.sublist_append_left ["username", "password"] ["api_key", "token_endpoint"]
    · exact List.sublist_append_right ["username", "password"] ["api_key", "token_endpoint"]
  exact (verified.append credential).append traced

theorem get?_toMap_iff : config.toMap.get? option = some value ↔
    config.Puts option value ∨ (∀ own, ¬ config.Puts option own) ∧ config.extra.get? option = some value := by
  have absent : option ∉ config.options.map (·.1) ↔ ∀ own, ¬ config.Puts option own := by
    simp [← mem_options_iff]
  rw [toMap, Dictionary.get?_insertMany_of_nodup config.nodup_options, mem_options_iff, absent]

theorem get?_toMap_of_puts (puts : config.Puts option value) : config.toMap.get? option = some value :=
  get?_toMap_iff.2 (.inl puts)

theorem get?_toMap_of_silent (silent : ∀ own, ¬ config.Puts option own) :
    config.toMap.get? option = config.extra.get? option := by
  ext value
  rw [get?_toMap_iff]
  constructor
  · rintro (puts | ⟨-, extra⟩)
    · exact absurd puts (silent value)
    · exact extra
  · intro extra
    exact .inr ⟨silent, extra⟩

theorem ofConfig_of_apiKey {key endpoint : String} (given : config.credentials = some (.apiKey key endpoint)) :
    Credentials.ofConfig config.toMap = some (.apiKey key endpoint) ↔ key ≠ "" := by
  rw [ConfigMap.ofConfig_iff]
  constructor
  · intro determined
    cases determined with
    | key _ nonempty => exact nonempty
    | keyAtDefault _ nonempty => exact nonempty
  · intro nonempty
    exact .key (get?_toMap_of_puts (.apiKey given)) nonempty (get?_toMap_of_puts (.tokenEndpoint given))

theorem ofConfig_of_user {name password : String} (given : config.credentials = some (.user name password)) :
    Credentials.ofConfig config.toMap = some (.user name password) ↔
      name ≠ "" ∧ ∀ key, config.extra.get? "api_key" = some (.string key) → key = "" := by
  -- A user leaves the option of the key to the extra options.
  have silent : ∀ own, ¬ config.Puts "api_key" own := by
    intro own puts
    generalize named : "api_key" = option at puts
    cases puts with
    | apiKey other =>
      rw [given] at other
      cases other
    | _ => exact absurd named (by decide)
  have keys : config.toMap.get? "api_key" = config.extra.get? "api_key" := get?_toMap_of_silent silent
  rw [ConfigMap.ofConfig_iff]
  constructor
  · intro determined
    cases determined with
    | user useless _ nonempty _ =>
      refine ⟨nonempty, fun key extra => useless key ?_⟩
      exact keys.trans extra
  · rintro ⟨nonempty, useless⟩
    refine .user (fun key said => useless key ?_) (get?_toMap_of_puts (.userName given)) nonempty
      (get?_toMap_of_puts (.password given))
    exact keys.symm.trans said

theorem ofConfig_of_none (given : config.credentials = none) :
    Credentials.ofConfig config.toMap = Credentials.ofConfig config.extra := by
  have same : ∀ option ∈ ["username", "password", "api_key", "token_endpoint"],
      config.toMap.text? option = config.extra.text? option := by
    intro option member
    have silent : ∀ own, ¬ config.Puts option own := by
      intro own puts
      cases puts with
      | tracing | verifyPeer => exact absurd member (by decide)
      | userName other | password other | apiKey other | tokenEndpoint other =>
        rw [given] at other
        cases other
    exact congrArg (·.bind Json.string?) (get?_toMap_of_silent silent)
  unfold Credentials.ofConfig
  rw [JobOption.userName, JobOption.password, JobOption.apiKey, JobOption.tokenEndpoint,
    same "username" (by decide), same "password" (by decide), same "api_key" (by decide),
    same "token_endpoint" (by decide)]

/-- Nothing is lost and nothing is made up when a configuration becomes a map, and its credentials can be read back. -/
theorem maps_hold_configurations (config : JobConfig) :
    (∀ option value, config.toMap.get? option = some value ↔
      config.Puts option value ∨ (∀ own, ¬ config.Puts option own) ∧ config.extra.get? option = some value) ∧
    (∀ key endpoint, config.credentials = some (.apiKey key endpoint) →
      (Credentials.ofConfig config.toMap = some (.apiKey key endpoint) ↔ key ≠ "")) ∧
    (∀ name password, config.credentials = some (.user name password) →
      (Credentials.ofConfig config.toMap = some (.user name password) ↔
        name ≠ "" ∧ ∀ key, config.extra.get? "api_key" = some (.string key) → key = "")) ∧
    (config.credentials = none → Credentials.ofConfig config.toMap = Credentials.ofConfig config.extra) :=
  ⟨fun _ _ => get?_toMap_iff, fun _ _ => ofConfig_of_apiKey, fun _ _ => ofConfig_of_user, ofConfig_of_none⟩

def crowded : JobConfig where
  tracing := none
  verifyPeer := some false
  credentials := some (.user "own" "secret")
  extra := .ofList [("username", .string "extra"), ("ssl_verify", .bool true), ("api_key", .string ""),
    ("tracing", .null), ("password", .bool true), ("token_endpoint", .string "e"), ("custom", .string "c")]

theorem maps_hold_configurations_crowded :
    crowded.credentials = some (.user "own" "secret") ∧
    (∀ key, crowded.extra.get? "api_key" = some (.string key) → key = "") ∧
    Credentials.ofConfig crowded.toMap = some (.user "own" "secret") ∧
    crowded.toMap.get? "tracing" = some .null := by
  have given : crowded.credentials = some (.user "own" "secret") := rfl
  have useless : ∀ key, crowded.extra.get? "api_key" = some (.string key) → key = "" := by
    intro key extra
    have empty : crowded.extra.get? "api_key" = some (.string "") := by rfl
    rw [empty] at extra
    cases extra
    rfl
  obtain ⟨holds, -, users, -⟩ := maps_hold_configurations crowded
  refine ⟨given, useless, (users "own" "secret" given).2 ⟨by decide, useless⟩, ?_⟩
  refine (holds "tracing" .null).2 (.inr ⟨?_, by rfl⟩)
  intro own puts
  generalize named : "tracing" = option at puts
  cases puts with
  | tracing other => cases other
  | _ => exact absurd named (by decide)

end ScenarioBench.JobConfig
