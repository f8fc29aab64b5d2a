import MaRuntime.Crud.Helpers
import MaRuntime.Status

/-!
# The `config` namespace (`src/crud/config.rs`)

Daemon keys live in the shared config and in the config file, all other keys in the manifest.
-/

namespace MaRuntime

open Lib (Cbor Proc)

/-- `DAEMON_CONFIG_KEYS`. -/
def daemonConfigKeys : List String :=
  ["kubo_rpc_url", "kubo_key_alias", "log_level", "log_level_stdout",
    "did_resolver_positive_ttl_secs", "did_resolver_negative_ttl_secs", "log_file"]

/-- `MANIFEST_CONFIG_KEYS`: the manifest keys that may be written. -/
def manifestConfigKeys : List String :=
  ["owners", "i18n", "did_document_publishing_interval_secs",
    "did_document_publishing_timeout_secs", "did_document_publishing_lifetime_hours",
    "ipns_publish_lifetime_hours", "ipns_publish_resolve", "ipns_publish_allow_offline",
    "status_cors_allowed_origins"]

/-- `PROTECTED_CONFIG_KEYS`. -/
def protectedConfigKeys : List String :=
  ["slug", "secret_bundle", "secret_bundle_passphrase", "config_path"]

/-- `is_protected_config_key`. -/
def isProtectedConfigKey (key : String) : Bool :=
  protectedConfigKeys.contains key || Text.startsWith key "secret"

/-- `daemon_config_key_value_pub`. -/
def daemonConfigKeyValue (cfg : Config) : String → Yaml
  | "kubo_rpc_url" => .string cfg.kuboRpcUrl
  | "kubo_key_alias" => .string cfg.kuboKeyAlias
  | "log_level" => .string cfg.logLevel
  | "log_level_stdout" => .string cfg.logLevelStdout
  | "did_resolver_positive_ttl_secs" => .number (.posInt cfg.didResolverPositiveTtlSecs)
  | "did_resolver_negative_ttl_secs" => .number (.posInt cfg.didResolverNegativeTtlSecs)
  | "log_file" => (cfg.logFile.map Yaml.string).getD .null
  | _ => .null

/-- `set_daemon_config_key_pub`: a value of another type leaves the field, but clears `log_file`. -/
def setDaemonConfigKey (cfg : Config) (val : Yaml) : String → Config
  | "kubo_rpc_url" => { cfg with kuboRpcUrl := val.asStr.getD cfg.kuboRpcUrl }
  | "kubo_key_alias" => { cfg with kuboKeyAlias := val.asStr.getD cfg.kuboKeyAlias }
  | "log_level" => { cfg with logLevel := val.asStr.getD cfg.logLevel }
  | "log_level_stdout" => { cfg with logLevelStdout := val.asStr.getD cfg.logLevelStdout }
  | "did_resolver_positive_ttl_secs" =>
    { cfg with didResolverPositiveTtlSecs := val.asU64.getD cfg.didResolverPositiveTtlSecs }
  | "did_resolver_negative_ttl_secs" =>
    { cfg with didResolverNegativeTtlSecs := val.asU64.getD cfg.didResolverNegativeTtlSecs }
  | "log_file" => { cfg with logFile := val.asStr }
  | _ => cfg

/-- A daemon key's type: text for most, a natural number for the TTLs, and `log_file` takes null. -/
def daemonKeyTakes (val : Yaml) : String → Bool
  | "did_resolver_positive_ttl_secs" => val.asU64.isSome
  | "did_resolver_negative_ttl_secs" => val.asU64.isSome
  | "log_file" => val.asStr.isSome || val.isNull
  | _ => val.asStr.isSome

theorem daemonConfigKeys_cases {key : String} (hkey : daemonConfigKeys.contains key = true) :
    key = "kubo_rpc_url" ∨ key = "kubo_key_alias" ∨ key = "log_level" ∨ key = "log_level_stdout" ∨
      key = "did_resolver_positive_ttl_secs" ∨ key = "did_resolver_negative_ttl_secs" ∨
      key = "log_file" := by
  simpa [daemonConfigKeys] using hkey

/-- A daemon key holds the value it was set to if it has its type. -/
theorem daemonConfigKeyValue_set_self (cfg : Config) {val : Yaml} {key : String}
    (hkey : daemonConfigKeys.contains key = true) (hval : daemonKeyTakes val key = true) :
    daemonConfigKeyValue (setDaemonConfigKey cfg val key) key = val := by
  rcases daemonConfigKeys_cases hkey with rfl | rfl | rfl | rfl | rfl | rfl | rfl <;> cases val with
  | number n => cases n <;>
      first | rfl | simp [daemonKeyTakes, Yaml.asU64, Yaml.asStr, Yaml.isNull] at hval
  | _ => first | rfl | simp [daemonKeyTakes, Yaml.asU64, Yaml.asStr, Yaml.isNull] at hval

/-- Setting a daemon key leaves the other keys. -/
theorem daemonConfigKeyValue_set_other (cfg : Config) (val : Yaml) {key key' : String}
    (hkey : daemonConfigKeys.contains key = true) (hne : key' ≠ key) :
    daemonConfigKeyValue (setDaemonConfigKey cfg val key) key' = daemonConfigKeyValue cfg key' := by
  rcases daemonConfigKeys_cases hkey with rfl | rfl | rfl | rfl | rfl | rfl | rfl <;>
    (unfold daemonConfigKeyValue; split) <;> first | rfl | exact absurd rfl hne

/-- Setting a daemon key leaves the rest of the config. -/
theorem setDaemonConfigKey_rest (cfg : Config) (val : Yaml) (key : String) :
    (setDaemonConfigKey cfg val key).configPath = cfg.configPath ∧
      (setDaemonConfigKey cfg val key).extra = cfg.extra := by
  unfold setDaemonConfigKey
  split <;> exact ⟨rfl, rfl⟩

/-- No daemon key is protected. -/
theorem isProtectedConfigKey_daemon {key : String} (hkey : daemonConfigKeys.contains key = true) :
    isProtectedConfigKey key = false := by
  rcases daemonConfigKeys_cases hkey with rfl | rfl | rfl | rfl | rfl | rfl | rfl <;>
    decide +kernel

/-- `{byte:02x}`. -/
def hexByte (b : UInt8) : List Char :=
  let digit (n : Nat) : Char := Char.ofNat (if n < 10 then '0'.toNat + n else 'a'.toNat + (n - 10))
  [digit (b.toNat / 16), digit (b.toNat % 16)]

/-- `Mapping::insert`: a key that is there keeps its place. -/
def mappingInsert (key : Yaml) (val : Yaml) : List (Yaml × Yaml) → List (Yaml × Yaml)
  | [] => [(key, val)]
  | (k, v) :: rest => if k = key then (k, val) :: rest else (k, v) :: mappingInsert key val rest

mutual

/-- `cbor_to_yaml`. -/
def cborToYaml : Cbor → Yaml
  | .bool b => .bool b
  | .unsigned n => .number (.posInt n)
  | .negative n =>
    match int64OfInt (-1 - n.toNat) with
    | some n => .number (.ofInt64 n)
    | none => .null
  | .float bits => .number (.float bits)
  | .text s => .string s
  | .bytes b => .string (String.ofList (b.flatMap hexByte))
  | .array items => .sequence (cborToYamlItems items)
  | .map entries => .mapping (cborToYamlEntries entries [])
  | .tag _ inner => cborToYaml inner
  | .null => .null

/-- `cbor_to_yaml` along an array. -/
def cborToYamlItems : List Cbor → List Yaml
  | [] => []
  | v :: rest => cborToYaml v :: cborToYamlItems rest

/-- `cbor_to_yaml` along a map, into the mapping built so far: keys that are not text are left
out. -/
def cborToYamlEntries : List (Cbor × Cbor) → List (Yaml × Yaml) → List (Yaml × Yaml)
  | [], acc => acc
  | (.text key, v) :: rest, acc =>
    cborToYamlEntries rest (mappingInsert (.string key) (cborToYaml v) acc)
  | (_, _) :: rest, acc => cborToYamlEntries rest acc

end

/-- GET `:config`: the manifest's entries, over them the daemon's. -/
def combinedConfig (cfg : Config) (config : StrMap Yaml) : StrMap Yaml :=
  daemonConfigKeys.foldl (fun combined key =>
    let val := daemonConfigKeyValue cfg key
    if val.isNull then combined else combined.insert key val) config

/-- GET of one key. -/
def configValue (env : Env) (key : String) : M Yaml :=
  if daemonConfigKeys.contains key then
    reading .sharedConfig (getRt fun rt => daemonConfigKeyValue rt.sharedConfig key)
  else do
    let manifest ← loadManifest env
    match manifest.config[key]? with
    | some val => pure val
    | none => Proc.fail [s!"config key not found: {key}"]

/-- SET of a daemon key. A config file that cannot be saved is only logged. -/
def writeDaemonKey (env : Env) (key : String) (yamlVal : Yaml) : M Unit := do
  writing .sharedConfig (modifyRt fun rt =>
    { rt with sharedConfig := setDaemonConfigKey rt.sharedConfig yamlVal key })
  let _ ← (reading .sharedConfig do saveConfig env (← getRt fun rt => rt.sharedConfig)).attempt
  pure ()

/-- `handle_config_ns`, where `write` stands for `with_manifest_crud`. -/
def handleConfigNsWith (write : ManifestWriter) (env : Env) (message : Message) (rest : List String)
    (args : Args) : M Unit :=
  match rest with
  | [] =>
    match args with
    | .get => do
      let manifest ← loadManifest env
      let combined ← reading .sharedConfig
        (getRt fun rt => combinedConfig rt.sharedConfig manifest.config)
      sendCrudReply env message (.config combined)
    | .put _ => sendCrudI18nError env message "refuse-delete-root"
  | [key] =>
    if isProtectedConfigKey key then
      sendCrudI18nErrorf env message "config-key-protected" [("key", key)]
    else
      match args with
      | .get => do
        let val ← configValue env key
        sendCrudReply env message (.yaml val)
      | .put [] =>
        if daemonConfigKeys.contains key then
          sendCrudI18nErrorf env message "config-key-no-delete" [("key", key)]
        else do
          let _ ← write fun m => .ok { m with config := m.config.erase key }
          sendCrudReply env message .ok
      | .put [value] =>
        let yamlVal := cborToYaml value
        if daemonConfigKeys.contains key then do
          writeDaemonKey env key yamlVal
          sendCrudReply env message .ok
        else if !manifestConfigKeys.contains key then
          sendCrudI18nErrorf env message "config-key-not-manifest" [("key", key)]
        else do
          -- `dag_put` writes the manifest as JSON.
          let newRoot ← write fun m =>
            .ok { m with config := m.config.insert key (yamlVal.viaJson env.readFloat) }
          -- `config.i18n` also reloads the texts; the model has none.
          sendCrudReply env message (.okCid newRoot)
      | _ => Proc.fail [s!"unknown config.{key} operation"]
  | _ => Proc.fail ["unknown config operation"]

/-- `handle_config_ns`. -/
def handleConfigNs (env : Env) : Message → List String → Args → M Unit :=
  handleConfigNsWith (withManifestCrud env) env

end MaRuntime
