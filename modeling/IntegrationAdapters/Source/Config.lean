import Mathlib.Data.List.Basic

/-!
# Configuration records and their checks

Each adapter's configuration (`config/*.go`) is read from YAML and the environment, then checked
by its `Validate`; a non-nil error stops the process. A record here holds the fields its `Validate`
or its constructor reads, and `default` is the record the `BuildNew...Config` function starts
from, i.e. what a run without a file and without variables checks. Every `BuildNew...Config` is
one closure, `buildConfig`, applied to its record's default and check: the file and the
environment are modelled as what they write over the record (`Layer`), or the error of reading
them; which fields a YAML document or a variable sets is left abstract.
`ServerConfig.Validate` (`unnamed/part_002`) and `StorageConfig.Validate` (`unnamed/part_001`)
also trim their strings, and the trimmed record is what the caller keeps. `ResilienceConfig`,
`LoggerConfig`, `CORSConfig` and `TracerConfig` accept every record.
-/

namespace IntegrationAdapters.Source.Config

structure InvalidConfigurationParameterError where
  Parameter : String
  Reason : String
  deriving DecidableEq, Repr

def isSpace (c : Char) : Bool :=
  c = '\t' || c = '\n' || c = '\x0B' || c = '\x0C' || c = '\r' || c = ' ' ||
  c.toNat = 0x85 || c.toNat = 0xA0 || c.toNat = 0x1680 ||
  (0x2000 ≤ c.toNat && c.toNat ≤ 0x200A) || c.toNat = 0x2028 || c.toNat = 0x2029 ||
  c.toNat = 0x202F || c.toNat = 0x205F || c.toNat = 0x3000

def trimSpace (s : String) : String :=
  String.mk ((s.toList.dropWhile isSpace).reverse.dropWhile isSpace).reverse

/-! ## Loading -/

/-- An error of `os.Open`, of the YAML decoder or of `envconfig.Process`. -/
structure LoadError where
  message : String
  deriving DecidableEq, Repr

/-- One source of settings, the YAML file or the environment: its read fails, or it writes the
fields it sets over the record and keeps the others. -/
abbrev Layer (α : Type) := Except LoadError (α → α)

/-- The closure a `BuildNew...Config(path)` returns: start from `defaults`, decode the file over
it when `path` is not empty, process the environment over that, and return the record with its
`Validate` error (`return &config, config.Validate()`; `validate` also gives the record as a
pointer-receiver `Validate` leaves it). A failed read returns no record. -/
def buildConfig {α : Type} (defaults : α)
    (validate : α → α × Option InvalidConfigurationParameterError) (path : String)
    (file env : Layer α) : Except LoadError (α × Option InvalidConfigurationParameterError) := do
  let decoded ← (if path ≠ "" then file.map (· defaults) else pure defaults)
  let processed ← env.map (· decoded)
  pure (validate processed)

/-! ## Storage and cache -/

/-- `StorageConfig.Storage`. -/
structure StorageConfig where
  type : Int
  URL : String
  DB : String
  deriving DecidableEq, Repr

/-- `StorageConfig.Validate`: trims `URL` and `DB`, then demands a URL, in the `case 1` branch
and in the `default` branch alike. Returns the trimmed configuration. -/
def StorageConfig.Validate (p : StorageConfig) :
    StorageConfig × Option InvalidConfigurationParameterError :=
  let p := { p with URL := trimSpace p.URL, DB := trimSpace p.DB }
  if p.type = 1 then
    if p.URL = "" then (p, some ⟨"URL", "MongoDB driver expects a valid url"⟩) else (p, none)
  else
    if p.URL = "" then (p, some ⟨"URL", "MongoDB driver expects a valid url"⟩) else (p, none)

def StorageConfig.default : StorageConfig := ⟨0, "", ""⟩

def BuildNewStorageConfig (path : String) (file env : Layer StorageConfig) :
    Except LoadError (StorageConfig × Option InvalidConfigurationParameterError) :=
  buildConfig StorageConfig.default StorageConfig.Validate path file env

/-- `CacheConfig.Cache`. -/
structure CacheConfig where
  type : Int
  Size : Int
  Address : String
  Username : String
  Password : String
  Database : Int
  deriving DecidableEq, Repr

/-- `CacheConfig.Validate`: the Redis variant needs an address. -/
def CacheConfig.Validate (b : CacheConfig) : Option InvalidConfigurationParameterError :=
  if b.type = 2 then
    if b.Address = "" then some ⟨"Address", "Redis cache must have a valid address"⟩ else none
  else none

/-- `BuildNewCacheConfig`'s starting record: `Size` 10, the rest zero. -/
def CacheConfig.default : CacheConfig := ⟨0, 10, "", "", "", 0⟩

def BuildNewCacheConfig (path : String) (file env : Layer CacheConfig) :
    Except LoadError (CacheConfig × Option InvalidConfigurationParameterError) :=
  buildConfig CacheConfig.default (fun config => (config, config.Validate)) path file env

/-! ## Messaging, worker and registry -/

/-- `BrokerConfig.Messaging`, the fields `Validate` reads. -/
structure BrokerConfig where
  Enable : Bool
  Addrs : List String
  type : Int
  deriving DecidableEq, Repr

/-- `BrokerConfig.Validate`: an enabled broker of a positive type needs an address. -/
def BrokerConfig.Validate (b : BrokerConfig) : Option InvalidConfigurationParameterError :=
  if b.Enable && b.Addrs.length == 0 && 0 < b.type then
    some ⟨"Addrs", "Invalid number of addresses"⟩
  else none

def BrokerConfig.default : BrokerConfig := ⟨false, [], 0⟩

def BuildNewMessagingConfig (path : String) (file env : Layer BrokerConfig) :
    Except LoadError (BrokerConfig × Option InvalidConfigurationParameterError) :=
  buildConfig BrokerConfig.default (fun config => (config, config.Validate)) path file env

/-- `WorkerConfig.Worker`, the fields `Validate` reads. -/
structure WorkerConfig where
  Enable : Bool
  RedisAddresses : List String
  deriving DecidableEq, Repr

/-- `WorkerConfig.Validate`: an enabled worker needs a Redis address. -/
def WorkerConfig.Validate (wc : WorkerConfig) : Option InvalidConfigurationParameterError :=
  if wc.Enable && wc.RedisAddresses.length < 1 then
    some ⟨"Worker address", "Should not be empty"⟩
  else none

/-- `BuildNewWorkerConfig`'s starting record (its `MaxConcurrency` of 3 is not read here). -/
def WorkerConfig.default : WorkerConfig := ⟨false, []⟩

def BuildNewWorkerConfig (path : String) (file env : Layer WorkerConfig) :
    Except LoadError (WorkerConfig × Option InvalidConfigurationParameterError) :=
  buildConfig WorkerConfig.default (fun config => (config, config.Validate)) path file env

/-- `RegistryConfig.Registry`, the fields `Validate` reads. -/
structure RegistryConfig where
  Addresses : List String
  type : Int
  deriving DecidableEq, Repr

/-- `RegistryConfig.Validate`: every registry type but 1 needs an address. -/
def RegistryConfig.Validate (r : RegistryConfig) : Option InvalidConfigurationParameterError :=
  if r.type = 1 then none
  else if r.Addresses.length ≤ 0 then some ⟨"Addresses", "Length should be greater than zero"⟩
  else none

/-- `BuildNewRegistryConfig`'s starting record (its `CacheTTL` of 10 s is not read here). -/
def RegistryConfig.default : RegistryConfig := ⟨[], 0⟩

def BuildNewRegistryConfig (path : String) (file env : Layer RegistryConfig) :
    Except LoadError (RegistryConfig × Option InvalidConfigurationParameterError) :=
  buildConfig RegistryConfig.default (fun config => (config, config.Validate)) path file env

/-! ## Server -/

/-- `ServerConfig`, the fields `Validate` reads. -/
structure ServerConfig where
  Namespace : String
  Name : String
  Address : String
  ReplAddress : String
  deriving DecidableEq, Repr

/-- One of `ServerConfig.Validate`'s four checks: the field, trimmed, must not be empty. -/
def requireNonEmpty (value parameter : String) : Option InvalidConfigurationParameterError :=
  if value = "" then some ⟨parameter, "Should not be empty"⟩ else none

/-- `ServerConfig.Validate`: trims the four fields, then reports the first empty one. Returns the
trimmed configuration. -/
def ServerConfig.Validate (hs : ServerConfig) :
    ServerConfig × Option InvalidConfigurationParameterError :=
  let hs : ServerConfig := ⟨trimSpace hs.Namespace, trimSpace hs.Name, trimSpace hs.Address,
    trimSpace hs.ReplAddress⟩
  (hs, requireNonEmpty hs.Namespace "Namespace" <|> requireNonEmpty hs.Name "Name" <|>
    requireNonEmpty hs.Address "Address" <|> requireNonEmpty hs.ReplAddress "Repl Address")

def ServerConfig.default : ServerConfig := ⟨"", "", "", ""⟩

def BuildNewServerConfig (path : String) (file env : Layer ServerConfig) :
    Except LoadError (ServerConfig × Option InvalidConfigurationParameterError) :=
  buildConfig ServerConfig.default ServerConfig.Validate path file env

end IntegrationAdapters.Source.Config
