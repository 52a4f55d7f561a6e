import IntegrationAdapters.Source.MongoStore
import IntegrationAdapters.Source.Config

/-!
# In-memory and no-op variants, the storage selector and its configuration

`memoryStore` (`storage/memory.go`) forwards each call to go-micro's store, whose plugin is not
part of the repository: the model stops at the call it makes, with the option values it
passes (`MicroStoreCall`). `emptyStore` (`unnamed/part_004`) does nothing and succeeds.
`NewStorage` (`storage/storage.go:219-236`) selects a variant by `Storage.Type` and stops the
process when `Init` fails; `StorageConfig.Validate` (`Source.Config`) runs before it.
-/

namespace IntegrationAdapters.Source.Storage

open Config

/-- A go-micro `store.Record`: key and value (its metadata and expiry are not read here). -/
structure Record where
  key : String
  value : List UInt8
  deriving DecidableEq, Repr

/-- A payload passed as `any` to `Write`: a `*store.Record`, or a value of another type. -/
inductive Payload where
  | record (r : Record)
  | other
  deriving DecidableEq, Repr

/-- A call of go-micro's `store.Store` with the options the adapter passes. -/
inductive MicroStoreCall where
  | list (database table : String) (limit offset : UInt64) (keyPrefix keySuffix : String)
  | read (key database table : String) (limit offset : UInt64)
  | write (record : Record) (database table : String) (expiry : GoTime) (ttl : Duration)
  | delete (key database table : String)
  deriving DecidableEq, Repr

def memoryStore.Read (opts : List ReadOption) : MicroStoreCall :=
  let ops := foldReadOptions opts
  .read ops.Key ops.Database ops.Table ops.Limit ops.Offset

/-- `memoryStore.Write`: a payload other than a `*store.Record` is rejected before any call. -/
def memoryStore.Write (payload : Payload) (opts : List WriteOption) :
    Except StorageError MicroStoreCall :=
  let ops := foldWriteOptions opts
  match payload with
  | .record r => .ok (.write r ops.Database ops.Table ops.Expiry ops.TTL)
  | .other => .error .invalidResultOption

/-- `memoryStore.Update`: "Write duplicate". -/
def memoryStore.Update (payload : Payload) (opts : List WriteOption) :
    Except StorageError MicroStoreCall :=
  memoryStore.Write payload opts

def memoryStore.Delete (opts : List DeleteOption) : MicroStoreCall :=
  let ops := foldDeleteOptions opts
  .delete ops.Key ops.Database ops.Table

/-! ## The no-op variant -/

/-- `emptyStore`'s data operations: no I/O, a nil error. -/
def emptyStore.operation : Option StorageError := none

/-- `emptyStore.String`. -/
def emptyStore.name : String := "empty"

/-! ## Selection -/

/-- The variant `NewStorage` selects. -/
inductive Backend where
  | mongo
  | empty
  deriving DecidableEq, Repr

/-- The options `Init` records: `store.Database(DB)`, `store.Nodes(URL)`. -/
structure StoreOptions where
  Database : String
  Nodes : List String
  deriving DecidableEq, Repr

/-- `NewStorage`: `Init` with the configured database and URL; a failed `Init` ends the
process (`log.Fatalln`), modelled as `.error`. `configure` is the outcome of
`mgm.SetDefaultConfig` on the first node. -/
def NewStorage (configure : Option DriverError) (config : StorageConfig) :
    Except DriverError (Backend × StoreOptions) :=
  let options : StoreOptions := ⟨config.DB, [config.URL]⟩
  if config.type = 1 then
    match configure with
    | some err => .error err
    | none => .ok (.mongo, options)
  else .ok (.empty, options)

section
-- Inside `memoryStore` `List` names this method: see `mongoStore.List`.
variable (opts : List ReadOption)

/-- `memoryStore.List`; the decoding into `Result` is left to go-micro's `mapstructure`. -/
def memoryStore.List : MicroStoreCall :=
  let ops := foldReadOptions opts
  .list ops.Database ops.Table ops.Limit ops.Offset ops.Prefix ops.Suffix

end

end IntegrationAdapters.Source.Storage
