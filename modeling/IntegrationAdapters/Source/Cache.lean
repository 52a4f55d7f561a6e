import IntegrationAdapters.Source.CacheStores
import IntegrationAdapters.Source.Config

/-!
# The cache adapter

`CustomCache` (`cache/cache.go`) is go-micro's cache over a gocache marshaler; `NewCache` builds
it from `CacheConfig`: the Freecache store for type 1 and every other type but 2
(`newMemory`, `unnamed/part_007`), the Redis store for type 2 (`newRedis`, `cache/redis.go`).
`Put` always passes `store.WithExpiration(d)`; `Get` decodes into a fresh `interface{}`.
-/

namespace IntegrationAdapters.Source.Cache

open Msgpack Config

structure CustomCache where
  store : Marshaler
  name : String

/-- `CustomCache.Get`: the decoded value (nil on an error), the time, and the error. -/
def CustomCache.Get (c : CustomCache) (key : Bytes) (env : Env) :
    (GoValue × Nat × Option StoreError) × CustomCache :=
  let got := c.store.Get key env
  (match got.1 with
    | .ok result => (result, env.now, none)
    | .error err => (.nil, env.now, some err),
    { c with store := got.2 })

/-- `Get` when the store returns a message: its decoding, the time, no error. -/
theorem CustomCache.Get_of_store {c : CustomCache} {key : Bytes} {env : Env} {w : Wire}
    {decoded : GoValue} (got : (c.store.cache.Get key env).1 = .ok w)
    (dec : DecodeInterface w = .ok decoded) : (c.Get key env).1 = (decoded, env.now, none) := by
  simp [CustomCache.Get, Marshaler.Get, got, dec]

/-- `Get` when the store fails: nil, the time, the store's error. -/
theorem CustomCache.Get_of_store_error {c : CustomCache} {key : Bytes} {env : Env} {e : StoreError}
    (got : (c.store.cache.Get key env).1 = .error e) :
    (c.Get key env).1 = (.nil, env.now, some e) := by
  simp [CustomCache.Get, Marshaler.Get, got]

/-- `Get` returns a decoded message the store returned, or nil with an error. -/
theorem CustomCache.Get_cases (c : CustomCache) (key : Bytes) (env : Env) :
    (∃ w decoded, (c.store.cache.Get key env).1 = .ok w ∧ DecodeInterface w = .ok decoded ∧
      (c.Get key env).1 = (decoded, env.now, none)) ∨
    ∃ e, (c.Get key env).1 = (.nil, env.now, some e) := by
  rcases got : (c.store.cache.Get key env).1 with e | w
  · exact .inr ⟨e, CustomCache.Get_of_store_error got⟩
  · rcases dec : DecodeInterface w with e | decoded
    · exact .inr ⟨.msgpack e, by simp [CustomCache.Get, Marshaler.Get, got, dec]⟩
    · exact .inl ⟨w, decoded, rfl, dec, CustomCache.Get_of_store got dec⟩

def CustomCache.Put (c : CustomCache) (key : Bytes) (val : GoValue) (d : Int) (env : Env) :
    Option StoreError × CustomCache :=
  let r := c.store.Set key val [WithExpiration d] env
  (r.1, { c with store := r.2 })

def CustomCache.Delete (c : CustomCache) (key : Bytes) (env : Env) :
    Option StoreError × CustomCache :=
  let r := c.store.Delete key env
  (r.1, { c with store := r.2 })

def CustomCache.String (c : CustomCache) : String := c.name

/-- Go's `int` arithmetic: 64-bit two's complement. -/
def goInt (x : Int) : Int := (BitVec.ofInt 64 x).toInt

/-- `newMemory`: a Freecache store of `size` MiB with a default expiration of 10 seconds. -/
def newMemory (size : Int) : Marshaler :=
  ⟨.freecache (NewFreecache (freecache.NewCache (goInt (size * 1024 * 1024)))
    [WithExpiration (10 * Second)])⟩

/-- `newRedis`: a Redis store without default options; `server` is the content of database `db`
when the client connects. -/
def newRedis (address username password : String) (db : Int) (server : redis.Db) : Marshaler :=
  ⟨.redis ⟨⟨username, address, password, db⟩, ApplyOptions [], server⟩⟩

def NewCache (config : CacheConfig) (server : redis.Db) : CustomCache :=
  match config.type with
  | 1 => ⟨newMemory config.Size, "Freecache"⟩
  | 2 =>
    ⟨newRedis config.Address config.Username config.Password config.Database server, "Redis"⟩
  | _ => ⟨newMemory config.Size, "Freecache"⟩

end IntegrationAdapters.Source.Cache
