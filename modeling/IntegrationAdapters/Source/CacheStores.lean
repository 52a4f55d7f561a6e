import IntegrationAdapters.Source.Msgpack
import Mathlib.Logic.Function.Basic

/-!
# The stores behind the cache adapter

`CustomCache` (`cache/cache.go`) reaches its data through gocache (lib v4): a
`marshaler.Marshaler` over a store, either the Freecache store (`store/freecache/v4`) over a
`freecache.Cache`, or the Redis store (`store/redis/v4`) over a go-redis v9 client. None of them
is part of the repository; this module models the parts the adapter's calls reach, as those
libraries compute them:

* gocache's options: `WithExpiration`, `ApplyOptions`, and `ApplyOptionsWithDefault`, which
  applies the call's options over a copy of the store's defaults;
* freecache's `Set` (its key and entry size limits and its `uint32` expiry second), `Get` (an
  expired entry is deleted and missed) and `Del`;
* go-redis's `SET` arguments (`px`, `ex`, `keepttl`) and the server's expiry rule (a key is
  expired once the clock passes its expiry millisecond);
* the marshaler, which runs `Marshal` before a store's `Set` and `Unmarshal` after its `Get`.

A `time.Duration` is an `Int` of nanoseconds; an instant is a `Nat`, the wall clock in
nanoseconds since the Unix epoch, and each call runs at one instant. A Redis call also takes the
fate of its round trip. Freecache's ring buffers are abstracted to a map from key to entry:
which live entries a full buffer overwrites depends on its layout, so eviction is an operation
of its own (`Backend.evict`) that a run may take at any point, as are Redis's eviction and
active expiry.
-/

namespace IntegrationAdapters.Source.Cache

open Msgpack

def Millisecond : Int := 1000000

def Second : Int := 1000000000

/-! ## gocache's store options -/

/-- `store.Options`. `Cost` and `Tags` are always zero here: no call of the adapters sets them,
so only `Expiration` is kept. -/
structure Options where
  Expiration : Int := 0
  deriving DecidableEq, Repr

/-- `store.Option`. -/
abbrev StoreOption := Options → Options

def WithExpiration (expiration : Int) : StoreOption :=
  fun o => { o with Expiration := expiration }

/-- `store.ApplyOptions`: the options applied in order to the zero record. -/
def ApplyOptions (opts : List StoreOption) : Options :=
  opts.foldl (fun o opt => opt o) {}

/-- `store.ApplyOptionsWithDefault`: a copy of the store's defaults with the call's options
applied over it in order. -/
def ApplyOptionsWithDefault (defaultOptions : Options) (opts : List StoreOption) : Options :=
  opts.foldl (fun o opt => opt o) defaultOptions

/-- A call's `WithExpiration d` stands over the store's default, `d = 0` included. -/
theorem ApplyOptionsWithDefault_WithExpiration (defaults : Options) (d : Int) :
    ApplyOptionsWithDefault defaults [WithExpiration d] = ⟨d⟩ :=
  rfl

/-! ## freecache -/

namespace freecache

def minBufSize : Nat := 512 * 1024

def segmentCount : Nat := 256

def ENTRY_HDR_SIZE : Nat := 24

/-- The clock of `defaultTimer.Now`: `uint32(time.Now().Unix())`. -/
def timerNow (now : Nat) : Nat := now / 1000000000 % (1 <<< 32)

/-- A stored entry: the value and the header's `expireAt`, a `uint32` Unix second where `0`
means no expiry. -/
structure Entry where
  value : Wire
  expireAt : Nat
  deriving Repr

/-- The test `segment.get` makes before it returns an entry. -/
def Entry.expired (e : Entry) (now : Nat) : Bool :=
  e.expireAt != 0 && e.expireAt ≤ timerNow now

/-- A `freecache.Cache`: the buffer size it was built with, never below `minBufSize`, and its
entries by key. -/
structure Cache where
  size : Nat
  size_ge : minBufSize ≤ size
  entries : Bytes → Option Entry

inductive CacheError where
  /-- "The key is larger than 65535". -/
  | ErrLargeKey
  /-- "The entry size needs to be less than 1/1024 of the cache size". -/
  | ErrLargeEntry
  /-- "Entry not found". -/
  | ErrNotFound
  deriving DecidableEq, Repr

/-- `NewCache`: a buffer smaller than `minBufSize` is raised to it. -/
def NewCache (size : Int) : Cache where
  size := max size.toNat minBufSize
  size_ge := le_max_right _ _
  entries := fun _ => none

/-- The header's `expireAt` that `segment.set` writes: `now + uint32(expireSeconds)` in `uint32`
for a positive `expireSeconds`, else `0`. -/
def expireAtOf (expireSeconds : Int) (now : Nat) : Nat :=
  if 0 < expireSeconds then (timerNow now + expireSeconds.toNat % (1 <<< 32)) % (1 <<< 32) else 0

/-- `Cache.Set`, as the key's segment runs it: the key and the entry must fit a quarter of the
segment's ring buffer. -/
def Cache.Set (cache : Cache) (key : Bytes) (value : Wire) (expireSeconds : Int) (now : Nat) :
    Except CacheError Cache :=
  if key.length > 65535 then .error .ErrLargeKey
  else if key.length + encodedSize value > cache.size / segmentCount / 4 - ENTRY_HDR_SIZE then
    .error .ErrLargeEntry
  else
    .ok { cache with
      entries :=
        Function.update cache.entries key (some ⟨value, expireAtOf expireSeconds now⟩) }

/-- `Cache.Get`: an expired entry is deleted and reported missing. -/
def Cache.Get (cache : Cache) (key : Bytes) (now : Nat) : Except CacheError Wire × Cache :=
  match cache.entries key with
  | none => (.error .ErrNotFound, cache)
  | some e =>
    if e.expired now then
      (.error .ErrNotFound, { cache with entries := Function.update cache.entries key none })
    else (.ok e.value, cache)

/-- `Cache.Del`: whether an entry was there, expired or not. -/
def Cache.Del (cache : Cache) (key : Bytes) : Bool × Cache :=
  ((cache.entries key).isSome, { cache with entries := Function.update cache.entries key none })

/-- An entry overwritten by the ring buffer to make room. -/
def Cache.evict (cache : Cache) (key : Bytes) : Cache :=
  { cache with entries := Function.update cache.entries key none }

end freecache

/-! ## Redis -/

namespace redis

def KeepTTL : Int := -1

/-- The expiry arguments of a `SET` command. -/
inductive SetExpiry where
  | none
  | px (milliseconds : Int)
  | ex (seconds : Int)
  | keepttl
  deriving DecidableEq, Repr

/-- `usePrecise`: sub-second and fractional durations go as milliseconds. -/
def usePrecise (dur : Int) : Bool := dur < Second || dur % Second != 0

def formatMs (dur : Int) : Int :=
  if 0 < dur && dur < Millisecond then 1 else dur / Millisecond

def formatSec (dur : Int) : Int :=
  if 0 < dur && dur < Second then 1 else dur / Second

/-- The expiry arguments `cmdable.Set` appends for an expiration. -/
def setArgs (expiration : Int) : SetExpiry :=
  if 0 < expiration then
    if usePrecise expiration then .px (formatMs expiration) else .ex (formatSec expiration)
  else if expiration = KeepTTL then .keepttl
  else .none

def msNow (now : Nat) : Int := (now / 1000000 : Nat)

/-- A key's value and its expiry, an absolute Unix millisecond. -/
structure Entry where
  value : Wire
  when : Option Int
  deriving Repr

/-- `keyIsExpired`: the clock has passed the key's expiry. -/
def Entry.expired (e : Entry) (now : Nat) : Bool :=
  match e.when with
  | some w => w < msNow now
  | none => false

abbrev Db := Bytes → Option Entry

inductive RedisError where
  /-- "ERR invalid expire time in 'set' command". -/
  | invalidExpireTime
  | io
  deriving DecidableEq, Repr

/-- `lookupKey`: an expired key is deleted when a command looks it up. -/
def lookupKey (db : Db) (key : Bytes) (now : Nat) : Option Entry × Db :=
  match db key with
  | some e => if e.expired now then (none, Function.update db key none) else (some e, db)
  | none => (none, db)

/-- `GET key`: the value, or nothing (`redis.Nil`). -/
def GET (key : Bytes) (now : Nat) (db : Db) : Except RedisError (Option Wire) × Db :=
  let looked := lookupKey db key now
  (.ok (looked.1.map (·.value)), looked.2)

/-- Whether `SET` accepts the expiry: `PX` and `EX` must be positive. -/
def SetExpiry.valid : SetExpiry → Bool
  | .px n | .ex n => 0 < n
  | _ => true

/-- The expiry `SET` gives the key: none, `PX` or `EX` from now, or with `KEEPTTL` the live
key's own. -/
def SetExpiry.when (expiry : SetExpiry) (now : Nat) (old : Option Entry) : Option Int :=
  match expiry with
  | .none => Option.none
  | .px n => some (msNow now + n)
  | .ex n => some (msNow now + n * 1000)
  | .keepttl => old.bind (·.when)

/-- `SET key value [PX ms | EX s | KEEPTTL]`: without an expiry the key's TTL is removed. -/
def SET (key : Bytes) (value : Wire) (expiry : SetExpiry) (now : Nat) (db : Db) :
    Except RedisError Unit × Db :=
  if !expiry.valid then (.error .invalidExpireTime, db)
  else
    let looked := lookupKey db key now
    (.ok (), Function.update looked.2 key (some ⟨value, expiry.when now looked.1⟩))

def DEL (key : Bytes) (db : Db) : Except RedisError Unit × Db :=
  (.ok (), Function.update db key none)

/-- The fate of one command's round trip. -/
inductive RoundTrip where
  | delivered
  /-- The command never reached the server. -/
  | failed (e : RedisError)
  /-- The server ran the command; its reply was lost. -/
  | replyLost (e : RedisError)
  deriving DecidableEq, Repr

/-- One command over the connection: what the client gets back and the database after it. -/
def roundTrip {α : Type} (net : RoundTrip) (db : Db) (cmd : Db → Except RedisError α × Db) :
    Except RedisError α × Db :=
  match net with
  | .delivered => cmd db
  | .failed e => (.error e, db)
  | .replyLost e => (.error e, (cmd db).2)

/-- The `redis.Options` the adapter fills. -/
structure Options where
  Username : String
  Addr : String
  Password : String
  DB : Int
  deriving DecidableEq, Repr

end redis

/-! ## The two gocache stores and the marshaler -/

inductive StoreError where
  /-- `store.NotFound`: "value not found in ... store". -/
  | notFound
  /-- freecache's `Set` error, returned as is. -/
  | freecache (e : freecache.CacheError)
  /-- The Freecache store's `Delete` of a missing key: "failed to delete key". -/
  | deleteFailed
  | redis (e : redis.RedisError)
  | msgpack (e : MsgpackError)
  deriving DecidableEq, Repr

structure FreecacheStore where
  client : freecache.Cache
  options : Options

def NewFreecache (client : freecache.Cache) (options : List StoreOption) : FreecacheStore :=
  ⟨client, ApplyOptions options⟩

/-- The seconds `FreecacheStore.Set` gives freecache: `int(opts.Expiration.Seconds())` for a
positive expiration, else `0`. The truncation is taken exact, which Go's float64 arithmetic is
below `2^24` seconds. -/
def FreecacheStore.mSec (opts : Options) : Int :=
  if 0 < opts.Expiration then opts.Expiration / Second else 0

def FreecacheStore.Set (s : FreecacheStore) (key : Bytes) (value : Wire)
    (options : List StoreOption) (now : Nat) : Except StoreError FreecacheStore :=
  let opts := ApplyOptionsWithDefault s.options options
  match s.client.Set key value (FreecacheStore.mSec opts) now with
  | .ok client => .ok { s with client }
  | .error e => .error (.freecache e)

def FreecacheStore.Get (s : FreecacheStore) (key : Bytes) (now : Nat) :
    Except StoreError Wire × FreecacheStore :=
  let got := s.client.Get key now
  (match got.1 with
    | .ok value => .ok value
    | .error _ => .error .notFound,
    { s with client := got.2 })

def FreecacheStore.Delete (s : FreecacheStore) (key : Bytes) :
    Option StoreError × FreecacheStore :=
  let deleted := s.client.Del key
  (if deleted.1 then none else some .deleteFailed, { s with client := deleted.2 })

/-- `RedisStore`, with the contents of the database its client talks to. -/
structure RedisStore where
  client : redis.Options
  options : Options
  db : redis.Db

/-- `RedisStore.Set`: `client.Set(key, value, opts.Expiration)`. -/
def RedisStore.Set (s : RedisStore) (key : Bytes) (value : Wire) (options : List StoreOption)
    (now : Nat) (net : redis.RoundTrip) : Option StoreError × RedisStore :=
  let opts := ApplyOptionsWithDefault s.options options
  let reply := redis.roundTrip net s.db (redis.SET key value (redis.setArgs opts.Expiration) now)
  (match reply.1 with
    | .ok () => none
    | .error e => some (.redis e),
    { s with db := reply.2 })

/-- `RedisStore.Get`: `redis.Nil` becomes `store.NotFound`. -/
def RedisStore.Get (s : RedisStore) (key : Bytes) (now : Nat) (net : redis.RoundTrip) :
    Except StoreError Wire × RedisStore :=
  let reply := redis.roundTrip net s.db (redis.GET key now)
  (match reply.1 with
    | .ok (some value) => .ok value
    | .ok none => .error .notFound
    | .error e => .error (.redis e),
    { s with db := reply.2 })

def RedisStore.Delete (s : RedisStore) (key : Bytes) (net : redis.RoundTrip) :
    Option StoreError × RedisStore :=
  let reply := redis.roundTrip net s.db (redis.DEL key)
  (match reply.1 with
    | .ok () => none
    | .error e => some (.redis e),
    { s with db := reply.2 })

/-- What one call meets: the instant it runs at and, for Redis, the fate of its round trip. -/
structure Env where
  now : Nat
  net : redis.RoundTrip := .delivered
  deriving DecidableEq, Repr

/-- The store a marshaler wraps: one of the two `NewCache` builds. -/
inductive Backend where
  | freecache (s : FreecacheStore)
  | redis (s : RedisStore)

def Backend.Set (b : Backend) (key : Bytes) (value : Wire) (options : List StoreOption)
    (env : Env) : Option StoreError × Backend :=
  match b with
  | .freecache s =>
    match s.Set key value options env.now with
    | .ok s => (none, .freecache s)
    | .error e => (some e, .freecache s)
  | .redis s =>
    let r := s.Set key value options env.now env.net
    (r.1, .redis r.2)

def Backend.Get (b : Backend) (key : Bytes) (env : Env) : Except StoreError Wire × Backend :=
  match b with
  | .freecache s =>
    let r := s.Get key env.now
    (r.1, .freecache r.2)
  | .redis s =>
    let r := s.Get key env.now env.net
    (r.1, .redis r.2)

def Backend.Delete (b : Backend) (key : Bytes) (env : Env) : Option StoreError × Backend :=
  match b with
  | .freecache s =>
    let r := s.Delete key
    (r.1, .freecache r.2)
  | .redis s =>
    let r := s.Delete key env.net
    (r.1, .redis r.2)

/-- An entry dropped by the store itself: freecache's ring buffer overwriting it, Redis evicting
it or expiring it actively. -/
def Backend.evict (b : Backend) (key : Bytes) : Backend :=
  match b with
  | .freecache s => .freecache { s with client := s.client.evict key }
  | .redis s => .redis { s with db := Function.update s.db key none }

structure Marshaler where
  cache : Backend

/-- `Marshaler.Set`: `msgpack.Marshal`, then the store's `Set`. -/
def Marshaler.Set (m : Marshaler) (key : Bytes) (object : GoValue) (options : List StoreOption)
    (env : Env) : Option StoreError × Marshaler :=
  let r := m.cache.Set key (Marshal object) options env
  (r.1, ⟨r.2⟩)

/-- `Marshaler.Get`: the store's `Get`, then `msgpack.Unmarshal` into an `interface{}`. -/
def Marshaler.Get (m : Marshaler) (key : Bytes) (env : Env) :
    Except StoreError GoValue × Marshaler :=
  let r := m.cache.Get key env
  (match r.1 with
    | .ok bytes =>
      match DecodeInterface bytes with
      | .ok value => .ok value
      | .error e => .error (.msgpack e)
    | .error e => .error e,
    ⟨r.2⟩)

def Marshaler.Delete (m : Marshaler) (key : Bytes) (env : Env) : Option StoreError × Marshaler :=
  let r := m.cache.Delete key env
  (r.1, ⟨r.2⟩)

/-! ## What a store holds -/

/-- An entry as its backend stores it. -/
inductive Stored where
  | freecache (e : freecache.Entry)
  | redis (e : redis.Entry)

def Stored.value : Stored → Wire
  | .freecache e => e.value
  | .redis e => e.value

def Stored.expired : Stored → Nat → Bool
  | .freecache e, now => e.expired now
  | .redis e, now => e.expired now

/-- What a backend holds under `key`, expired or not. -/
def Backend.lookup : Backend → Bytes → Option Stored
  | .freecache s, key => (s.client.entries key).map .freecache
  | .redis s, key => (s.db key).map .redis

def Backend.expired (b : Backend) (key : Bytes) (now : Nat) : Bool :=
  (b.lookup key).any (·.expired now)

def Backend.isRedis : Backend → Bool
  | .freecache _ => false
  | .redis _ => true

def Backend.options : Backend → Options
  | .freecache s => s.options
  | .redis s => s.options

def Backend.bufferSize : Backend → Nat
  | .freecache s => s.client.size
  | .redis _ => 0

/-- Two states of one store: the same kind, the same defaults, the same buffer. -/
structure Backend.SameStore (b b' : Backend) : Prop where
  isRedis : b'.isRedis = b.isRedis
  options : b'.options = b.options
  bufferSize : b'.bufferSize = b.bufferSize

theorem Backend.SameStore.trans {b b' b'' : Backend} (h : b.SameStore b') (h' : b'.SameStore b'') :
    b.SameStore b'' :=
  ⟨h'.isRedis.trans h.isRedis, h'.options.trans h.options, h'.bufferSize.trans h.bufferSize⟩

/-- An operation on `key` leaves the entry under `k` as it was, or `key` is `k` and the entry is
gone. -/
def KeptOrDropped {α : Type} (key k : Bytes) (before after : Option α) : Prop :=
  after = before ∨ (key = k ∧ after = none)

theorem KeptOrDropped.refl {α : Type} (key k : Bytes) (a : Option α) : KeptOrDropped key k a a :=
  .inl rfl

theorem KeptOrDropped.update_none {α : Type} (key k : Bytes) (f : Bytes → Option α) :
    KeptOrDropped key k (f k) (Function.update f key none k) := by
  by_cases h : key = k
  · subst h; exact .inr ⟨rfl, Function.update_same _ _ _⟩
  · exact .inl (Function.update_noteq (Ne.symm h) _ _)

theorem KeptOrDropped.trans {α : Type} {key k : Bytes} {a b c : Option α}
    (hab : KeptOrDropped key k a b) (hbc : KeptOrDropped key k b c) : KeptOrDropped key k a c := by
  rcases hab with rfl | ⟨eq, rfl⟩
  · exact hbc
  · rcases hbc with rfl | ⟨_, rfl⟩ <;> exact .inr ⟨eq, rfl⟩

theorem KeptOrDropped.map {α β : Type} {key k : Bytes} {a b : Option α} (f : α → β)
    (h : KeptOrDropped key k a b) : KeptOrDropped key k (a.map f) (b.map f) := by
  rcases h with rfl | ⟨eq, rfl⟩
  · exact .refl _ _ _
  · exact .inr ⟨eq, rfl⟩

/-! ### freecache -/

namespace freecache

theorem Cache.Set_entries {cache cache' : Cache} {key : Bytes} {value : Wire} {e : Int} {now : Nat}
    (ok : cache.Set key value e now = .ok cache') :
    cache'.entries = Function.update cache.entries key (some ⟨value, expireAtOf e now⟩) := by
  unfold Cache.Set at ok
  split_ifs at ok
  cases ok; rfl

theorem Cache.Set_size {cache cache' : Cache} {key : Bytes} {value : Wire} {e : Int} {now : Nat}
    (ok : cache.Set key value e now = .ok cache') : cache'.size = cache.size := by
  unfold Cache.Set at ok
  split_ifs at ok
  cases ok; rfl

theorem Cache.Get_size (cache : Cache) (key : Bytes) (now : Nat) :
    (cache.Get key now).2.size = cache.size := by
  unfold Cache.Get
  split
  · rfl
  · split <;> rfl

theorem Cache.Get_entries (cache : Cache) (key k : Bytes) (now : Nat) :
    KeptOrDropped key k (cache.entries k) ((cache.Get key now).2.entries k) := by
  unfold Cache.Get
  split
  · exact .refl _ _ _
  · split
    · exact .update_none _ _ _
    · exact .refl _ _ _

theorem Cache.Get_ok {cache : Cache} {key : Bytes} {now : Nat} {w : Wire}
    (ok : (cache.Get key now).1 = .ok w) :
    ∃ e, cache.entries key = some e ∧ e.expired now = false ∧ e.value = w := by
  unfold Cache.Get at ok
  split at ok
  · cases ok
  · rename_i e found
    split at ok
    · cases ok
    · rename_i live
      cases ok; exact ⟨e, found, by simpa using live, rfl⟩

theorem Cache.Get_of_entries {cache : Cache} {key : Bytes} {now : Nat} {e : Entry}
    (found : cache.entries key = some e) (live : e.expired now = false) :
    (cache.Get key now).1 = .ok e.value := by
  simp [Cache.Get, found, live]

end freecache

/-! ### Redis -/

namespace redis

theorem lookupKey_db (db : Db) (key k : Bytes) (now : Nat) :
    KeptOrDropped key k (db k) ((lookupKey db key now).2 k) := by
  unfold lookupKey
  split
  · split
    · exact .update_none _ _ _
    · exact .refl _ _ _
  · exact .refl _ _ _

theorem lookupKey_some {db : Db} {key : Bytes} {now : Nat} {e : Entry}
    (found : (lookupKey db key now).1 = some e) : db key = some e ∧ e.expired now = false := by
  unfold lookupKey at found
  split at found
  · rename_i e' stored
    split at found
    · cases found
    · rename_i live
      cases found; exact ⟨stored, by simpa using live⟩
  · cases found

theorem lookupKey_of_live {db : Db} {key : Bytes} {now : Nat} {e : Entry}
    (found : db key = some e) (live : e.expired now = false) :
    lookupKey db key now = (some e, db) := by
  simp [lookupKey, found, live]

theorem SET_db_of_ne {key k : Bytes} (value : Wire) (expiry : SetExpiry) (now : Nat) (db : Db)
    (ne : key ≠ k) : (SET key value expiry now db).2 k = db k := by
  unfold SET
  split
  · rfl
  · simp only [Function.update_noteq (Ne.symm ne)]
    rcases lookupKey_db db key k now with kept | ⟨eq, -⟩
    · exact kept
    · exact absurd eq ne

theorem SET_ok {key : Bytes} {value : Wire} {expiry : SetExpiry} {now : Nat} {db : Db}
    (ok : (SET key value expiry now db).1 = .ok ()) :
    (SET key value expiry now db).2 key =
      some ⟨value, expiry.when now (lookupKey db key now).1⟩ := by
  unfold SET at ok ⊢
  split
  · simp_all
  · exact Function.update_same _ _ _

theorem roundTrip_db {α : Type} (net : RoundTrip) (db : Db)
    (cmd : Db → Except RedisError α × Db) :
    (roundTrip net db cmd).2 = db ∨ (roundTrip net db cmd).2 = (cmd db).2 := by
  cases net <;> simp [roundTrip]

theorem roundTrip_of_ok {α : Type} {net : RoundTrip} {db : Db}
    {cmd : Db → Except RedisError α × Db}
    {a : α} (ok : (roundTrip net db cmd).1 = .ok a) : roundTrip net db cmd = cmd db := by
  cases net <;> simp_all [roundTrip]

theorem roundTrip_kept {α : Type} (net : RoundTrip) (db : Db)
    (cmd : Db → Except RedisError α × Db)
    {key k : Bytes} (kept : KeptOrDropped key k (db k) ((cmd db).2 k)) :
    KeptOrDropped key k (db k) ((roundTrip net db cmd).2 k) := by
  rcases roundTrip_db net db cmd with same | ran
  · rw [same]; exact .refl _ _ _
  · rw [ran]; exact kept

end redis

/-! ### The stores -/

theorem FreecacheStore.Set_ok {s s' : FreecacheStore} {key : Bytes} {value : Wire}
    {options : List StoreOption} {now : Nat} (ok : s.Set key value options now = .ok s') :
    s'.options = s.options ∧ s'.client.entries = Function.update s.client.entries key
      (some ⟨value, freecache.expireAtOf
        (FreecacheStore.mSec (ApplyOptionsWithDefault s.options options)) now⟩) ∧
    s'.client.size = s.client.size := by
  simp only [FreecacheStore.Set] at ok
  split at ok
  · rename_i client set
    cases ok
    exact ⟨rfl, freecache.Cache.Set_entries set, freecache.Cache.Set_size set⟩
  · cases ok

theorem Backend.lookup_Set_of_ne (b : Backend) {key k : Bytes} (value : Wire)
    (options : List StoreOption) (env : Env) (ne : key ≠ k) :
    (b.Set key value options env).2.lookup k = b.lookup k := by
  cases b with
  | freecache s =>
    simp only [Backend.Set]
    split
    · rename_i s' ok
      simp [Backend.lookup, (FreecacheStore.Set_ok ok).2.1, Function.update_noteq (Ne.symm ne)]
    · rfl
  | redis s =>
    simp only [Backend.Set, RedisStore.Set, Backend.lookup]
    rcases redis.roundTrip_db env.net s.db (redis.SET key value _ env.now) with same | ran
    · rw [same]
    · rw [ran, redis.SET_db_of_ne _ _ _ _ ne]

theorem Backend.lookup_Set {b : Backend} {key : Bytes} {value : Wire} {options : List StoreOption}
    {env : Env} (ok : (b.Set key value options env).1 = none) :
    ∃ st, (b.Set key value options env).2.lookup key = some st ∧ st.value = value := by
  cases b with
  | freecache s =>
    simp only [Backend.Set] at ok ⊢
    split at ok
    · rename_i s' set
      simp [Backend.lookup, (FreecacheStore.Set_ok set).2.1, Stored.value]
    · cases ok
  | redis s =>
    simp only [Backend.Set, RedisStore.Set] at ok ⊢
    split at ok
    · rename_i reply
      have stored := redis.SET_ok (by rw [← redis.roundTrip_of_ok reply]; exact reply)
      simp only [Backend.lookup, redis.roundTrip_of_ok reply, stored, Option.map_some']
      exact ⟨_, rfl, rfl⟩
    · cases ok

/-- After a `Set` of `key`, the store holds under `key` the value set or what it held before. -/
theorem Backend.lookup_Set_self {b : Backend} {key : Bytes} {value : Wire}
    {options : List StoreOption} {env : Env} {st : Stored}
    (found : (b.Set key value options env).2.lookup key = some st) :
    st.value = value ∨ b.lookup key = some st := by
  cases b with
  | freecache s =>
    simp only [Backend.Set] at found
    split at found
    · rename_i s' set
      simp only [Backend.lookup, (FreecacheStore.Set_ok set).2.1, Function.update_same,
        Option.map_some', Option.some.injEq] at found
      exact .inl (found ▸ rfl)
    · exact .inr found
  | redis s =>
    simp only [Backend.Set, RedisStore.Set, Backend.lookup] at found ⊢
    rcases redis.roundTrip_db env.net s.db (redis.SET key value _ env.now) with same | ran
    · rw [same] at found; exact .inr found
    · rw [ran] at found
      unfold redis.SET at found
      split at found
      · exact .inr found
      · simp only [Function.update_same, Option.map_some', Option.some.injEq] at found
        exact .inl (found ▸ rfl)

theorem Backend.lookup_Get (b : Backend) (key k : Bytes) (env : Env) :
    KeptOrDropped key k (b.lookup k) ((b.Get key env).2.lookup k) := by
  cases b with
  | freecache s => exact (freecache.Cache.Get_entries s.client key k env.now).map _
  | redis s =>
    exact (redis.roundTrip_kept env.net s.db _ (redis.lookupKey_db s.db key k env.now)).map _

theorem Backend.lookup_Delete (b : Backend) (key k : Bytes) (env : Env) :
    KeptOrDropped key k (b.lookup k) ((b.Delete key env).2.lookup k) := by
  cases b with
  | freecache s => exact (KeptOrDropped.update_none key k s.client.entries).map _
  | redis s =>
    exact (redis.roundTrip_kept env.net s.db _ (KeptOrDropped.update_none key k s.db)).map _

theorem Backend.lookup_evict (b : Backend) (key k : Bytes) :
    KeptOrDropped key k (b.lookup k) ((b.evict key).lookup k) := by
  cases b with
  | freecache s => exact (KeptOrDropped.update_none key k s.client.entries).map _
  | redis s => exact (KeptOrDropped.update_none key k s.db).map _

/-- A `Delete` that returns nil removes the key; in the Freecache store every `Delete` does, found
or not. -/
theorem Backend.lookup_Delete_self {b : Backend} {key : Bytes} {env : Env}
    (done : (b.Delete key env).1 = none ∨ b.isRedis = false) :
    (b.Delete key env).2.lookup key = none := by
  cases b with
  | freecache s => simp [Backend.Delete, FreecacheStore.Delete, freecache.Cache.Del, Backend.lookup]
  | redis s =>
    simp only [Backend.isRedis, Bool.true_eq_false, or_false, Backend.Delete,
      RedisStore.Delete] at done ⊢
    split at done
    · rename_i reply
      simp [Backend.lookup, redis.roundTrip_of_ok reply, redis.DEL]
    · cases done

/-- A store returns only a live entry it holds. -/
theorem Backend.Get_ok {b : Backend} {key : Bytes} {env : Env} {w : Wire}
    (ok : (b.Get key env).1 = .ok w) :
    ∃ st, b.lookup key = some st ∧ st.expired env.now = false ∧ st.value = w := by
  cases b with
  | freecache s =>
    simp only [Backend.Get, FreecacheStore.Get] at ok
    split at ok
    · rename_i got
      obtain ⟨e, found, live, rfl⟩ := freecache.Cache.Get_ok got
      cases ok
      exact ⟨.freecache e, by simp [Backend.lookup, found], live, rfl⟩
    · cases ok
  | redis s =>
    simp only [Backend.Get, RedisStore.Get] at ok
    split at ok
    · rename_i value reply
      rw [redis.roundTrip_of_ok reply] at reply
      simp only [redis.GET, Except.ok.injEq, Option.map_eq_some'] at reply
      obtain ⟨e, looked, rfl⟩ := reply
      obtain ⟨found, live⟩ := redis.lookupKey_some looked
      cases ok
      exact ⟨.redis e, by simp [Backend.lookup, found], live, rfl⟩
    all_goals cases ok

theorem Backend.Get_of_lookup_none {b : Backend} {key : Bytes} (missing : b.lookup key = none)
    (env : Env) : ∃ e, (b.Get key env).1 = .error e := by
  rcases got : (b.Get key env).1 with e | w
  · exact ⟨e, rfl⟩
  · obtain ⟨st, found, -, -⟩ := Backend.Get_ok got
    simp [missing] at found

/-- A live entry is returned, over a delivered round trip for Redis. -/
theorem Backend.Get_of_lookup {b : Backend} {key : Bytes} {st : Stored} {env : Env}
    (found : b.lookup key = some st) (live : st.expired env.now = false)
    (delivered : b.isRedis = true → env.net = .delivered) :
    (b.Get key env).1 = .ok st.value := by
  cases b with
  | freecache s =>
    simp only [Backend.lookup, Option.map_eq_some'] at found
    obtain ⟨e, found, rfl⟩ := found
    simp [Backend.Get, FreecacheStore.Get, freecache.Cache.Get_of_entries found live, Stored.value]
  | redis s =>
    simp only [Backend.lookup, Option.map_eq_some'] at found
    obtain ⟨e, found, rfl⟩ := found
    simp [Backend.Get, RedisStore.Get, delivered rfl, redis.roundTrip, redis.GET,
      redis.lookupKey_of_live found live, Stored.value]

theorem Backend.lookup_Get_of_live {b : Backend} {key : Bytes} {st : Stored} {env : Env}
    (found : b.lookup key = some st) (live : st.expired env.now = false) :
    (b.Get key env).2.lookup key = some st := by
  cases b with
  | freecache s =>
    simp only [Backend.lookup, Option.map_eq_some'] at found
    obtain ⟨e, found, rfl⟩ := found
    simp only [Stored.expired] at live
    simp [Backend.lookup, Backend.Get, FreecacheStore.Get, freecache.Cache.Get, found, live]
  | redis s =>
    simp only [Backend.lookup, Option.map_eq_some'] at found
    obtain ⟨e, found, rfl⟩ := found
    rcases redis.roundTrip_db env.net s.db (redis.GET key env.now) with same | ran <;>
      simp [Backend.lookup, Backend.Get, RedisStore.Get, *, redis.GET,
        redis.lookupKey_of_live found live]

/-- No operation changes which store it is or its defaults. -/
theorem Backend.sameStore_Set (b : Backend) (key : Bytes) (value : Wire)
    (options : List StoreOption) (env : Env) : b.SameStore (b.Set key value options env).2 := by
  cases b with
  | freecache s =>
    simp only [Backend.Set]
    split
    · rename_i s' ok; exact ⟨rfl, (FreecacheStore.Set_ok ok).1, (FreecacheStore.Set_ok ok).2.2⟩
    · exact ⟨rfl, rfl, rfl⟩
  | redis s => exact ⟨rfl, rfl, rfl⟩

theorem Backend.sameStore_Get (b : Backend) (key : Bytes) (env : Env) :
    b.SameStore (b.Get key env).2 := by
  cases b with
  | freecache s => exact ⟨rfl, rfl, freecache.Cache.Get_size s.client key env.now⟩
  | redis s => exact ⟨rfl, rfl, rfl⟩

theorem Backend.sameStore_Delete (b : Backend) (key : Bytes) (env : Env) :
    b.SameStore (b.Delete key env).2 := by
  cases b <;> exact ⟨rfl, rfl, rfl⟩

theorem Backend.sameStore_evict (b : Backend) (key : Bytes) : b.SameStore (b.evict key) := by
  cases b <;> exact ⟨rfl, rfl, rfl⟩

end IntegrationAdapters.Source.Cache
