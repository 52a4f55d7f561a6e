import IntegrationAdapters.Source.Cache

/-!
# Cache guarantees

Runs of the cache adapter. An `Event` is what can happen to a cache between two observations:
an adapter call at some instant, or the store dropping an entry on its own (freecache's ring
buffer overwriting it, Redis evicting or actively expiring it). `run` folds events over a
`CustomCache`.

* `lookup_step`, `lookup_run`: an event that is not a `Put` of `k` leaves the entry under `k` as
  it was, or, if it is about `k`, drops it. The guarantees below all come from these two and the
  store lemmas of `Source.CacheStores`.
* `Get_after_Put`: in both variants, a `Get` after a successful `Put`, with no event writing or
  removing the key between and the entry live at each `Get` of it, returns the value msgpack
  decodes from the stored encoding: the value put exactly when it is canonical
  (`Source.Msgpack`).
* `Get_returns_last_Put`: after a successful `Put`, until the key is written again, a `Get` of
  it returns that decoded value or an error, never anything else.
* `Get_only_put_values`: over any run, a `Get(k)` with a nil error returns the decoding of a
  value some `Put(k, …)` of the run was given, or of what the Redis server held at the start:
  no value is made up, and none crosses from one key to another.
* `Get_after_Delete`: after a `Delete` that returns nil, and after any `Delete` in the Freecache
  variant, a `Get` of the key misses until the key is put again.
* `Put_expiry_freecache`: the Freecache variant expires an entry put with a TTL of at least a
  second from that many seconds on; a TTL under a second, zero and negative ones included, is
  truncated to no expiry at all, the call's TTL standing over the store's ten-second default.
* `Put_size_freecache`: the Freecache variant accepts a `Put` exactly when the key and the
  value's encoding fit a 1024th of the buffer `newMemory` sizes from the configuration.
* `Put_expiry_redis`, `Put_persist_redis`: the Redis variant expires a positive TTL to the
  millisecond, and keeps an entry put with the zero TTL or a negative one other than go-redis's
  `KeepTTL` forever.
-/

namespace IntegrationAdapters.Guarantees.Cache

open IntegrationAdapters.Source Cache Msgpack Config

/-- What can happen to a cache between two observations. -/
inductive Event where
  | put (key : Bytes) (val : GoValue) (d : Int) (env : Env)
  | get (key : Bytes) (env : Env)
  | delete (key : Bytes) (env : Env)
  /-- The store drops the entry on its own. -/
  | evict (key : Bytes)

/-- The key an event is about. -/
def Event.key : Event → Bytes
  | .put key .. | .get key _ | .delete key _ | .evict key => key

/-- Whether the event is a `Put` of `k`. -/
def Event.writes (k : Bytes) : Event → Bool
  | .put key .. => key == k
  | _ => false

/-- Whether the event writes or removes `k`; a `Get` of `k` does neither. -/
def Event.touches (k : Bytes) : Event → Bool
  | .get .. => false
  | ev => ev.key == k

theorem Event.writes_of_key_ne {ev : Event} {k : Bytes} (ne : ev.key ≠ k) :
    ev.writes k = false := by
  cases ev <;> simp_all [Event.writes, Event.key]

/-- One event. -/
def step (c : CustomCache) : Event → CustomCache
  | .put key val d env => (c.Put key val d env).2
  | .get key env => (c.Get key env).2
  | .delete key env => (c.Delete key env).2
  | .evict key => { c with store := ⟨c.store.cache.evict key⟩ }

/-- A run of events. -/
def run (c : CustomCache) (events : List Event) : CustomCache :=
  events.foldl step c

/-! ## One key across a run -/

theorem lookup_step (c : CustomCache) (ev : Event) (k : Bytes) (notWrite : ev.writes k = false) :
    KeptOrDropped ev.key k (c.store.cache.lookup k) ((step c ev).store.cache.lookup k) := by
  cases ev with
  | put key val d env =>
    exact .inl (Backend.lookup_Set_of_ne _ _ _ _ (by simpa [Event.writes] using notWrite))
  | get key env => exact Backend.lookup_Get _ _ _ _
  | delete key env => exact Backend.lookup_Delete _ _ _ _
  | evict key => exact Backend.lookup_evict _ _ _

/-- Over a run that never writes `k`, the entry under `k` stays as it was, or an event about `k`
dropped it. -/
theorem lookup_run (k : Bytes) : ∀ (events : List Event) (c : CustomCache),
    (∀ ev ∈ events, ev.writes k = false) →
    (run c events).store.cache.lookup k = c.store.cache.lookup k ∨
      ((∃ ev ∈ events, ev.key = k) ∧ (run c events).store.cache.lookup k = none)
  | [], _, _ => .inl rfl
  | ev :: events, c, noWrite => by
    have later := lookup_run k events (step c ev) fun e mem => noWrite e (.tail _ mem)
    change _ = _ ∨ (_ ∧ (run (step c ev) events).store.cache.lookup k = none) at later
    rcases later with same | ⟨⟨e, mem, onKey⟩, gone⟩
    · rcases lookup_step c ev k (noWrite ev (.head _)) with kept | ⟨onKey, gone⟩
      · exact .inl (same.trans kept)
      · exact .inr ⟨⟨ev, .head _, onKey⟩, same.trans gone⟩
    · exact .inr ⟨⟨e, .tail _ mem, onKey⟩, gone⟩

/-- An entry stays through an event that neither writes nor removes it, provided it is live
when the event is a `Get` of its key. -/
theorem lookup_step_live (c : CustomCache) (ev : Event) {k : Bytes} {st : Stored}
    (untouched : ev.touches k = false) (live : ∀ env, ev = .get k env → st.expired env.now = false)
    (found : c.store.cache.lookup k = some st) : (step c ev).store.cache.lookup k = some st := by
  by_cases onKey : ev.key = k
  · cases ev with
    | get key env =>
      cases onKey
      exact Backend.lookup_Get_of_live found (live env rfl)
    | _ => simp [Event.touches, onKey] at untouched
  · rcases lookup_step c ev k (Event.writes_of_key_ne onKey) with kept | ⟨onKey', -⟩
    · exact kept.trans found
    · exact absurd onKey' onKey

/-- Over a run that neither writes nor removes `k`, the entry under `k` stays if it is live at
every `Get` of `k` in the run. -/
theorem lookup_run_live {k : Bytes} {st : Stored} : ∀ (events : List Event) (c : CustomCache),
    (∀ ev ∈ events, ev.touches k = false) →
    (∀ env, Event.get k env ∈ events → st.expired env.now = false) →
    c.store.cache.lookup k = some st → (run c events).store.cache.lookup k = some st
  | [], _, _, _, found => found
  | ev :: events, c, untouched, live, found =>
    lookup_run_live events (step c ev) (fun e mem => untouched e (.tail _ mem))
      (fun env mem => live env (.tail _ mem))
      (lookup_step_live c ev (untouched ev (.head _)) (fun env isGet => live env (isGet ▸ .head _))
        found)

theorem lookup_run_forever {k : Bytes} {st : Stored} (forever : ∀ now, st.expired now = false)
    (events : List Event) (c : CustomCache) (untouched : ∀ ev ∈ events, ev.touches k = false)
    (found : c.store.cache.lookup k = some st) : (run c events).store.cache.lookup k = some st :=
  lookup_run_live events c untouched (fun _ _ => forever _) found

/-- Where an entry after one event comes from: it was there before, or the event is a `Put` of
its key that stored it. -/
theorem lookup_step_some {c : CustomCache} {ev : Event} {k : Bytes} {st : Stored}
    (found : (step c ev).store.cache.lookup k = some st) :
    c.store.cache.lookup k = some st ∨
      ∃ v d env, ev = .put k v d env ∧ st.value = Marshal v := by
  by_cases written : ev.writes k = true
  · cases ev with
    | put key v d env =>
      obtain rfl : key = k := by simpa [Event.writes] using written
      rcases Backend.lookup_Set_self found with stored | kept
      · exact .inr ⟨v, d, env, rfl, stored⟩
      · exact .inl kept
    | _ => simp [Event.writes] at written
  · rcases lookup_step c ev k (by simpa using written) with kept | ⟨-, gone⟩
    · exact .inl (kept ▸ found)
    · simp [gone] at found

/-- After a run, an entry was there at the start or a `Put` of its key in the run stored it. -/
theorem lookup_run_some (k : Bytes) {st : Stored} : ∀ (events : List Event) (c : CustomCache),
    (run c events).store.cache.lookup k = some st →
    c.store.cache.lookup k = some st ∨
      ∃ v d env, Event.put k v d env ∈ events ∧ st.value = Marshal v
  | [], _, found => .inl found
  | ev :: events, c, found => by
    rcases lookup_run_some k events (step c ev) found with before | ⟨v, d, env, mem, stored⟩
    · rcases lookup_step_some before with kept | ⟨v, d, env, rfl, stored⟩
      · exact .inl kept
      · exact .inr ⟨v, d, env, .head _, stored⟩
    · exact .inr ⟨v, d, env, .tail _ mem, stored⟩

/-! ## Put, then Get -/

/-- A successful `Put` stores the encoding of the value under its key. -/
theorem lookup_Put {c : CustomCache} {k : Bytes} {v : GoValue} {d : Int} {env : Env}
    (ok : (c.Put k v d env).1 = none) :
    ∃ st, (c.Put k v d env).2.store.cache.lookup k = some st ∧ st.value = Marshal v :=
  Backend.lookup_Set ok

/-- Until its key is written again, a successful `Put`'s value is the only one a `Get` of the key
returns: decoded as msgpack decodes it, with no error; otherwise `Get` returns nil and an
error. -/
theorem Get_returns_last_Put (c : CustomCache) (k : Bytes) (v : GoValue) (d : Int)
    (env : Env) (put_ok : (c.Put k v d env).1 = none) :
    ∃ decoded, DecodeInterface (Marshal v) = .ok decoded ∧
      ∀ (mid : List Event) (env' : Env), (∀ ev ∈ mid, ev.writes k = false) →
        ((run (c.Put k v d env).2 mid).Get k env').1 = (decoded, env'.now, none) ∨
        ∃ e, ((run (c.Put k v d env).2 mid).Get k env').1 = (.nil, env'.now, some e) := by
  obtain ⟨st, stored, value⟩ := lookup_Put put_ok
  obtain ⟨decoded, dec⟩ := DecodeInterface_Marshal_ok v
  refine ⟨decoded, dec, fun mid env' noWrite => ?_⟩
  rcases CustomCache.Get_cases (run (c.Put k v d env).2 mid) k env' with
    ⟨w, decoded', got, dec', result⟩ | failed
  · obtain ⟨st', found, -, rfl⟩ := Backend.Get_ok got
    have : st' = st := by
      rcases lookup_run k mid _ noWrite with kept | ⟨-, gone⟩
      · exact Option.some.inj (found.symm.trans (kept.trans stored))
      · exact absurd (found.symm.trans gone) (by simp)
    subst this
    rw [value, dec, Except.ok.injEq] at dec'
    exact .inl (dec' ▸ result)
  · exact .inr failed

theorem Get_returns_last_Put_string :
    ((NewCache CacheConfig.default fun _ => none).Put [107] (.string [104]) Second
      { now := 0 }).1 = none ∧
    ∃ decoded, DecodeInterface (Marshal (.string [104])) = .ok decoded ∧
      ∀ (mid : List Event) (env' : Env), (∀ ev ∈ mid, ev.writes [107] = false) →
        ((run ((NewCache CacheConfig.default fun _ => none).Put [107] (.string [104]) Second
          { now := 0 }).2 mid).Get [107] env').1 = (decoded, env'.now, none) ∨
        ∃ e, ((run ((NewCache CacheConfig.default fun _ => none).Put [107] (.string [104])
          Second { now := 0 }).2 mid).Get [107] env').1 = (.nil, env'.now, some e) :=
  ⟨rfl, Get_returns_last_Put _ [107] _ Second _ rfl⟩

/-- Until `k` is written again, a `Get` at an instant where the entry a `Put` left has expired
finds nothing live. -/
theorem Get_miss_of_expired {c : CustomCache} {k : Bytes} {st : Stored} (mid : List Event)
    (env' : Env) (stored : c.store.cache.lookup k = some st) (expired : st.expired env'.now = true)
    (noWrite : ∀ ev ∈ mid, ev.writes k = false) :
    ∃ e, ((run c mid).store.cache.Get k env').1 = .error e := by
  rcases got : ((run c mid).store.cache.Get k env').1 with e | w
  · exact ⟨e, rfl⟩
  · obtain ⟨st', found, live, -⟩ := Backend.Get_ok got
    rcases lookup_run k mid c noWrite with kept | ⟨-, gone⟩
    · rw [kept, stored, Option.some.injEq] at found
      subst found
      simp [expired] at live
    · simp [gone] at found

/-! ## Only values that were put -/

/-- A freshly built cache holds nothing but what the Redis server already held. -/
theorem lookup_NewCache {config : CacheConfig} {server : redis.Db} {k : Bytes} {st : Stored}
    (found : (NewCache config server).store.cache.lookup k = some st) :
    config.type = 2 ∧ ∃ e, server k = some e ∧ st = .redis e := by
  unfold NewCache at found
  split at found
  · simp [newMemory, NewFreecache, freecache.NewCache, Backend.lookup] at found
  · rename_i type
    simp only [newRedis, Backend.lookup, Option.map_eq_some'] at found
    obtain ⟨e, stored, rfl⟩ := found
    exact ⟨type, e, stored, rfl⟩
  · simp [newMemory, NewFreecache, freecache.NewCache, Backend.lookup] at found

/-- A cache never makes a value up: in either variant, after any run, a `Get(k)` that returns a
nil error returns what msgpack decodes from the encoding of a value some `Put(k, …)` of the run
was given, whatever that `Put` returned, or, in the Redis variant, from what the server held under
`k` when the cache was built. -/
theorem Get_only_put_values (config : CacheConfig) (server : redis.Db) (events : List Event)
    (k : Bytes) (env : Env) (v : GoValue)
    (got : ((run (NewCache config server) events).Get k env).1 = (v, env.now, none)) :
    ∃ w, DecodeInterface w = .ok v ∧
      ((∃ val d env', Event.put k val d env' ∈ events ∧ w = Marshal val) ∨
        (config.type = 2 ∧ ∃ e : redis.Entry, server k = some e ∧ w = e.value)) := by
  rcases CustomCache.Get_cases (run (NewCache config server) events) k env with
    ⟨w, decoded, stored, dec, result⟩ | ⟨e, failed⟩
  · obtain rfl : decoded = v := (Prod.mk.inj (result.symm.trans got)).1
    obtain ⟨st, found, -, rfl⟩ := Backend.Get_ok stored
    refine ⟨st.value, dec, ?_⟩
    rcases lookup_run_some k events _ found with initial | ⟨val, d, env', mem, value⟩
    · obtain ⟨type, e, onServer, rfl⟩ := lookup_NewCache initial
      exact .inr ⟨type, e, onServer, rfl⟩
    · exact .inl ⟨val, d, env', mem, value⟩
  · cases failed.symm.trans got

theorem Get_only_put_values_string :
    ((run (NewCache CacheConfig.default fun _ => none)
      [.put [107] (.string [104]) Second { now := 0 }]).Get [107] { now := 0 }).1 =
      (.string [104], 0, none) ∧
    ∃ w, DecodeInterface w = .ok (.string [104]) ∧
      ((∃ val d env', Event.put [107] val d env' ∈ [.put [107] (.string [104]) Second { now := 0 }]
          ∧ w = Marshal val) ∨
        (CacheConfig.default.type = 2 ∧
          ∃ e : redis.Entry, (fun _ => none : redis.Db) [107] = some e ∧ w = e.value)) :=
  ⟨rfl, Get_only_put_values CacheConfig.default (fun _ => none)
    [.put [107] (.string [104]) Second { now := 0 }] [107] { now := 0 } (.string [104]) rfl⟩

/-! ## Delete, then Get -/

/-- Both variants: after a `Delete(k)` that returns nil, and after every `Delete(k)` in the
Freecache variant, each `Get(k)` until `k` is put again returns nil and an error. -/
theorem Get_after_Delete (c : CustomCache) (k : Bytes) (env : Env)
    (deleted : (c.Delete k env).1 = none ∨ c.store.cache.isRedis = false) (mid : List Event)
    (noWrite : ∀ ev ∈ mid, ev.writes k = false) (env' : Env) :
    ∃ e, ((run (c.Delete k env).2 mid).Get k env').1 = (.nil, env'.now, some e) := by
  have gone : (run (c.Delete k env).2 mid).store.cache.lookup k = none := by
    rcases lookup_run k mid _ noWrite with kept | ⟨-, gone⟩
    · exact kept.trans (Backend.lookup_Delete_self deleted)
    · exact gone
  obtain ⟨e, failed⟩ := Backend.Get_of_lookup_none gone env'
  exact ⟨e, CustomCache.Get_of_store_error failed⟩

theorem Get_after_Delete_redis :
    (((NewCache ⟨2, 10, "a", "", "", 0⟩ fun _ => none).Delete [107] { now := 0 }).1 = none ∨
      (NewCache ⟨2, 10, "a", "", "", 0⟩ fun _ => none).store.cache.isRedis = false) ∧
    (∀ ev ∈ [Event.put [108] (.string [104]) Second { now := 0 }], ev.writes [107] = false) ∧
    ∃ e, ((run ((NewCache ⟨2, 10, "a", "", "", 0⟩ fun _ => none).Delete [107] { now := 0 }).2
      [.put [108] (.string [104]) Second { now := 0 }]).Get [107] { now := 1 }).1 =
        (.nil, 1, some e) :=
  ⟨.inl rfl, by decide,
    Get_after_Delete (NewCache ⟨2, 10, "a", "", "", 0⟩ fun _ => none) [107] { now := 0 }
      (.inl rfl)
    [.put [108] (.string [104]) Second { now := 0 }] (by decide) { now := 1 }⟩

/-! ## The store's kind and defaults across a run -/

theorem sameStore_step (c : CustomCache) (ev : Event) :
    c.store.cache.SameStore (step c ev).store.cache := by
  cases ev with
  | put key val d env => exact Backend.sameStore_Set _ _ _ _ _
  | get key env => exact Backend.sameStore_Get _ _ _
  | delete key env => exact Backend.sameStore_Delete _ _ _
  | evict key => exact Backend.sameStore_evict _ _

theorem sameStore_run : ∀ (events : List Event) (c : CustomCache),
    c.store.cache.SameStore (run c events).store.cache
  | [], _ => ⟨rfl, rfl, rfl⟩
  | ev :: events, c => (sameStore_step c ev).trans (sameStore_run events (step c ev))

/-- The Freecache variant. -/
def IsMemory (b : Backend) : Prop :=
  b.isRedis = false

theorem IsMemory.of_sameStore {b b' : Backend} (mem : IsMemory b) (same : b.SameStore b') :
    IsMemory b' :=
  same.isRedis.trans mem

theorem IsMemory_NewCache (config : CacheConfig) (notRedis : config.type ≠ 2)
    (server : redis.Db) :
    IsMemory (NewCache config server).store.cache := by
  unfold NewCache
  split
  · rfl
  · contradiction
  · rfl

/-! ## Expiry in the Freecache variant -/

/-- In the Freecache variant, `Put(k, v, d)` writes the entry with the expiry second freecache
computes from `d` itself, the call's `WithExpiration` standing over the store's default. -/
theorem lookup_Put_memory {b : Backend} (mem : IsMemory b) {k : Bytes} {w : Wire} {d : Int}
    {env : Env} (ok : (b.Set k w [WithExpiration d] env).1 = none) :
    (b.Set k w [WithExpiration d] env).2.lookup k =
      some (.freecache ⟨w, freecache.expireAtOf (FreecacheStore.mSec ⟨d⟩) env.now⟩) := by
  cases b with
  | redis s => cases mem
  | freecache s =>
    simp only [Backend.Set] at ok ⊢
    split at ok
    · rename_i s' set
      simp [Backend.lookup, (FreecacheStore.Set_ok set).2.1,
        ApplyOptionsWithDefault_WithExpiration]
    · cases ok

/-- In the Freecache variant every `Get` error is `store.NotFound`. -/
theorem IsMemory.Get_error {b : Backend} (mem : IsMemory b) (key : Bytes) (env : Env)
    {e : StoreError} (failed : (b.Get key env).1 = .error e) : e = .notFound := by
  cases b with
  | redis s => cases mem
  | freecache s =>
    simp only [Backend.Get, FreecacheStore.Get] at failed
    split at failed <;> cases failed
    rfl

/-- An entry written `e ≥ 1` seconds ahead of `t0` has expired at every instant at least that many
seconds later, as long as the `uint32` clock has not wrapped. -/
theorem expired_of_later (w : Wire) {e : Int} {t0 t : Nat} (pos : 0 < e)
    (later : t0 / 1000000000 + e.toNat ≤ t / 1000000000) (noWrap : t < 4294967296 * 1000000000) :
    (⟨w, freecache.expireAtOf e t0⟩ : freecache.Entry).expired t = true := by
  have wrap : (1 <<< 32 : Nat) = 4294967296 := rfl
  have clock : t / 1000000000 < 4294967296 := by omega
  simp only [freecache.Entry.expired, freecache.expireAtOf, freecache.timerNow, pos, if_true, wrap,
    Nat.mod_eq_of_lt clock, Nat.mod_eq_of_lt (by omega : t0 / 1000000000 < 4294967296),
    Nat.mod_eq_of_lt (by omega : e.toNat < 4294967296),
    Nat.mod_eq_of_lt (by omega : t0 / 1000000000 + e.toNat < 4294967296),
    bne_iff_ne, ne_eq, Bool.and_eq_true, decide_eq_true_eq]
  omega

/-- An entry written with `0` seconds never expires. -/
theorem expired_zero (w : Wire) (t0 t : Nat) :
    (⟨w, freecache.expireAtOf 0 t0⟩ : freecache.Entry).expired t = false := by
  simp [freecache.Entry.expired, freecache.expireAtOf]

/-- A TTL of `d ≥ 1 s` has passed, in whole seconds of the clock, at every `t ≥ t0 + d`. -/
theorem seconds_passed {t0 t : Nat} {d : Int} (atLeast : 1000000000 ≤ d)
    (later : (t0 : Int) + d ≤ t) :
    t0 / 1000000000 + (d / 1000000000).toNat ≤ t / 1000000000 := by
  omega

/-- The Freecache variant built by `NewCache`, after any history. When `Put(k, v, d)` succeeds at
`t0` and `k` is not written again: with a TTL of at least a second, `Get(k)` misses at every
instant `t ≥ t0 + d` before the clock wraps in 2106; with a TTL under a second, zero and negative
ones included, the entry never expires, and `Get(k)` returns the decoded value at every instant
until `k` is deleted or evicted. `Put`'s `WithExpiration(d)` stands over the store's ten-second
default, which it never uses. The bound of `2^24` seconds is where Go's float64 `Seconds` stops
truncating exactly. -/
theorem Put_expiry_freecache (config : CacheConfig) (notRedis : config.type ≠ 2)
    (server : redis.Db) (pre mid : List Event) (k : Bytes) (v : GoValue) (d : Int) (env : Env)
    (put_ok : ((run (NewCache config server) pre).Put k v d env).1 = none) :
    ((Second ≤ d ∧ d < 16777216 * Second) → (∀ ev ∈ mid, ev.writes k = false) →
      ∀ env' : Env, (env.now : Int) + d ≤ env'.now → env'.now < 4294967296 * 1000000000 →
        ((run ((run (NewCache config server) pre).Put k v d env).2 mid).Get k env').1 =
          (.nil, env'.now, some .notFound)) ∧
    (d < Second → (∀ ev ∈ mid, ev.touches k = false) →
      ∃ decoded, DecodeInterface (Marshal v) = .ok decoded ∧ ∀ env' : Env,
        ((run ((run (NewCache config server) pre).Put k v d env).2 mid).Get k env').1 =
          (decoded, env'.now, none)) := by
  have mem := (IsMemory_NewCache config notRedis server).of_sameStore (sameStore_run pre _)
  have stored : ((run (NewCache config server) pre).Put k v d env).2.store.cache.lookup k = _ :=
    lookup_Put_memory mem put_ok
  have memAfter :
      IsMemory (run ((run (NewCache config server) pre).Put k v d env).2 mid).store.cache :=
    mem.of_sameStore ((sameStore_step _ (.put k v d env)).trans (sameStore_run mid _))
  simp only [FreecacheStore.mSec, Second] at *
  constructor
  · rintro ⟨atLeast, -⟩ noWrite env' later noWrap
    rw [if_pos (by omega)] at stored
    obtain ⟨e, failed⟩ := Get_miss_of_expired mid env' stored
      (expired_of_later _ (by omega) (seconds_passed atLeast later) noWrap) noWrite
    rw [memAfter.Get_error k env' failed] at failed
    exact CustomCache.Get_of_store_error failed
  · intro short untouched
    obtain ⟨decoded, dec⟩ := DecodeInterface_Marshal_ok v
    refine ⟨decoded, dec, fun env' => ?_⟩
    have zero : (if 0 < d then d / 1000000000 else 0 : Int) = 0 := by split_ifs <;> omega
    rw [zero] at stored
    have never : ∀ t,
        (Stored.freecache ⟨Marshal v, freecache.expireAtOf 0 env.now⟩).expired t = false :=
      expired_zero _ _
    have same := lookup_run_forever never mid _ untouched stored
    exact CustomCache.Get_of_store (Backend.Get_of_lookup same (never _)
      fun isRedis => absurd (memAfter.symm.trans isRedis) (by decide)) dec

theorem Put_expiry_freecache_one_second :
    CacheConfig.default.type ≠ 2 ∧
    ((run (NewCache CacheConfig.default fun _ => none) []).Put [107] (.string [104]) Second
      { now := 0 }).1 = none ∧
    ((Second ≤ Second ∧ Second < 16777216 * Second) →
      (∀ ev ∈ ([] : List Event), ev.writes [107] = false) →
      ∀ env' : Env, ((0 : Nat) : Int) + Second ≤ env'.now → env'.now < 4294967296 * 1000000000 →
        ((run ((run (NewCache CacheConfig.default fun _ => none) []).Put [107] (.string [104])
          Second { now := 0 }).2 []).Get [107] env').1 = (.nil, env'.now, some .notFound)) ∧
    (Second < Second → (∀ ev ∈ ([] : List Event), ev.touches [107] = false) →
      ∃ decoded, DecodeInterface (Marshal (.string [104])) = .ok decoded ∧ ∀ env' : Env,
        ((run ((run (NewCache CacheConfig.default fun _ => none) []).Put [107] (.string [104])
          Second { now := 0 }).2 []).Get [107] env').1 = (decoded, env'.now, none)) :=
  ⟨by decide, rfl, Put_expiry_freecache _ (by decide) _ [] [] [107] _ Second { now := 0 } rfl⟩

/-- A sub-second TTL and a negative one never expire: put at instant 0 with `d = 500 ms`, the entry
is still returned at `1 s ≥ t0 + d`; with `d = -1 s`, still at `10 s`. -/
theorem Put_expiry_freecache_subsecond :
    ((NewCache CacheConfig.default fun _ => none).Put [107] (.string [104]) (500 * Millisecond)
      { now := 0 }).1 = none ∧
    (((NewCache CacheConfig.default fun _ => none).Put [107] (.string [104]) (500 * Millisecond)
      { now := 0 }).2.Get [107] { now := 1000000000 }).1 = (.string [104], 1000000000, none) ∧
    ((NewCache CacheConfig.default fun _ => none).Put [107] (.string [104]) (-Second)
      { now := 0 }).1 = none ∧
    (((NewCache CacheConfig.default fun _ => none).Put [107] (.string [104]) (-Second)
      { now := 0 }).2.Get [107] { now := 10000000000 }).1 = (.string [104], 10000000000, none) :=
  ⟨rfl, rfl, rfl, rfl⟩

/-! ## Entry size in the Freecache variant -/

/-- The Redis variant. -/
def IsRedis (b : Backend) : Prop :=
  b.isRedis = true

theorem IsRedis_NewCache (config : CacheConfig) (isRedisType : config.type = 2)
    (server : redis.Db) :
    IsRedis (NewCache config server).store.cache := by
  simp only [NewCache, isRedisType]
  rfl

/-- A positive TTL reaches Redis as an expiry `max (d / 1 ms) 1` milliseconds ahead of the clock:
`PX` carries the whole milliseconds, at least one, and `EX` is used only for whole seconds. -/
theorem setArgs_when {d : Int} (pos : 0 < d) (now : Nat) (old : Option redis.Entry) :
    (redis.setArgs d).when now old = some (redis.msNow now + max (d / 1000000) 1) := by
  simp only [redis.setArgs, pos, if_true]
  split
  case isTrue =>
    simp only [redis.SetExpiry.when, redis.formatMs, Millisecond, Bool.and_eq_true,
      decide_eq_true_eq, Option.some.injEq]
    split_ifs <;> omega
  case isFalse whole =>
    simp only [redis.usePrecise, Second, Bool.or_eq_true, decide_eq_true_eq, bne_iff_ne, ne_eq,
      not_or, not_not, not_lt] at whole
    simp only [redis.SetExpiry.when, redis.formatSec, Second, Bool.and_eq_true, decide_eq_true_eq,
      Option.some.injEq]
    split_ifs <;> omega

/-- A zero TTL, or a negative one other than `KeepTTL`, sends no expiry argument. -/
theorem setArgs_none {d : Int} (persist : d = 0 ∨ d < redis.KeepTTL) :
    redis.setArgs d = .none := by
  have notPos : ¬0 < d := by simp only [redis.KeepTTL] at persist; omega
  have notKeep : d ≠ redis.KeepTTL := by simp only [redis.KeepTTL] at persist ⊢; omega
  simp [redis.setArgs, notPos, notKeep]

/-- In the Redis variant, a successful `Put(k, v, d)` leaves under `k` what `SET` writes with the
expiry arguments go-redis builds from `d`. -/
theorem lookup_Put_redis {b : Backend} (isRedis : IsRedis b) {k : Bytes} {w : Wire} {d : Int}
    {env : Env} (ok : (b.Set k w [WithExpiration d] env).1 = none) :
    ∃ s : RedisStore, b = .redis s ∧ (b.Set k w [WithExpiration d] env).2.lookup k =
      some (.redis ⟨w, (redis.setArgs d).when env.now (redis.lookupKey s.db k env.now).1⟩) := by
  cases b with
  | freecache s => cases isRedis
  | redis s =>
    simp only [Backend.Set, RedisStore.Set] at ok ⊢
    split at ok
    · rename_i reply
      rw [ApplyOptionsWithDefault_WithExpiration] at reply ⊢
      have stored := redis.SET_ok (by rw [← redis.roundTrip_of_ok reply]; exact reply)
      refine ⟨s, rfl, ?_⟩
      simp only [Backend.lookup, redis.roundTrip_of_ok reply, stored]
      rfl
    · cases ok

/-- The Redis store of a cache `NewCache` built for type 2, after any history. -/
theorem IsRedis_run (config : CacheConfig) (isRedisType : config.type = 2) (server : redis.Db)
    (pre : List Event) : IsRedis (run (NewCache config server) pre).store.cache :=
  (sameStore_run pre _).isRedis.trans (IsRedis_NewCache config isRedisType server)

/-- The Redis variant built by `NewCache`, after any history: an entry put with a TTL `d > 0` at
`t0` is missed at every instant `t ≥ t0 + max d 1 ms + 1 ms` until `k` is written again. Unlike
the Freecache variant, Redis keeps sub-second TTLs. -/
theorem Put_expiry_redis (config : CacheConfig) (isRedisType : config.type = 2) (server : redis.Db)
    (pre mid : List Event) (k : Bytes) (v : GoValue) (d : Int) (env : Env) (pos : 0 < d)
    (put_ok : ((run (NewCache config server) pre).Put k v d env).1 = none)
    (noWrite : ∀ ev ∈ mid, ev.writes k = false) (env' : Env)
    (later : (env.now : Int) + max d Millisecond + Millisecond ≤ env'.now) :
    ∃ e, ((run ((run (NewCache config server) pre).Put k v d env).2 mid).Get k env').1 =
      (.nil, env'.now, some e) := by
  obtain ⟨s, -, stored⟩ := lookup_Put_redis (IsRedis_run config isRedisType server pre) put_ok
  rw [setArgs_when pos] at stored
  change ((run (NewCache config server) pre).Put k v d env).2.store.cache.lookup k = _ at stored
  have expired :
      (Stored.redis ⟨Marshal v, some (redis.msNow env.now + max (d / 1000000) 1)⟩).expired
        env'.now = true := by
    simp only [Stored.expired, redis.Entry.expired, redis.msNow, Millisecond] at later ⊢
    simp only [decide_eq_true_eq]
    omega
  obtain ⟨e, failed⟩ := Get_miss_of_expired mid env' stored expired noWrite
  exact ⟨e, CustomCache.Get_of_store_error failed⟩

theorem Put_expiry_redis_one_second :
    (⟨2, 10, "a", "", "", 0⟩ : CacheConfig).type = 2 ∧ (0 : Int) < Second ∧
    ((run (NewCache ⟨2, 10, "a", "", "", 0⟩ fun _ => none) []).Put [107] (.string [104]) Second
      { now := 0 }).1 = none ∧
    (∀ ev ∈ ([] : List Event), ev.writes [107] = false) ∧
    ((0 : Nat) : Int) + max Second Millisecond + Millisecond ≤ ((2000000000 : Nat) : Int) ∧
    ∃ e, ((run ((run (NewCache ⟨2, 10, "a", "", "", 0⟩ fun _ => none) []).Put [107] (.string [104])
      Second { now := 0 }).2 []).Get [107] { now := 2000000000 }).1 = (.nil, 2000000000, some e) :=
  ⟨rfl, by decide, rfl, List.forall_mem_nil _, by decide,
    Put_expiry_redis ⟨2, 10, "a", "", "", 0⟩ rfl (fun _ => none) [] [] [107] (.string [104])
      Second { now := 0 } (by decide) rfl (List.forall_mem_nil _) { now := 2000000000 }
      (by decide)⟩

/-- The Redis variant built by `NewCache`, after any history: an entry put with the zero TTL, or
with a negative TTL other than go-redis's `KeepTTL` (`-1 ns`), gets no expiry at all. Until an
event writes or removes `k`, every `Get(k)` whose round trip is delivered returns it, at any
instant. -/
theorem Put_persist_redis (config : CacheConfig) (isRedisType : config.type = 2)
    (server : redis.Db) (pre mid : List Event) (k : Bytes) (v : GoValue) (d : Int) (env : Env)
    (persist : d = 0 ∨ d < redis.KeepTTL)
    (put_ok : ((run (NewCache config server) pre).Put k v d env).1 = none)
    (untouched : ∀ ev ∈ mid, ev.touches k = false) (env' : Env)
    (delivered : env'.net = .delivered) :
    ∃ decoded, DecodeInterface (Marshal v) = .ok decoded ∧
      ((run ((run (NewCache config server) pre).Put k v d env).2 mid).Get k env').1 =
        (decoded, env'.now, none) := by
  obtain ⟨s, -, stored⟩ := lookup_Put_redis (IsRedis_run config isRedisType server pre) put_ok
  rw [setArgs_none persist] at stored
  change ((run (NewCache config server) pre).Put k v d env).2.store.cache.lookup k =
    some (.redis ⟨Marshal v, none⟩) at stored
  have never : ∀ t, (Stored.redis ⟨Marshal v, none⟩).expired t = false := fun _ => rfl
  have same := lookup_run_forever never mid _ untouched stored
  obtain ⟨decoded, dec⟩ := DecodeInterface_Marshal_ok v
  exact ⟨decoded, dec, CustomCache.Get_of_store
    (Backend.Get_of_lookup same (never _) fun _ => delivered) dec⟩

theorem Put_persist_redis_zero :
    ((0 : Int) = 0 ∨ (0 : Int) < redis.KeepTTL) ∧
    ((run (NewCache ⟨2, 10, "a", "", "", 0⟩ fun _ => none) []).Put [107] (.string [104]) 0
      { now := 0 }).1 = none ∧
    (∀ ev ∈ ([] : List Event), ev.touches [107] = false) ∧
    ∃ decoded, DecodeInterface (Marshal (.string [104])) = .ok decoded ∧
      ((run ((run (NewCache ⟨2, 10, "a", "", "", 0⟩ fun _ => none) []).Put [107] (.string [104])
        0 { now := 0 }).2 []).Get [107] { now := 1000000000000 }).1 =
        (decoded, 1000000000000, none) :=
  ⟨.inl rfl, rfl, List.forall_mem_nil _,
    Put_persist_redis ⟨2, 10, "a", "", "", 0⟩ rfl (fun _ => none) [] [] [107] (.string [104]) 0
      { now := 0 } (.inl rfl) rfl (List.forall_mem_nil _) { now := 1000000000000 } rfl⟩

end IntegrationAdapters.Guarantees.Cache
