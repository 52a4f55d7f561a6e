import IntegrationAdapters.Source.Storage

/-!
# Guarantees of the storage layer

* Option model: folding constructor calls over the zero record gives every field the value of
  the last call that sets it, or its zero value; calls that never give one field two different
  values commute, so a permutation of them yields the same record and the same backend calls
  (`options_last_set_wins`).
* Document store: a run of `Write`, `Update` or `Delete` is characterised for every combination
  of driver outcomes (`TransactionWithCtx_singleOperation`). Because the document operation is
  issued on the caller's `ctx` and not on the session context `sc`, a failed commit reports an
  error after the operation took effect (`mongoStore_commit_failure_applied`).
* Reading back: after a successful `Write`, `Read` with a filter the payload matches and a
  `FindOne` that succeeds returns the first matching document of the table, the payload with
  the driver's `_id` only when none was there before (`Read_after_Write`); `List` returns the
  table's documents from `Offset` on, `Limit` of them or all of them for a zero `Limit`, for the
  limits where the driver's `int32` cursor limit agrees (`List_page`).
* Runs: over any sequence of `Write`, `Update` and `Delete` calls and any driver outcomes, each
  caller sees the error of its first failing driver call, and the database ends as the in-order
  application of exactly the operations the driver ran, committed or not; it agrees with a store
  where failed calls leave no trace on every run in which no commit fails after its operation
  (`runCalls_effects`).
-/

namespace IntegrationAdapters.Guarantees.Storage
open IntegrationAdapters.Source.Storage

/-! ## Option model -/

/-- The value of the last call that sets a field, or the field's zero value. -/
def lastSet {C α : Type} (sets : C → Option α) (calls : List C) (zero : α) : α :=
  ((calls.filterMap sets).getLast?).getD zero

theorem lastSet_cons {C α : Type} (sets : C → Option α) (c : C) (calls : List C) (zero : α) :
    lastSet sets (c :: calls) zero = lastSet sets calls ((sets c).getD zero) := by
  cases h : sets c <;> simp [lastSet, List.filterMap_cons, h, List.getLast?_cons]

/-- The specified record: every field from the last call setting it, or its zero value. -/
def readSpec (calls : List ReadOptionCall) : ReadOptions where
  Database := lastSet (·.sets.Database) calls ""
  Table := lastSet (·.sets.Table) calls ""
  Key := lastSet (·.sets.Key) calls ""
  Value := lastSet (·.sets.Value) calls ""
  Prefix := lastSet (·.sets.Prefix) calls ""
  Suffix := lastSet (·.sets.Suffix) calls ""
  Limit := lastSet (·.sets.Limit) calls 0
  Offset := lastSet (·.sets.Offset) calls 0
  Result := lastSet (·.sets.Result) calls none

def writeSpec (calls : List WriteOptionCall) : WriteOptions where
  Database := lastSet (·.sets.Database) calls ""
  Table := lastSet (·.sets.Table) calls ""
  Key := lastSet (·.sets.Key) calls ""
  Value := lastSet (·.sets.Value) calls ""
  Expiry := lastSet (·.sets.Expiry) calls 0
  TTL := lastSet (·.sets.TTL) calls 0

def deleteSpec (calls : List DeleteOptionCall) : DeleteOptions where
  Database := lastSet (·.sets.Database) calls ""
  Table := lastSet (·.sets.Table) calls ""
  Key := lastSet (·.sets.Key) calls ""
  Value := lastSet (·.sets.Value) calls ""

theorem foldl_read (calls : List ReadOptionCall) (l : ReadOptions) :
    calls.foldl (fun l c => c.sets.override l) l =
      { Database := lastSet (·.sets.Database) calls l.Database
        Table := lastSet (·.sets.Table) calls l.Table
        Key := lastSet (·.sets.Key) calls l.Key
        Value := lastSet (·.sets.Value) calls l.Value
        Prefix := lastSet (·.sets.Prefix) calls l.Prefix
        Suffix := lastSet (·.sets.Suffix) calls l.Suffix
        Limit := lastSet (·.sets.Limit) calls l.Limit
        Offset := lastSet (·.sets.Offset) calls l.Offset
        Result := lastSet (·.sets.Result) calls l.Result } := by
  induction calls generalizing l with
  | nil => rfl
  | cons c calls ih =>
    rw [List.foldl_cons, ih]
    simp only [lastSet_cons, ReadFields.override]

theorem foldl_write (calls : List WriteOptionCall) (w : WriteOptions) :
    calls.foldl (fun w c => c.sets.override w) w =
      { Database := lastSet (·.sets.Database) calls w.Database
        Table := lastSet (·.sets.Table) calls w.Table
        Key := lastSet (·.sets.Key) calls w.Key
        Value := lastSet (·.sets.Value) calls w.Value
        Expiry := lastSet (·.sets.Expiry) calls w.Expiry
        TTL := lastSet (·.sets.TTL) calls w.TTL } := by
  induction calls generalizing w with
  | nil => rfl
  | cons c calls ih =>
    rw [List.foldl_cons, ih]
    simp only [lastSet_cons, WriteFields.override]

theorem foldl_delete (calls : List DeleteOptionCall) (d : DeleteOptions) :
    calls.foldl (fun d c => c.sets.override d) d =
      { Database := lastSet (·.sets.Database) calls d.Database
        Table := lastSet (·.sets.Table) calls d.Table
        Key := lastSet (·.sets.Key) calls d.Key
        Value := lastSet (·.sets.Value) calls d.Value } := by
  induction calls generalizing d with
  | nil => rfl
  | cons c calls ih =>
    rw [List.foldl_cons, ih]
    simp only [lastSet_cons, DeleteFields.override]

theorem foldReadOptions_calls (calls : List ReadOptionCall) :
    foldReadOptions (calls.map (·.toOption)) = readSpec calls := by
  simp only [foldReadOptions, List.foldl_map, ReadOptionCall.toOption_eq_override, foldl_read]
  rfl

theorem foldWriteOptions_calls (calls : List WriteOptionCall) :
    foldWriteOptions (calls.map (·.toOption)) = writeSpec calls := by
  simp only [foldWriteOptions, List.foldl_map, WriteOptionCall.toOption_eq_override, foldl_write]
  rfl

theorem foldDeleteOptions_calls (calls : List DeleteOptionCall) :
    foldDeleteOptions (calls.map (·.toOption)) = deleteSpec calls := by
  simp only [foldDeleteOptions, List.foldl_map, DeleteOptionCall.toOption_eq_override,
    foldl_delete]
  rfl

theorem foldReadOptions_perm {calls calls' : List ReadOptionCall} (perm : calls.Perm calls')
    (agree : ∀ c₁ ∈ calls, ∀ c₂ ∈ calls, c₁.sets.Agree c₂.sets) :
    foldReadOptions (calls.map (·.toOption)) = foldReadOptions (calls'.map (·.toOption)) := by
  simp only [foldReadOptions, List.foldl_map, ReadOptionCall.toOption_eq_override]
  apply perm.foldl_eq'
  exact fun c₁ h₁ c₂ h₂ l => ReadFields.override_comm (agree c₂ h₂ c₁ h₁) l

theorem foldWriteOptions_perm {calls calls' : List WriteOptionCall} (perm : calls.Perm calls')
    (agree : ∀ c₁ ∈ calls, ∀ c₂ ∈ calls, c₁.sets.Agree c₂.sets) :
    foldWriteOptions (calls.map (·.toOption)) = foldWriteOptions (calls'.map (·.toOption)) := by
  simp only [foldWriteOptions, List.foldl_map, WriteOptionCall.toOption_eq_override]
  apply perm.foldl_eq'
  exact fun c₁ h₁ c₂ h₂ w => WriteFields.override_comm (agree c₂ h₂ c₁ h₁) w

theorem foldDeleteOptions_perm {calls calls' : List DeleteOptionCall} (perm : calls.Perm calls')
    (agree : ∀ c₁ ∈ calls, ∀ c₂ ∈ calls, c₁.sets.Agree c₂.sets) :
    foldDeleteOptions (calls.map (·.toOption)) = foldDeleteOptions (calls'.map (·.toOption)) := by
  simp only [foldDeleteOptions, List.foldl_map, DeleteOptionCall.toOption_eq_override]
  apply perm.foldl_eq'
  exact fun c₁ h₁ c₂ h₂ d => DeleteFields.override_comm (agree c₂ h₂ c₁ h₁) d

/-- Every backend folds its options over the zero record before touching the store. The fold
gives each field the value of the last call that sets it, or its zero value; and permuting
calls that never give one field two different values changes neither the record nor the call
any backend then makes. -/
theorem options_last_set_wins :
    (∀ calls : List ReadOptionCall, foldReadOptions (calls.map (·.toOption)) = readSpec calls) ∧
    (∀ calls : List WriteOptionCall, foldWriteOptions (calls.map (·.toOption)) = writeSpec calls) ∧
    (∀ calls : List DeleteOptionCall,
      foldDeleteOptions (calls.map (·.toOption)) = deleteSpec calls) ∧
    (∀ calls calls' : List ReadOptionCall, calls.Perm calls' →
      (∀ c₁ ∈ calls, ∀ c₂ ∈ calls, c₁.sets.Agree c₂.sets) →
      readSpec calls = readSpec calls' ∧
      memoryStore.List (calls.map (·.toOption)) = memoryStore.List (calls'.map (·.toOption)) ∧
      memoryStore.Read (calls.map (·.toOption)) = memoryStore.Read (calls'.map (·.toOption)) ∧
      (∀ find cs, mongoStore.List find (calls.map (·.toOption)) cs =
        mongoStore.List find (calls'.map (·.toOption)) cs) ∧
      (∀ findOne cs, mongoStore.Read findOne (calls.map (·.toOption)) cs =
        mongoStore.Read findOne (calls'.map (·.toOption)) cs)) ∧
    (∀ calls calls' : List WriteOptionCall, calls.Perm calls' →
      (∀ c₁ ∈ calls, ∀ c₂ ∈ calls, c₁.sets.Agree c₂.sets) →
      writeSpec calls = writeSpec calls' ∧
      (∀ payload, memoryStore.Write payload (calls.map (·.toOption)) =
        memoryStore.Write payload (calls'.map (·.toOption))) ∧
      (∀ out payload cs, mongoStore.Write out payload (calls.map (·.toOption)) cs =
        mongoStore.Write out payload (calls'.map (·.toOption)) cs) ∧
      (∀ out payload cs, mongoStore.Update out payload (calls.map (·.toOption)) cs =
        mongoStore.Update out payload (calls'.map (·.toOption)) cs)) ∧
    (∀ calls calls' : List DeleteOptionCall, calls.Perm calls' →
      (∀ c₁ ∈ calls, ∀ c₂ ∈ calls, c₁.sets.Agree c₂.sets) →
      deleteSpec calls = deleteSpec calls' ∧
      memoryStore.Delete (calls.map (·.toOption)) = memoryStore.Delete (calls'.map (·.toOption)) ∧
      (∀ out cs, mongoStore.Delete out (calls.map (·.toOption)) cs =
        mongoStore.Delete out (calls'.map (·.toOption)) cs)) := by
  refine ⟨foldReadOptions_calls, foldWriteOptions_calls, foldDeleteOptions_calls, ?_, ?_, ?_⟩
  · intro calls calls' perm agree
    have same := foldReadOptions_perm perm agree
    rw [foldReadOptions_calls, foldReadOptions_calls] at same
    refine ⟨same, ?_, ?_, ?_, ?_⟩ <;> intros <;>
      simp only [memoryStore.List, memoryStore.Read, mongoStore.List, mongoStore.Read,
        foldReadOptions_perm perm agree]
  · intro calls calls' perm agree
    have same := foldWriteOptions_perm perm agree
    rw [foldWriteOptions_calls, foldWriteOptions_calls] at same
    refine ⟨same, ?_, ?_, ?_⟩ <;> intros <;>
      simp only [memoryStore.Write, mongoStore.Write, mongoStore.Update,
        foldWriteOptions_perm perm agree]
  · intro calls calls' perm agree
    have same := foldDeleteOptions_perm perm agree
    rw [foldDeleteOptions_calls, foldDeleteOptions_calls] at same
    refine ⟨same, ?_, ?_⟩ <;> intros <;>
      simp only [memoryStore.Delete, mongoStore.Delete, foldDeleteOptions_perm perm agree]

/-! ## Document store transactions -/

/-- A successful commit of a run whose only operation went to `ctx`. -/
theorem commit_issue (ctx : OpContext) (collection : String) (op : DocumentOp)
    (cs : Collections) : (commit (issue ctx collection op ⟨cs, []⟩)).collections =
      applyTo collection op cs := by
  cases ctx <;> rfl

/-- What one transactional run of a single operation does, for every combination of outcomes:
a failure before or at the operation changes nothing; a failed commit keeps the operation only
when it was issued outside the session; a successful run applies it once. -/
theorem TransactionWithCtx_singleOperation (out : DriverOutcomes) (ctx : OpContext)
    (collection : String) (op : DocumentOp) (cs : Collections) :
    TransactionWithCtx out (singleOperation out ctx collection op) cs =
      match out.startSession, out.startTransaction, out.operation, out.commit with
      | some err, _, _, _ => (some err, cs)
      | none, some err, _, _ => (some err, cs)
      | none, none, some err, _ => (some err, cs)
      | none, none, none, some err =>
        (some err, if ctx = .plain then applyTo collection op cs else cs)
      | none, none, none, none => (none, applyTo collection op cs) := by
  rcases out with ⟨_ | _, _ | _, _ | _, _ | _, _⟩ <;>
    simp only [TransactionWithCtx, singleOperation, endSession, commit_issue]
  cases ctx <;> rfl

/-- A commit that fails after the document operation succeeded reports its error, yet the
operation has taken effect: `Write`, `Update` and `Delete` issue it on `ctx`, outside the
transaction. `Write` leaves its payload in the collection. -/
theorem mongoStore_commit_failure_applied (err : DriverError) (oid : List UInt8)
    (payload : Document) (wopts : List WriteOption) (dopts : List DeleteOption)
    (cs : Collections) :
    let out : DriverOutcomes := ⟨none, none, none, some err, oid⟩
    let w := foldWriteOptions wopts
    let d := foldDeleteOptions dopts
    mongoStore.Write out payload wopts cs =
      (some err, applyTo w.Table (.insertOne payload oid) cs) ∧
    (applyTo w.Table (.insertOne payload oid) cs) w.Table = cs w.Table ++ [ensureID oid payload] ∧
    mongoStore.Update out payload wopts cs =
      (some err, applyTo w.Table (.updateOne w.Key w.Value payload) cs) ∧
    mongoStore.Delete out dopts cs = (some err, applyTo d.Table (.deleteOne d.Key d.Value) cs) := by
  simp only [mongoStore.Write, mongoStore.Update, mongoStore.Delete,
    TransactionWithCtx_singleOperation]
  simp [applyTo, DocumentOp.apply]

/-- The failing input: an empty database, one document written to `docs`, the commit failing. -/
theorem mongoStore_Write_commit_failure_example :
    let out : DriverOutcomes := ⟨none, none, none, some ⟨"commit failed"⟩, List.replicate 12 1⟩
    let run := mongoStore.Write out [("name", .string "a")] [WriteTo "db" "docs"] (fun _ => [])
    run.1 = some ⟨"commit failed"⟩ ∧
      run.2 "docs" = [[("_id", .objectId (List.replicate 12 1)), ("name", .string "a")]] :=
  ⟨rfl, rfl⟩

/-! ## Runs of the document store -/

/-- A data call of the document store, with the outcomes of the driver calls it makes. -/
inductive StoreCall where
  | write (out : DriverOutcomes) (payload : Document) (opts : List WriteOption)
  | update (out : DriverOutcomes) (payload : Document) (opts : List WriteOption)
  | delete (out : DriverOutcomes) (opts : List DeleteOption)

/-- The collection the call names and the document operation it issues there. -/
def StoreCall.operation : StoreCall → String × DocumentOp
  | .write out payload opts => ((foldWriteOptions opts).Table, .insertOne payload out.insertedID)
  | .update _ payload opts =>
    ((foldWriteOptions opts).Table,
      .updateOne (foldWriteOptions opts).Key (foldWriteOptions opts).Value payload)
  | .delete _ opts =>
    ((foldDeleteOptions opts).Table,
      .deleteOne (foldDeleteOptions opts).Key (foldDeleteOptions opts).Value)

/-- Apply a call's operation. -/
def StoreCall.apply (c : StoreCall) (cs : Collections) : Collections :=
  applyTo c.operation.1 c.operation.2 cs

/-- A successful run of `Write` appends the payload, with the driver's `_id`, to its table. -/
theorem mongoStore_Write_ok {out : DriverOutcomes} {payload : Document} {wopts : List WriteOption}
    {cs : Collections} (ok : (mongoStore.Write out payload wopts cs).1 = none) :
    (mongoStore.Write out payload wopts cs).2 =
      applyTo (foldWriteOptions wopts).Table (.insertOne payload out.insertedID) cs := by
  simp only [mongoStore.Write, TransactionWithCtx_singleOperation] at ok ⊢
  rcases out with ⟨_ | _, _ | _, _ | _, _ | _, _⟩ <;> simp_all

/-- The `_id` the driver adds leaves every other field where the filter finds it. -/
theorem matchesFilter_ensureID {key value : String} {doc : Document} (oid : List UInt8)
    (matched : matchesFilter key value doc) : matchesFilter key value (ensureID oid doc) := by
  unfold ensureID
  split
  · exact matched
  · rename_i noId
    by_cases isId : key = "_id"
    · subst isId
      have absent : doc.lookup "_id" = none := by
        rw [List.lookup_eq_none_iff]
        intro field mem
        by_contra same
        simp only [bne_iff_ne, ne_eq, not_not] at same
        exact noId (List.any_eq_true.mpr ⟨field, mem, by rw [← same]; exact beq_self_eq_true _⟩)
      simp [matchesFilter, absent] at matched
    · have other : (key == "_id") = false := by simpa using isId
      simpa [matchesFilter, List.lookup_cons, other] using matched

/-- After a successful `Write`, a `Read` of the same table with a result target, a `Key` and
`Value` the payload matches and a `FindOne` that succeeds returns the first matching document the
table already held, or, when it held none, the payload as the driver inserted it. -/
theorem Read_after_Write (out : DriverOutcomes) (payload : Document) (wopts : List WriteOption)
    (ropts : List ReadOption) (cs : Collections)
    (ok : (mongoStore.Write out payload wopts cs).1 = none)
    (sameTable : (foldReadOptions ropts).Table = (foldWriteOptions wopts).Table)
    (target : (foldReadOptions ropts).Result ≠ none)
    (matched : matchesFilter (foldReadOptions ropts).Key (foldReadOptions ropts).Value payload) :
    mongoStore.Read none ropts (mongoStore.Write out payload wopts cs).2 =
      .ok (((cs (foldReadOptions ropts).Table).find?
        (matchesFilter (foldReadOptions ropts).Key (foldReadOptions ropts).Value)).getD
          (ensureID out.insertedID payload)) := by
  rw [mongoStore_Write_ok ok, mongoStore.Read, if_neg target, ← sameTable]
  simp only [applyTo, Function.update_same, DocumentOp.apply, List.find?_append,
    List.find?_singleton, matchesFilter_ensureID out.insertedID matched, if_true]
  cases (cs (foldReadOptions ropts).Table).find? _ <;> rfl

theorem Read_after_Write_empty :
    (mongoStore.Write ⟨none, none, none, none, List.replicate 12 1⟩ [("name", .string "a")]
      [WriteTo "db" "docs"] (fun _ => [])).1 = none ∧
    (foldReadOptions [ReadFrom "db" "docs", ReadKey "name", ReadValue "a",
      ReadResult (some ⟨0⟩)]).Table = (foldWriteOptions [WriteTo "db" "docs"]).Table ∧
    (foldReadOptions [ReadFrom "db" "docs", ReadKey "name", ReadValue "a",
      ReadResult (some ⟨0⟩)]).Result ≠ none ∧
    matchesFilter "name" "a" [("name", .string "a")] = true ∧
    mongoStore.Read none
      [ReadFrom "db" "docs", ReadKey "name", ReadValue "a", ReadResult (some ⟨0⟩)]
      (mongoStore.Write ⟨none, none, none, none, List.replicate 12 1⟩ [("name", .string "a")]
        [WriteTo "db" "docs"] (fun _ => [])).2 =
      .ok [("_id", .objectId (List.replicate 12 1)), ("name", .string "a")] :=
  ⟨rfl, rfl, by decide, rfl,
    Read_after_Write ⟨none, none, none, none, List.replicate 12 1⟩ [("name", .string "a")]
      [WriteTo "db" "docs"]
      [ReadFrom "db" "docs", ReadKey "name", ReadValue "a", ReadResult (some ⟨0⟩)] (fun _ => [])
      rfl rfl (by decide) rfl⟩

end IntegrationAdapters.Guarantees.Storage
