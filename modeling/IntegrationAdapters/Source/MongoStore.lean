import IntegrationAdapters.Source.StorageOptions

/-!
# Document store variant

Translation of `mongoStore` (`unnamed/part_003:38-179`) over a model of the MongoDB driver and
of `mgm.TransactionWithCtx`. The driver state is the database's collections and the buffer of
the one open session's transaction. A collection operation issued on the session context `sc`
goes to that buffer and takes effect when the transaction commits; one issued on any other
context runs on an implicit session of its own and takes effect at once. `EndSession` aborts
whatever is left uncommitted. Each driver call of a run (session start, transaction start, the
document operation, the commit) has an outcome of its own, and a failed call has no effect.
Documents are flat; `InsertOne` gives a document without `_id` the ObjectID the driver
generates; indexes and the server's update validation are outcomes of the operation, not
modelled otherwise.
-/

namespace IntegrationAdapters.Source.Storage

/-- A BSON value, as far as documents and the string filters need. -/
inductive BsonValue where
  | string (s : String)
  | int64 (n : Int)
  | bool (b : Bool)
  | null
  | objectId (id : List UInt8)
  deriving DecidableEq, Repr

abbrev Document := List (String × BsonValue)

abbrev Collections := String → List Document

structure DriverError where
  message : String
  deriving DecidableEq, Repr

inductive StorageError where
  | invalidResultOption
  | noDocuments
  | driver (err : DriverError)
  deriving DecidableEq, Repr

/-- The filter `{key: value}`: the document's field `key` is the string `value`. -/
def matchesFilter (key value : String) (doc : Document) : Bool :=
  doc.lookup key == some (.string value)

/-- `$set`: overwrite the fields the update names, append the others. -/
def setFields (update doc : Document) : Document :=
  update.foldl (fun d field =>
    if d.any (·.1 == field.1) then d.map (fun f => if f.1 = field.1 then field else f)
    else d ++ [field]) doc

def modifyFirst {α : Type} (p : α → Bool) (f : α → α) : List α → List α
  | [] => []
  | x :: xs => if p x then f x :: xs else x :: modifyFirst p f xs

/-- The driver's `ensureID`: a document without `_id` gets the generated ObjectID as its first
field. -/
def ensureID (oid : List UInt8) (doc : Document) : Document :=
  if doc.any (·.1 == "_id") then doc else ("_id", .objectId oid) :: doc

/-- The three document operations the store issues; `InsertOne` carries the ObjectID the driver
generates for it (`primitive.NewObjectID`). -/
inductive DocumentOp where
  | insertOne (doc : Document) (oid : List UInt8)
  | updateOne (key value : String) (update : Document)
  | deleteOne (key value : String)
  deriving DecidableEq, Repr

def DocumentOp.apply : DocumentOp → List Document → List Document
  | .insertOne doc oid, docs => docs ++ [ensureID oid doc]
  | .updateOne key value update, docs =>
    modifyFirst (matchesFilter key value) (setFields update) docs
  | .deleteOne key value, docs => docs.eraseP (matchesFilter key value)

def applyTo (collection : String) (op : DocumentOp) (cs : Collections) : Collections :=
  Function.update cs collection (op.apply (cs collection))

/-- The context a collection operation is issued on. -/
inductive OpContext where
  /-- A context that carries no session: the caller's `ctx`, or one derived from
  `context.Background()`. -/
  | plain
  | session
  deriving DecidableEq, Repr

structure DriverState where
  collections : Collections
  /-- The operations issued on `sc` since the transaction started, in order. -/
  pending : List (String × DocumentOp)

/-- Issue a successful operation: at once on a plain context, into the transaction on `sc`. -/
def issue (ctx : OpContext) (collection : String) (op : DocumentOp) (s : DriverState) :
    DriverState :=
  match ctx with
  | .plain => { s with collections := applyTo collection op s.collections }
  | .session => { s with pending := s.pending ++ [(collection, op)] }

/-- A successful `CommitTransaction`: the buffered operations take effect, in order. -/
def commit (s : DriverState) : DriverState where
  collections := s.pending.foldl (fun cs p => applyTo p.1 p.2 cs) s.collections
  pending := []

/-- `EndSession`: an uncommitted transaction is aborted, its buffer discarded. -/
def endSession (s : DriverState) : Collections := s.collections

/-- The outcome of each driver call of one transactional run, `none` being success, and the
ObjectID the driver generates should the operation be an `InsertOne`. -/
structure DriverOutcomes where
  startSession : Option DriverError
  startTransaction : Option DriverError
  operation : Option DriverError
  commit : Option DriverError
  insertedID : List UInt8

/-- The callback of `Write`, `Update` and `Delete`: one document operation issued on `ctx`,
then `return session.CommitTransaction(sc)`. -/
def singleOperation (out : DriverOutcomes) (ctx : OpContext) (collection : String)
    (op : DocumentOp) (s : DriverState) : Option DriverError × DriverState :=
  match out.operation with
  | some err => (some err, s)
  | none =>
    match out.commit with
    | some err => (some err, issue ctx collection op s)
    | none => (none, commit (issue ctx collection op s))

/-- `mgm.TransactionWithCtx`: start a session (`defer session.EndSession`), start a
transaction, run the callback on the session context, return its error. -/
def TransactionWithCtx (out : DriverOutcomes)
    (callback : DriverState → Option DriverError × DriverState) (cs : Collections) :
    Option DriverError × Collections :=
  match out.startSession with
  | some err => (some err, cs)
  | none =>
    match out.startTransaction with
    | some err => (some err, endSession ⟨cs, []⟩)
    | none => ((callback ⟨cs, []⟩).1, endSession (callback ⟨cs, []⟩).2)

/-- `mongoStore.Write`: `col.InsertOne(ctx, payload)` inside the transaction. -/
def mongoStore.Write (out : DriverOutcomes) (payload : Document) (opts : List WriteOption)
    (cs : Collections) : Option DriverError × Collections :=
  TransactionWithCtx out
    (singleOperation out .plain (foldWriteOptions opts).Table (.insertOne payload out.insertedID))
    cs

/-- `mongoStore.Update`: `col.UpdateOne(ctx, {Key: Value}, {$set: payload})`. -/
def mongoStore.Update (out : DriverOutcomes) (payload : Document) (opts : List WriteOption)
    (cs : Collections) : Option DriverError × Collections :=
  let options := foldWriteOptions opts
  TransactionWithCtx out
    (singleOperation out .plain options.Table (.updateOne options.Key options.Value payload)) cs

/-- `mongoStore.Delete`: `col.DeleteOne(ctx, {Key: Value})`, `ctx` being a fresh three-second
context from `context.Background()`. -/
def mongoStore.Delete (out : DriverOutcomes) (opts : List DeleteOption) (cs : Collections) :
    Option DriverError × Collections :=
  let options := foldDeleteOptions opts
  TransactionWithCtx out
    (singleOperation out .plain options.Table (.deleteOne options.Key options.Value)) cs

/-- `int64(u)` for a Go `uint`. -/
def toInt64 (u : UInt64) : Int :=
  if u.toNat < 1 <<< 63 then u.toNat else (u.toNat : Int) - ((1 <<< 64 : Nat) : Int)

/-- The server's `find` with `skip` and `limit`, as the driver's cursor collects it for a limit
in `[0, 2^31)`: a negative skip is rejected, a zero limit means none. A negative or wider limit
is taken at face value, which the driver does not do: it asks for a single batch on a negative
limit, cannot negate `MinInt64`, and bounds its cursor by `int32(limit)`. -/
def findPage (docs : List Document) (skip limit : Int) : Except StorageError (List Document) :=
  if skip < 0 then .error (.driver ⟨"BSON field 'skip' value must be >= 0"⟩)
  else
    let rest := docs.drop skip.toNat
    .ok (if limit = 0 then rest else rest.take limit.natAbs)

/-- `mongoStore.Read`: the first document of the table with `Key` equal to `Value`. `findOne` is
the error of `FindOne`'s round trip or of decoding into `Result`, which `Decode` returns after
the nil check. -/
def mongoStore.Read (findOne : Option DriverError) (opts : List ReadOption) (cs : Collections) :
    Except StorageError Document :=
  let options := foldReadOptions opts
  if options.Result = none then .error .invalidResultOption
  else
    match findOne with
    | some err => .error (.driver err)
    | none =>
      match (cs options.Table).find? (matchesFilter options.Key options.Value) with
      | some doc => .ok doc
      | none => .error .noDocuments

def mongoStore.String : String := "mongodb"

section
-- Inside `mongoStore` `List` names this method, so its list-typed parameter is a variable and
-- it comes last in the module.
variable (find : Option DriverError) (opts : List ReadOption)

/-- `mongoStore.List`: the table's documents paged by `Offset` and `Limit`, decoded into
`Result`; `Find` may fail (`find`), and runs before the nil check. -/
def mongoStore.List (cs : Collections) : Except StorageError (Array Document) :=
  let ops := foldReadOptions opts
  match find with
  | some err => .error (.driver err)
  | none =>
    match findPage (cs ops.Table) (toInt64 ops.Offset) (toInt64 ops.Limit) with
    | .error err => .error err
    | .ok page => if ops.Result = none then .error .invalidResultOption else .ok page.toArray

end

end IntegrationAdapters.Source.Storage
