import Mathlib.Data.List.Basic

/-!
# Storage option model

Translation of `storage/storage.go:37-197`. An option is a Go closure that writes fields of a
zero-valued options record; every backend method folds its options over `{}` before touching
the store (`foldReadOptions` and its siblings). `ReadOptionCall` and its siblings name the
sixteen constructor calls a caller can write, and `sets` says, for the specification, which
fields each call writes and with what value; `toOption_eq_override` connects the two.
-/

namespace IntegrationAdapters.Source.Storage

/-- `time.Time`, as nanoseconds from Go's zero time (January 1, year 1, UTC). -/
abbrev GoTime := Int

/-- `time.Duration`, in nanoseconds. -/
abbrev Duration := Int

/-- A decoding target passed as `any`: the address of the caller's variable. -/
structure Target where
  address : Nat
  deriving DecidableEq, Repr

/-- `ReadOptions`; `Result = none` is a nil `any`, `uint` is 64 bits wide. -/
structure ReadOptions where
  Database : String := ""
  Table : String := ""
  Key : String := ""
  Value : String := ""
  Prefix : String := ""
  Suffix : String := ""
  Limit : UInt64 := 0
  Offset : UInt64 := 0
  Result : Option Target := none
  deriving DecidableEq, Repr

/-- `WriteOptions`. -/
structure WriteOptions where
  Database : String := ""
  Table : String := ""
  Key : String := ""
  Value : String := ""
  Expiry : GoTime := 0
  TTL : Duration := 0
  deriving DecidableEq, Repr

/-- `DeleteOptions`. -/
structure DeleteOptions where
  Database : String := ""
  Table : String := ""
  Key : String := ""
  Value : String := ""
  deriving DecidableEq, Repr

/-- `ReadOption`, `func(l *ReadOptions)`. -/
abbrev ReadOption := ReadOptions → ReadOptions
/-- `WriteOption`, `func(w *WriteOptions)`. -/
abbrev WriteOption := WriteOptions → WriteOptions
/-- `DeleteOption`, `func(d *DeleteOptions)`. -/
abbrev DeleteOption := DeleteOptions → DeleteOptions

def ReadFrom (database table : String) : ReadOption :=
  fun l => { l with Database := database, Table := table }
def ReadKey (val : String) : ReadOption := fun l => { l with Key := val }
def ReadValue (val : String) : ReadOption := fun l => { l with Value := val }
def ReadPrefix (val : String) : ReadOption := fun l => { l with Prefix := val }
def ReadSuffix (val : String) : ReadOption := fun l => { l with Suffix := val }
def ReadLimit (val : UInt64) : ReadOption := fun l => { l with Limit := val }
def ReadOffset (val : UInt64) : ReadOption := fun l => { l with Offset := val }
def ReadResult (val : Option Target) : ReadOption := fun l => { l with Result := val }

def WriteTo (database table : String) : WriteOption :=
  fun w => { w with Database := database, Table := table }
def WriteKey (val : String) : WriteOption := fun w => { w with Key := val }
def WriteValue (val : String) : WriteOption := fun w => { w with Value := val }
def WriteExpiry (val : GoTime) : WriteOption := fun w => { w with Expiry := val }
def WriteTTL (val : Duration) : WriteOption := fun w => { w with TTL := val }

def DeleteFrom (database table : String) : DeleteOption :=
  fun d => { d with Database := database, Table := table }
def DeleteKey (val : String) : DeleteOption := fun d => { d with Key := val }
def DeleteValue (val : String) : DeleteOption := fun d => { d with Value := val }

/-- `var ops ReadOptions; for _, o := range opts { o(&ops) }`. -/
def foldReadOptions (opts : List ReadOption) : ReadOptions := opts.foldl (fun ops o => o ops) {}
/-- The same loop over `WriteOptions`. -/
def foldWriteOptions (opts : List WriteOption) : WriteOptions := opts.foldl (fun ops o => o ops) {}
/-- The same loop over `DeleteOptions`. -/
def foldDeleteOptions (opts : List DeleteOption) : DeleteOptions :=
  opts.foldl (fun ops o => o ops) {}

/-! ## Constructor calls and the fields they set -/

inductive ReadOptionCall where
  | readFrom (database table : String)
  | readKey (val : String)
  | readValue (val : String)
  | readPrefix (val : String)
  | readSuffix (val : String)
  | readLimit (val : UInt64)
  | readOffset (val : UInt64)
  | readResult (val : Option Target)

inductive WriteOptionCall where
  | writeTo (database table : String)
  | writeKey (val : String)
  | writeValue (val : String)
  | writeExpiry (val : GoTime)
  | writeTTL (val : Duration)

inductive DeleteOptionCall where
  | deleteFrom (database table : String)
  | deleteKey (val : String)
  | deleteValue (val : String)

def ReadOptionCall.toOption : ReadOptionCall → ReadOption
  | .readFrom database table => ReadFrom database table
  | .readKey val => ReadKey val
  | .readValue val => ReadValue val
  | .readPrefix val => ReadPrefix val
  | .readSuffix val => ReadSuffix val
  | .readLimit val => ReadLimit val
  | .readOffset val => ReadOffset val
  | .readResult val => ReadResult val

def WriteOptionCall.toOption : WriteOptionCall → WriteOption
  | .writeTo database table => WriteTo database table
  | .writeKey val => WriteKey val
  | .writeValue val => WriteValue val
  | .writeExpiry val => WriteExpiry val
  | .writeTTL val => WriteTTL val

def DeleteOptionCall.toOption : DeleteOptionCall → DeleteOption
  | .deleteFrom database table => DeleteFrom database table
  | .deleteKey val => DeleteKey val
  | .deleteValue val => DeleteValue val

/-- The read fields a call sets, with their values; `none` where it sets nothing. -/
structure ReadFields where
  Database : Option String := none
  Table : Option String := none
  Key : Option String := none
  Value : Option String := none
  Prefix : Option String := none
  Suffix : Option String := none
  Limit : Option UInt64 := none
  Offset : Option UInt64 := none
  Result : Option (Option Target) := none

structure WriteFields where
  Database : Option String := none
  Table : Option String := none
  Key : Option String := none
  Value : Option String := none
  Expiry : Option GoTime := none
  TTL : Option Duration := none

structure DeleteFields where
  Database : Option String := none
  Table : Option String := none
  Key : Option String := none
  Value : Option String := none

def ReadOptionCall.sets : ReadOptionCall → ReadFields
  | .readFrom database table => { Database := database, Table := table }
  | .readKey val => { Key := val }
  | .readValue val => { Value := val }
  | .readPrefix val => { Prefix := val }
  | .readSuffix val => { Suffix := val }
  | .readLimit val => { Limit := val }
  | .readOffset val => { Offset := val }
  | .readResult val => { Result := some val }

def WriteOptionCall.sets : WriteOptionCall → WriteFields
  | .writeTo database table => { Database := database, Table := table }
  | .writeKey val => { Key := val }
  | .writeValue val => { Value := val }
  | .writeExpiry val => { Expiry := val }
  | .writeTTL val => { TTL := val }

def DeleteOptionCall.sets : DeleteOptionCall → DeleteFields
  | .deleteFrom database table => { Database := database, Table := table }
  | .deleteKey val => { Key := val }
  | .deleteValue val => { Value := val }

/-- The record with the fields a call sets replaced. -/
def ReadFields.override (f : ReadFields) (l : ReadOptions) : ReadOptions where
  Database := f.Database.getD l.Database
  Table := f.Table.getD l.Table
  Key := f.Key.getD l.Key
  Value := f.Value.getD l.Value
  Prefix := f.Prefix.getD l.Prefix
  Suffix := f.Suffix.getD l.Suffix
  Limit := f.Limit.getD l.Limit
  Offset := f.Offset.getD l.Offset
  Result := f.Result.getD l.Result

def WriteFields.override (f : WriteFields) (w : WriteOptions) : WriteOptions where
  Database := f.Database.getD w.Database
  Table := f.Table.getD w.Table
  Key := f.Key.getD w.Key
  Value := f.Value.getD w.Value
  Expiry := f.Expiry.getD w.Expiry
  TTL := f.TTL.getD w.TTL

def DeleteFields.override (f : DeleteFields) (d : DeleteOptions) : DeleteOptions where
  Database := f.Database.getD d.Database
  Table := f.Table.getD d.Table
  Key := f.Key.getD d.Key
  Value := f.Value.getD d.Value

/-- Each constructor writes exactly the fields `sets` names and leaves every other field. -/
theorem ReadOptionCall.toOption_eq_override (c : ReadOptionCall) :
    c.toOption = c.sets.override := by
  cases c <;> rfl

theorem WriteOptionCall.toOption_eq_override (c : WriteOptionCall) :
    c.toOption = c.sets.override := by
  cases c <;> rfl

theorem DeleteOptionCall.toOption_eq_override (c : DeleteOptionCall) :
    c.toOption = c.sets.override := by
  cases c <;> rfl

/-! ## Calls that never give one field two values -/

/-- Two optional values never disagree. -/
def agrees {α : Type} (x y : Option α) : Prop := ∀ a ∈ x, ∀ b ∈ y, a = b

theorem getD_getD_comm {α : Type} {x y : Option α} (agree : agrees x y) (v : α) :
    x.getD (y.getD v) = y.getD (x.getD v) := by
  cases x <;> cases y <;> simp_all [agrees]

/-- No field is given two different values by the two calls. -/
structure ReadFields.Agree (f g : ReadFields) : Prop where
  Database : agrees f.Database g.Database
  Table : agrees f.Table g.Table
  Key : agrees f.Key g.Key
  Value : agrees f.Value g.Value
  Prefix : agrees f.Prefix g.Prefix
  Suffix : agrees f.Suffix g.Suffix
  Limit : agrees f.Limit g.Limit
  Offset : agrees f.Offset g.Offset
  Result : agrees f.Result g.Result

structure WriteFields.Agree (f g : WriteFields) : Prop where
  Database : agrees f.Database g.Database
  Table : agrees f.Table g.Table
  Key : agrees f.Key g.Key
  Value : agrees f.Value g.Value
  Expiry : agrees f.Expiry g.Expiry
  TTL : agrees f.TTL g.TTL

structure DeleteFields.Agree (f g : DeleteFields) : Prop where
  Database : agrees f.Database g.Database
  Table : agrees f.Table g.Table
  Key : agrees f.Key g.Key
  Value : agrees f.Value g.Value

theorem ReadFields.override_comm {f g : ReadFields} (agree : f.Agree g) (l : ReadOptions) :
    f.override (g.override l) = g.override (f.override l) := by
  simp only [ReadFields.override, getD_getD_comm agree.Database, getD_getD_comm agree.Table,
    getD_getD_comm agree.Key, getD_getD_comm agree.Value, getD_getD_comm agree.Prefix,
    getD_getD_comm agree.Suffix, getD_getD_comm agree.Limit, getD_getD_comm agree.Offset,
    getD_getD_comm agree.Result]

theorem WriteFields.override_comm {f g : WriteFields} (agree : f.Agree g) (w : WriteOptions) :
    f.override (g.override w) = g.override (f.override w) := by
  simp only [WriteFields.override, getD_getD_comm agree.Database, getD_getD_comm agree.Table,
    getD_getD_comm agree.Key, getD_getD_comm agree.Value, getD_getD_comm agree.Expiry,
    getD_getD_comm agree.TTL]

theorem DeleteFields.override_comm {f g : DeleteFields} (agree : f.Agree g) (d : DeleteOptions) :
    f.override (g.override d) = g.override (f.override d) := by
  simp only [DeleteFields.override, getD_getD_comm agree.Database, getD_getD_comm agree.Table,
    getD_getD_comm agree.Key, getD_getD_comm agree.Value]

end IntegrationAdapters.Source.Storage
