import IntegrationAdapters.Source.Base64

/-!
# The marshaler's msgpack codec

Both cache variants store values through gocache's `marshaler.Marshaler`, which encodes with
`msgpack.Marshal` and decodes with `msgpack.Unmarshal` into the `interface{}` that
`CustomCache.Get` passes. This module models that codec at the level of msgpack's data model:
`Marshal` maps a Go value to a msgpack message (`Wire`), `DecodeInterface` maps a message back to
the Go value `Unmarshal` stores in an empty interface. The byte framing is not modelled, only
each message's encoded length (`encodedSize`), which the Freecache store checks. Go values are
those the adapters' callers store: nil, booleans, sized integers, strings, byte slices, slices,
maps with string keys and structs (by field name); floats, times, pointers, named types, nil
slices and maps, maps with other key types and extension types are left out.
-/

namespace IntegrationAdapters.Source.Msgpack

inductive IntKind where
  | int | int8 | int16 | int32 | int64
  deriving DecidableEq, Repr

inductive UintKind where
  | uint | uint8 | uint16 | uint32 | uint64
  deriving DecidableEq, Repr

/-- The dynamic value of an `interface{}`. -/
inductive GoValue where
  | nil
  | bool (b : Bool)
  | signed (kind : IntKind) (n : Int)
  | unsigned (kind : UintKind) (n : Nat)
  | string (s : Bytes)
  | bytes (b : Bytes)
  | slice (items : List GoValue)
  /-- A slice of a concrete element type (`[]string`, `[]int`, ...). -/
  | typedSlice (items : List GoValue)
  /-- `map[string]interface{}`, in iteration order. -/
  | map (entries : List (Bytes × GoValue))
  /-- A map from strings to a concrete value type (`map[string]string`, ...). -/
  | typedMap (entries : List (Bytes × GoValue))
  /-- A struct value, by exported field name, in declaration order. -/
  | struct (fields : List (Bytes × GoValue))
  deriving Repr

inductive Width where
  | w8 | w16 | w32 | w64
  deriving DecidableEq, Repr

/-- A msgpack message, by format family. -/
inductive Wire where
  | nil
  | bool (b : Bool)
  /-- A positive or negative fixnum, `-32 ≤ n ≤ 127`. -/
  | fixint (n : Int)
  | int (width : Width) (n : Int)
  | uint (width : Width) (n : Nat)
  | str (s : Bytes)
  | bin (b : Bytes)
  | array (items : List Wire)
  | map (entries : List (Wire × Wire))
  deriving Repr

/-- `EncodeUint`: the smallest format that holds `n`; the type is lost. -/
def EncodeUint (n : Nat) : Wire :=
  if n ≤ 127 then .fixint n
  else if n ≤ 255 then .uint .w8 n
  else if n ≤ 65535 then .uint .w16 n
  else if n ≤ 4294967295 then .uint .w32 n
  else .uint .w64 n

def EncodeInt (n : Int) : Wire :=
  if 0 ≤ n then EncodeUint n.toNat
  else if -32 ≤ n then .fixint n
  else if -128 ≤ n then .int .w8 n
  else if -32768 ≤ n then .int .w16 n
  else if -2147483648 ≤ n then .int .w32 n
  else .int .w64 n

/-- Signed integers: `int` goes through `EncodeInt`, a sized type keeps its width. -/
def signedWire : IntKind → Int → Wire
  | .int, n => EncodeInt n
  | .int8, n => .int .w8 n
  | .int16, n => .int .w16 n
  | .int32, n => .int .w32 n
  | .int64, n => .int .w64 n

def unsignedWire : UintKind → Nat → Wire
  | .uint, n => EncodeUint n
  | .uint8, n => .uint .w8 n
  | .uint16, n => .uint .w16 n
  | .uint32, n => .uint .w32 n
  | .uint64, n => .uint .w64 n

def Marshal : GoValue → Wire
  | .nil => .nil
  | .bool b => .bool b
  | .signed kind n => signedWire kind n
  | .unsigned kind n => unsignedWire kind n
  | .string s => .str s
  | .bytes b => .bin b
  | .slice items | .typedSlice items => .array (marshalItems items)
  | .map entries | .typedMap entries | .struct entries => .map (marshalEntries entries)
where
  marshalItems : List GoValue → List Wire
    | [] => []
    | v :: vs => Marshal v :: marshalItems vs
  marshalEntries : List (Bytes × GoValue) → List (Wire × Wire)
    | [] => []
    | (k, v) :: rest => (.str k, Marshal v) :: marshalEntries rest

inductive MsgpackError where
  /-- "msgpack: invalid code=%x decoding string/bytes length". -/
  | invalidCodeDecodingString
  deriving DecidableEq, Repr

/-- `DecodeString`, as `DecodeMap` reads each key: a string, bytes, or nil as `""`. -/
def DecodeString : Wire → Except MsgpackError Bytes
  | .str s => .ok s
  | .bin b => .ok b
  | .nil => .ok []
  | _ => .error .invalidCodeDecodingString

/-- `DecodeInterface`: the Go value `Unmarshal` stores in a nil `interface{}`. A fixnum becomes
an `int8`, a sized integer the sized type of its width, an array `[]interface{}`, a map
`map[string]interface{}`. -/
def DecodeInterface : Wire → Except MsgpackError GoValue
  | .nil => .ok .nil
  | .bool b => .ok (.bool b)
  | .fixint n => .ok (.signed .int8 n)
  | .int .w8 n => .ok (.signed .int8 n)
  | .int .w16 n => .ok (.signed .int16 n)
  | .int .w32 n => .ok (.signed .int32 n)
  | .int .w64 n => .ok (.signed .int64 n)
  | .uint .w8 n => .ok (.unsigned .uint8 n)
  | .uint .w16 n => .ok (.unsigned .uint16 n)
  | .uint .w32 n => .ok (.unsigned .uint32 n)
  | .uint .w64 n => .ok (.unsigned .uint64 n)
  | .str s => .ok (.string s)
  | .bin b => .ok (.bytes b)
  | .array items => .slice <$> decodeItems items
  | .map entries => .map <$> decodeEntries entries
where
  decodeItems : List Wire → Except MsgpackError (List GoValue)
    | [] => .ok []
    | w :: ws => do
      let v ← DecodeInterface w
      let vs ← decodeItems ws
      pure (v :: vs)
  decodeEntries : List (Wire × Wire) → Except MsgpackError (List (Bytes × GoValue))
    | [] => .ok []
    | (k, w) :: rest => do
      let key ← DecodeString k
      let v ← DecodeInterface w
      let vs ← decodeEntries rest
      pure ((key, v) :: vs)

def Width.bytes : Width → Nat
  | .w8 => 1 | .w16 => 2 | .w32 => 4 | .w64 => 8

/-- The length of a message's encoding: format byte, length field, payload. -/
def encodedSize : Wire → Nat
  | .nil | .bool _ | .fixint _ => 1
  | .int w _ | .uint w _ => 1 + w.bytes
  | .str s => (if s.length < 32 then 1 else if s.length < 256 then 2
      else if s.length < 65536 then 3 else 5) + s.length
  | .bin b => (if b.length < 256 then 2 else if b.length < 65536 then 3 else 5) + b.length
  | .array items => (if items.length < 16 then 1 else if items.length < 65536 then 3 else 5) +
      sizeItems items
  | .map entries => (if entries.length < 16 then 1 else if entries.length < 65536 then 3 else 5) +
      sizeEntries entries
where
  sizeItems : List Wire → Nat
    | [] => 0
    | w :: ws => encodedSize w + sizeItems ws
  sizeEntries : List (Wire × Wire) → Nat
    | [] => 0
    | (k, w) :: rest => encodedSize k + encodedSize w + sizeEntries rest

/-! ## What survives the round trip -/

theorem decodes_ite {c : Prop} [Decidable c] {a b : Wire}
    (ha : ∃ decoded, DecodeInterface a = .ok decoded)
    (hb : ∃ decoded, DecodeInterface b = .ok decoded) :
    ∃ decoded, DecodeInterface (if c then a else b) = .ok decoded := by
  split <;> assumption

theorem DecodeInterface_EncodeUint_ok (n : Nat) :
    ∃ decoded, DecodeInterface (EncodeUint n) = .ok decoded :=
  decodes_ite ⟨_, rfl⟩ (decodes_ite ⟨_, rfl⟩ (decodes_ite ⟨_, rfl⟩
    (decodes_ite ⟨_, rfl⟩ ⟨_, rfl⟩)))

theorem DecodeInterface_EncodeInt_ok (n : Int) :
    ∃ decoded, DecodeInterface (EncodeInt n) = .ok decoded :=
  decodes_ite (DecodeInterface_EncodeUint_ok _) (decodes_ite ⟨_, rfl⟩ (decodes_ite ⟨_, rfl⟩
    (decodes_ite ⟨_, rfl⟩ (decodes_ite ⟨_, rfl⟩ ⟨_, rfl⟩))))

/-- Decoding never fails on what `Marshal` produced: every map key it writes is a string. -/
theorem DecodeInterface_Marshal_ok : (v : GoValue) →
    ∃ decoded, DecodeInterface (Marshal v) = .ok decoded
  | .nil | .bool _ | .string _ | .bytes _ => ⟨_, rfl⟩
  | .signed kind n => by
    cases kind
    case int => exact DecodeInterface_EncodeInt_ok n
    all_goals exact ⟨_, rfl⟩
  | .unsigned kind n => by
    cases kind
    case uint => exact DecodeInterface_EncodeUint_ok n
    all_goals exact ⟨_, rfl⟩
  | .slice items | .typedSlice items =>
    let ⟨_, h⟩ := items_ok items
    ⟨_, by simp only [Marshal, DecodeInterface, h]; rfl⟩
  | .map entries | .typedMap entries | .struct entries =>
    let ⟨_, h⟩ := entries_ok entries
    ⟨_, by simp only [Marshal, DecodeInterface, h]; rfl⟩
where
  items_ok : (items : List GoValue) →
      ∃ decoded, DecodeInterface.decodeItems (Marshal.marshalItems items) = .ok decoded
    | [] => ⟨_, rfl⟩
    | v :: vs =>
      let ⟨_, hv⟩ := DecodeInterface_Marshal_ok v
      let ⟨_, hvs⟩ := items_ok vs
      ⟨_, by simp only [Marshal.marshalItems, DecodeInterface.decodeItems, hv, hvs]; rfl⟩
  entries_ok : (entries : List (Bytes × GoValue)) →
      ∃ decoded, DecodeInterface.decodeEntries (Marshal.marshalEntries entries) = .ok decoded
    | [] => ⟨_, rfl⟩
    | (_, v) :: rest =>
      let ⟨_, hv⟩ := DecodeInterface_Marshal_ok v
      let ⟨_, hrest⟩ := entries_ok rest
      ⟨_, by simp only [Marshal.marshalEntries, DecodeInterface.decodeEntries, DecodeString, hv,
        hrest]; rfl⟩

end IntegrationAdapters.Source.Msgpack
