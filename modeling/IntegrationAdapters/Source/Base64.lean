import Mathlib.Data.Nat.Bitwise
import Mathlib.Data.List.Basic

/-!
# Go `encoding/base64`, standard encoding

`crypto/aes.go` frames every ciphertext with `base64.StdEncoding.EncodeToString` and reads it
back with `DecodeString`; `hmacBase64` of the state generator encodes the MAC the same way.
Both are Go standard library code, translated here: `Encode` (three bytes become four symbols,
`=` pads a final group of one or two bytes) and the `decodeQuantum` loop behind `Decode`, which
skips CR and LF anywhere, accepts a final quantum of two or three symbols only with its padding,
rejects trailing garbage, and, the standard encoding not being strict, ignores padding bits.
`CorruptInputError` carries the index the source reports, which `Decrypt` returns to its caller
(`crypto/aes.go:96-98`); the bytes `Decode` writes before failing are not modelled, that caller
discarding them.
-/

namespace IntegrationAdapters.Source

/-- Go strings and byte slices: sequences of bytes, not necessarily UTF-8. -/
abbrev Bytes := List UInt8

namespace Base64

/-- `encodeStd`, the alphabet `A–Z a–z 0–9 + /`, as a function of the symbol's index. -/
def encodeStd (i : Nat) : UInt8 :=
  if i < 26 then UInt8.ofNat (65 + i)
  else if i < 52 then UInt8.ofNat (97 + (i - 26))
  else if i < 62 then UInt8.ofNat (48 + (i - 52))
  else if i = 62 then 43
  else 47

/-- `StdPadding`, the byte `=`. -/
def padChar : UInt8 := 61

/-- `decodeMap`: the index of an alphabet byte; `none` stands for Go's `0xFF`. -/
def decodeMap (c : UInt8) : Option Nat :=
  let n := c.toNat
  if 65 ≤ n ∧ n ≤ 90 then some (n - 65)
  else if 97 ≤ n ∧ n ≤ 122 then some (n - 71)
  else if 48 ≤ n ∧ n ≤ 57 then some (n + 4)
  else if n = 43 then some 62
  else if n = 47 then some 63
  else none

/-- `enc.encode[val>>shift&0x3F]`. -/
def symbol (val shift : Nat) : UInt8 := encodeStd (val >>> shift &&& 0x3F)

/-- `Encoding.Encode`: full groups of three bytes, then the padded remainder. The three
shifted bytes of a group do not overlap, so the source's `|` is written `+`. -/
def encode : Bytes → Bytes
  | a :: b :: c :: rest =>
    let val := a.toNat <<< 16 + b.toNat <<< 8 + c.toNat
    [symbol val 18, symbol val 12, symbol val 6, symbol val 0] ++ encode rest
  | [a, b] =>
    let val := a.toNat <<< 16 + b.toNat <<< 8
    [symbol val 18, symbol val 12, symbol val 6, padChar]
  | [a] =>
    let val := a.toNat <<< 16
    [symbol val 18, symbol val 12, padChar, padChar]
  | [] => []

/-- `EncodeToString`. -/
def EncodeToString (src : Bytes) : Bytes := encode src

/-- `CorruptInputError`: the index of the byte at which the text was found corrupt. -/
structure CorruptInputError where
  offset : Nat
  deriving DecidableEq, Repr

/-- Whether a byte is `\n` or `\r`, which the decoder skips. -/
def isNewline (c : UInt8) : Bool := c = 10 || c = 13

/-- The decoder's `for si < len(src) && (src[si] == '\n' || src[si] == '\r')` loops: the rest of
the text and the index of its first byte. -/
def skipNewlines : Bytes → Nat → Bytes × Nat
  | c :: rest, si => if isNewline c then skipNewlines rest (si + 1) else (c :: rest, si)
  | [], si => ([], si)

/-- The tail of `decodeQuantum`: `dlen` symbols, missing ones read as zero, give `dlen - 1`
bytes (the overlapping-free `|` again written `+`). -/
def quantumBytes (dbuf : List Nat) : Bytes :=
  let val := dbuf.getD 0 0 <<< 18 + dbuf.getD 1 0 <<< 12 + dbuf.getD 2 0 <<< 6 + dbuf.getD 3 0
  [UInt8.ofNat (val >>> 16), UInt8.ofNat (val >>> 8), UInt8.ofNat val].take (dbuf.length - 1)

/-- After the padding only newlines may remain; any other byte is trailing garbage. -/
def trailingGarbage (rest : Bytes) (si : Nat) (dbuf : List Nat) :
    Except CorruptInputError Bytes :=
  match skipNewlines rest si with
  | ([], _) => .ok (quantumBytes dbuf)
  | (_ :: _, si) => .error ⟨si⟩

/-- What `decodeQuantum` does after the first `=`, `si` being the index past it: with two symbols
a second `=` must follow, where a missing one is reported at `len(src)` and another byte one
index before it, as the source does; with fewer than two symbols the `=` itself is wrong. -/
def finishPadding (rest : Bytes) (si : Nat) (dbuf : List Nat) :
    Except CorruptInputError Bytes :=
  if dbuf.length = 2 then
    match skipNewlines rest si with
    | (c :: rest, si) => if c = padChar then trailingGarbage rest (si + 1) dbuf else .error ⟨si - 1⟩
    | ([], si) => .error ⟨si⟩
  else if dbuf.length = 3 then trailingGarbage rest si dbuf
  else .error ⟨si - 1⟩

/-- `Decode`: `decodeQuantum` run until the text is used up, `si` the index of the next byte and
`dbuf` the symbols of the quantum read so far. A quantum left incomplete at the end is an error,
the encoding padding, reported at `si - j` for its `j` symbols, as the source does. -/
def decodeLoop : Bytes → Nat → List Nat → Except CorruptInputError Bytes
  | [], _, [] => .ok []
  | [], si, dbuf@(_ :: _) => .error ⟨si - dbuf.length⟩
  | c :: rest, si, dbuf =>
    match decodeMap c with
    | some v =>
      if dbuf.length = 3 then (quantumBytes (dbuf ++ [v]) ++ ·) <$> decodeLoop rest (si + 1) []
      else decodeLoop rest (si + 1) (dbuf ++ [v])
    | none =>
      if isNewline c then decodeLoop rest (si + 1) dbuf
      else if c = padChar then finishPadding rest (si + 1) dbuf
      else .error ⟨si⟩

/-- `DecodeString`. -/
def DecodeString (s : Bytes) : Except CorruptInputError Bytes := decodeLoop s 0 []

theorem land_0x3F (n : Nat) : n &&& 0x3F = n % 64 := Nat.and_pow_two_sub_one_eq_mod n 6

theorem ofNat_eq_of_mod {a : UInt8} {n : Nat} (h : n % 256 = a.toNat) : UInt8.ofNat n = a :=
  UInt8.toNat.inj h

theorem decodeMap_encodeStd_fin : ∀ i : Fin 64, decodeMap (encodeStd i) = some i.val := by
  decide

theorem decodeMap_symbol (val shift : Nat) :
    decodeMap (symbol val shift) = some (val >>> shift &&& 0x3F) := by
  have bound : val >>> shift &&& 0x3F < 64 := by rw [land_0x3F]; exact Nat.mod_lt _ (by decide)
  exact decodeMap_encodeStd_fin ⟨_, bound⟩

@[simp] theorem decodeMap_padChar : decodeMap padChar = none := by decide
@[simp] theorem isNewline_padChar : isNewline padChar = false := by decide

/-- The sextets of a 24-bit value, put back in place, give the value; the two low sextets may be
given as any terms equal to them. -/
theorem sextets_recompose {val low2 low3 : Nat} (small : val < 2 ^ 24)
    (h2 : val >>> 6 &&& 0x3F = low2) (h3 : val &&& 0x3F = low3) :
    (val >>> 18 &&& 0x3F) <<< 18 + (val >>> 12 &&& 0x3F) <<< 12 + low2 <<< 6 + low3 = val := by
  subst h2 h3
  simp only [land_0x3F, Nat.shiftLeft_eq, Nat.shiftRight_eq_div_pow, Nat.reducePow]
  calc _ = val % 64 + 64 * (val / 64 % 64) + 4096 * (val / 4096 % 64) +
        262144 * (val / 262144 % 64) := by ac_rfl
    _ = val % 16777216 := by simp only [← Nat.mod_mul, Nat.reduceMul]
    _ = val := Nat.mod_eq_of_lt small

theorem quantumBytes_group (a b c : UInt8) :
    let val := a.toNat <<< 16 + b.toNat <<< 8 + c.toNat
    quantumBytes [val >>> 18 &&& 0x3F, val >>> 12 &&& 0x3F, val >>> 6 &&& 0x3F,
      val &&& 0x3F] = [a, b, c] := by
  have ha : a.toNat < 256 := a.toNat_lt_size
  have hb : b.toNat < 256 := b.toNat_lt_size
  have hc : c.toNat < 256 := c.toNat_lt_size
  simp only [quantumBytes, List.getD_cons_zero, List.getD_cons_succ, List.length_cons,
    List.length_nil, List.take, List.cons.injEq, and_true]
  rw [sextets_recompose (by omega) rfl rfl]
  exact ⟨ofNat_eq_of_mod (by omega), ofNat_eq_of_mod (by omega), ofNat_eq_of_mod (by omega)⟩

/-- Two bytes leave the last sextet zero. -/
theorem quantumBytes_pair (a b : UInt8) :
    let val := a.toNat <<< 16 + b.toNat <<< 8
    quantumBytes [val >>> 18 &&& 0x3F, val >>> 12 &&& 0x3F, val >>> 6 &&& 0x3F] = [a, b] := by
  have ha : a.toNat < 256 := a.toNat_lt_size
  have hb : b.toNat < 256 := b.toNat_lt_size
  simp only [quantumBytes, List.getD_cons_zero, List.getD_cons_succ, List.getD_nil,
    List.length_cons, List.length_nil, List.take, List.cons.injEq, and_true]
  rw [sextets_recompose (by omega) rfl (by rw [land_0x3F]; omega)]
  exact ⟨ofNat_eq_of_mod (by omega), ofNat_eq_of_mod (by omega)⟩

/-- One byte leaves the last two sextets zero. -/
theorem quantumBytes_single (a : UInt8) :
    let val := a.toNat <<< 16
    quantumBytes [val >>> 18 &&& 0x3F, val >>> 12 &&& 0x3F] = [a] := by
  have ha : a.toNat < 256 := a.toNat_lt_size
  simp only [quantumBytes, List.getD_cons_zero, List.getD_cons_succ, List.getD_nil,
    List.length_cons, List.length_nil, List.take, List.cons.injEq, and_true]
  rw [sextets_recompose (by omega) (by rw [land_0x3F]; omega) (by rw [land_0x3F]; omega)]
  exact ofNat_eq_of_mod (by omega)

theorem decodeLoop_symbol (val shift : Nat) (rest : Bytes) (si : Nat) (dbuf : List Nat) :
    decodeLoop (symbol val shift :: rest) si dbuf =
      if dbuf.length = 3 then
        (quantumBytes (dbuf ++ [val >>> shift &&& 0x3F]) ++ ·) <$> decodeLoop rest (si + 1) []
      else decodeLoop rest (si + 1) (dbuf ++ [val >>> shift &&& 0x3F]) := by
  rw [decodeLoop, decodeMap_symbol]

@[simp] theorem decodeLoop_padChar (rest : Bytes) (si : Nat) (dbuf : List Nat) :
    decodeLoop (padChar :: rest) si dbuf = finishPadding rest (si + 1) dbuf := by
  simp [decodeLoop]

theorem decodeLoop_encode (src : Bytes) (si : Nat) : decodeLoop (encode src) si [] = .ok src := by
  induction src using encode.induct generalizing si with
  | case1 a b c rest ih =>
    simp only [encode, List.cons_append, List.nil_append, decodeLoop_symbol, List.length_nil,
      List.singleton_append, List.length_cons, List.length_singleton]
    simp [ih, quantumBytes_group]
  | case2 a b =>
    simp [encode, decodeLoop_symbol, finishPadding, trailingGarbage, skipNewlines,
      quantumBytes_pair]
  | case3 a =>
    simp [encode, decodeLoop_symbol, finishPadding, trailingGarbage, skipNewlines,
      quantumBytes_single]
  | case4 => rfl

theorem DecodeString_EncodeToString (src : Bytes) :
    DecodeString (EncodeToString src) = .ok src :=
  decodeLoop_encode src 0

/-- Four symbols for every three bytes begun. -/
theorem length_encode (src : Bytes) : (encode src).length = 4 * ((src.length + 2) / 3) := by
  induction src using encode.induct with
  | case1 a b c rest ih =>
    simp only [encode, List.length_append, ih, List.length_cons, List.length_nil]
    omega
  | case2 a b => simp [encode]
  | case3 a => simp [encode]
  | case4 => simp [encode]

/-- Every byte the encoder writes is the padding or an alphabet symbol. -/
theorem mem_encode {c : UInt8} {src : Bytes} (member : c ∈ encode src) :
    c = padChar ∨ ∃ i : Fin 64, encodeStd i = c := by
  have symbol_mem (val shift : Nat) : ∃ i : Fin 64, encodeStd i = symbol val shift :=
    ⟨⟨_, by rw [land_0x3F]; exact Nat.mod_lt _ (by decide)⟩, rfl⟩
  induction src using encode.induct with
  | case1 a b c rest ih =>
    simp only [encode, List.cons_append, List.nil_append, List.mem_cons] at member
    rcases member with h | h | h | h | h <;> first | exact .inr (h ▸ symbol_mem _ _) | exact ih h
  | case2 a b =>
    simp only [encode, List.mem_cons, List.not_mem_nil, or_false] at member
    rcases member with h | h | h | h <;> first | exact .inr (h ▸ symbol_mem _ _) | exact .inl h
  | case3 a =>
    simp only [encode, List.mem_cons, List.not_mem_nil, or_false] at member
    rcases member with h | h | h | h <;> first | exact .inr (h ▸ symbol_mem _ _) | exact .inl h
  | case4 => simp [encode] at member

/-- A byte outside the alphabet and other than `=` never occurs in an encoding. -/
theorem not_mem_EncodeToString {c : UInt8} (not_pad : c ≠ padChar)
    (not_symbol : ∀ i : Fin 64, encodeStd i ≠ c) (src : Bytes) : c ∉ EncodeToString src := by
  intro member
  rcases mem_encode member with h | ⟨i, h⟩
  · exact not_pad h
  · exact not_symbol i h

/-- The standard encoding never writes `.`. -/
theorem dot_not_mem_EncodeToString (src : Bytes) : (46 : UInt8) ∉ EncodeToString src :=
  not_mem_EncodeToString (by decide) (by decide) src

/-! ## Line breaks

A newline moves the index of every later byte, so it moves the offset of an error; whether the
text decodes, and to what, it does not change. -/

example : DecodeString [42] = .error ⟨0⟩ ∧ DecodeString [10, 42] = .error ⟨1⟩ := ⟨rfl, rfl⟩

end Base64
end IntegrationAdapters.Source
