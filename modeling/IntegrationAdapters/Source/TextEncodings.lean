import IntegrationAdapters.Source.Base64

/-!
# Go `encoding/hex` and `net/url` query escaping

`GenerateState` (`unnamed/part_008`) hex-encodes its random buffer with `hex.EncodeToString` and
escapes the joined state with `url.QueryEscape`; a verifier reads it back with
`url.QueryUnescape`. The three standard library functions are translated byte by byte for the
`encodeQueryComponent` mode, the only one these callers use. The single pass of `unescape`
below reports the same first malformed escape as Go's separate validation pass.
-/

namespace IntegrationAdapters.Source

namespace Hex

/-- `hextable`, `"0123456789abcdef"`, as a function of the nibble. -/
def hextable (i : Nat) : UInt8 := if i < 10 then UInt8.ofNat (48 + i) else UInt8.ofNat (87 + i)

/-- `hex.Encode`: `hextable[v>>4]`, `hextable[v&0x0f]` for every byte. -/
def EncodeToString (src : Bytes) : Bytes :=
  src.flatMap fun v => [hextable (v.toNat >>> 4), hextable (v.toNat &&& 0x0f)]

/-- Lowercase hexadecimal digits, `0–9 a–f`. -/
def isLowerHexDigit (c : UInt8) : Bool := (48 ≤ c && c ≤ 57) || (97 ≤ c && c ≤ 102)

theorem length_EncodeToString (src : Bytes) : (EncodeToString src).length = 2 * src.length := by
  induction src with
  | nil => rfl
  | cons v rest ih => simp only [EncodeToString, List.flatMap_cons] at ih ⊢; simp [ih]; omega

theorem hextable_lowerHex : ∀ i : Fin 16, isLowerHexDigit (hextable i) = true := by decide

theorem nibble_lt (n : Nat) : n &&& 0x0f < 16 :=
  (Nat.and_pow_two_sub_one_eq_mod n 4).trans_lt (Nat.mod_lt _ (by decide))

theorem high_nibble_lt (v : UInt8) : v.toNat >>> 4 < 16 := by
  have bound : v.toNat < 256 := v.toNat_lt_size
  rw [Nat.shiftRight_eq_div_pow]; omega

/-- Every byte of a hex encoding is a lowercase hexadecimal digit. -/
theorem lowerHex_of_mem_EncodeToString {c : UInt8} {src : Bytes}
    (member : c ∈ EncodeToString src) : isLowerHexDigit c = true := by
  simp only [EncodeToString, List.mem_flatMap, List.mem_cons, List.not_mem_nil, or_false] at member
  obtain ⟨v, -, rfl | rfl⟩ := member
  · exact hextable_lowerHex ⟨_, high_nibble_lt v⟩
  · exact hextable_lowerHex ⟨_, nibble_lt _⟩

end Hex

namespace Url

/-- `upperhex`, `"0123456789ABCDEF"`, as a function of the nibble. -/
def upperhex (i : Nat) : UInt8 := if i < 10 then UInt8.ofNat (48 + i) else UInt8.ofNat (55 + i)

/-- `shouldEscape(c, encodeQueryComponent)`: all but alphanumerics and the marks `-_.~`. -/
def shouldEscape (c : UInt8) : Bool :=
  !((97 ≤ c && c ≤ 122) || (65 ≤ c && c ≤ 90) || (48 ≤ c && c ≤ 57) ||
    c = 45 || c = 95 || c = 46 || c = 126)

/-- One byte of `escape(s, encodeQueryComponent)`: space becomes `+`, a byte to escape
becomes `%XY`. -/
def escapeByte (c : UInt8) : Bytes :=
  if c = 32 then [43]
  else if shouldEscape c then [37, upperhex (c.toNat >>> 4), upperhex (c.toNat &&& 15)]
  else [c]

/-- `url.QueryEscape`. -/
def QueryEscape (s : Bytes) : Bytes := s.flatMap escapeByte

/-- `ishex`. -/
def ishex (c : UInt8) : Bool :=
  (48 ≤ c && c ≤ 57) || (97 ≤ c && c ≤ 102) || (65 ≤ c && c ≤ 70)

/-- `unhex`. -/
def unhex (c : UInt8) : Nat :=
  if 48 ≤ c ∧ c ≤ 57 then c.toNat - 48
  else if 97 ≤ c ∧ c ≤ 102 then c.toNat - 97 + 10
  else if 65 ≤ c ∧ c ≤ 70 then c.toNat - 65 + 10
  else 0

/-- `EscapeError`, carrying the offending escape (at most three bytes). -/
structure EscapeError where
  escape : Bytes
  deriving DecidableEq, Repr

/-- `unescape(s, encodeQueryComponent)`: `%XY` becomes the byte `unhex(X)<<4 | unhex(Y)`
(the nibbles do not overlap, `|` written `+`), `+` becomes a space. -/
def unescape : Bytes → Except EscapeError Bytes
  | [] => .ok []
  | 37 :: h :: l :: rest =>
    if ishex h && ishex l then (UInt8.ofNat (unhex h <<< 4 + unhex l) :: ·) <$> unescape rest
    else .error ⟨[37, h, l]⟩
  | 37 :: rest => .error ⟨37 :: rest⟩
  | 43 :: rest => (32 :: ·) <$> unescape rest
  | c :: rest => (c :: ·) <$> unescape rest

/-- `url.QueryUnescape`. -/
def QueryUnescape (s : Bytes) : Except EscapeError Bytes := unescape s

theorem upperhex_unhex : ∀ i : Fin 16, ishex (upperhex i) = true ∧ unhex (upperhex i) = i := by
  decide

/-- A byte left as it is by the escaper is neither `%` nor `+`. -/
theorem not_escape_ne {c : UInt8} (keep : shouldEscape c = false) : c ≠ 37 ∧ c ≠ 43 := by
  constructor <;> rintro rfl <;> revert keep <;> decide

theorem unescape_other {c : UInt8} (not_percent : c ≠ 37) (not_plus : c ≠ 43) (rest : Bytes) :
    unescape (c :: rest) = (c :: ·) <$> unescape rest :=
  unescape.eq_5 c rest (fun _ _ _ percent _ => not_percent percent) not_percent not_plus

theorem unescape_escapeByte (c : UInt8) (rest : Bytes) :
    unescape (escapeByte c ++ rest) = (c :: ·) <$> unescape rest := by
  unfold escapeByte
  split_ifs with space escape
  · subst space; rfl
  · have high := upperhex_unhex ⟨_, Hex.high_nibble_lt c⟩
    have low := upperhex_unhex ⟨_, Hex.nibble_lt c.toNat⟩
    have bound : c.toNat < 256 := c.toNat_lt_size
    have byte : UInt8.ofNat (c.toNat >>> 4 <<< 4 + (c.toNat &&& 15)) = c := by
      apply UInt8.toNat.inj
      show (c.toNat >>> 4 <<< 4 + (c.toNat &&& 15)) % 256 = c.toNat
      rw [Nat.shiftRight_eq_div_pow, Nat.shiftLeft_eq, show (15 : Nat) = 2 ^ 4 - 1 from rfl,
        Nat.and_pow_two_sub_one_eq_mod]
      omega
    simp only [List.cons_append, List.nil_append, unescape, high.1, low.1, Bool.and_self,
      if_true, high.2, low.2, byte]
    rfl
  · obtain ⟨not_percent, not_plus⟩ := not_escape_ne (Bool.eq_false_iff.mpr escape)
    exact unescape_other not_percent not_plus rest

/-- `QueryUnescape` inverts `QueryEscape` on every byte string. -/
theorem QueryUnescape_QueryEscape (s : Bytes) : QueryUnescape (QueryEscape s) = .ok s := by
  induction s with
  | nil => rfl
  | cons c rest ih =>
    simp only [QueryUnescape, QueryEscape, List.flatMap_cons] at ih ⊢
    rw [unescape_escapeByte, ih]
    rfl

end Url

end IntegrationAdapters.Source
