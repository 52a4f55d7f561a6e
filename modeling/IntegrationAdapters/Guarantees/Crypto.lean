import IntegrationAdapters.Source.Crypto

/-!
# Guarantees of the encryptor and of the state generator

* `Decrypt` returns a nil error on every text that decodes to at least a nonce, authentic or not:
  the error of `gcm.Open` is discarded at `crypto/aes.go:107` (`Decrypt_nonce_only`).
* CR and LF anywhere in the text change neither whether `Decrypt` succeeds nor its plaintext,
  only the offset of a base64 error (`Decrypt_ignores_newlines`).
* `Decrypt` inverts `Encrypt` for every key length and every plaintext GCM can seal; a longer
  plaintext makes `gcm.Seal` panic inside `Encrypt` (`Decrypt_Encrypt`, `Encrypt_too_long`).
* Every ciphertext is padded base64 of `n + 28` bytes for an `n`-byte plaintext
  (`Encrypt_format`).
* The state decoded from `GenerateState` splits uniquely at its only `.` into the MAC with its
  `+` bytes deleted and the hex of the random buffer (`GenerateState_splits`).
-/

namespace IntegrationAdapters.Guarantees.Crypto
open IntegrationAdapters.Source IntegrationAdapters.Source.Crypto

/-- A core that meets both laws without hiding anything: the plaintext, then a zero tag. It shows
the laws satisfiable and lets the model run on concrete inputs. -/
def nullCore : GcmCore where
  authEncrypt _ _ plaintext := plaintext ++ List.replicate gcmTagSize 0
  authDecrypt _ _ ciphertext :=
    if ciphertext.drop (ciphertext.length - gcmTagSize) = List.replicate gcmTagSize 0 then
      some (ciphertext.take (ciphertext.length - gcmTagSize))
    else none
  length_authEncrypt := by simp
  authDecrypt_authEncrypt := by simp

/-- A random source that always yields zero bytes. -/
def zeroSource : RandomSource where
  read n := .ok (List.replicate n 0)
  length_read := by rintro n buffer ⟨⟩; simp

/-! ## `Decrypt` -/

/-- The base64 text of twelve zero bytes, a nonce and no ciphertext, decrypts with a nil error
to the empty string, under every key: `gcm.Open` rejects the missing tag, and the error is
dropped. -/
theorem Decrypt_nonce_only (core : GcmCore) (key : Bytes) :
    Decrypt core (List.replicate 16 65) key = .ok [] := by
  rw [Decrypt_eq, show Base64.DecodeString (List.replicate 16 65) = .ok (List.replicate 12 0)
    from rfl]
  simp only [List.length_replicate, gcmStandardNonceSize, lt_self_iff_false, if_false]
  rw [Open_of_short _ _ _ _ (by decide)]
  rfl

/-- For every plaintext GCM can seal, every key of any length and every nonce the random source
yields, `Encrypt` returns a nil error and `Decrypt` gives the plaintext back. -/
theorem Decrypt_Encrypt (core : GcmCore) (rand : RandomSource) (text key nonce : Bytes)
    (read : rand.read gcmStandardNonceSize = .ok nonce) (fits : text.length ≤ gcmMaxPlaintext) :
    ∃ encrypted, Encrypt core rand text key = .returns (.ok encrypted) ∧
      Decrypt core encrypted key = .ok text := by
  have nonce_length := rand.length_read _ _ read
  refine ⟨Base64.EncodeToString (nonce ++ core.authEncrypt
      ⟨validKey key, .inr (.inr (length_validKey key))⟩ nonce text),
    by simp only [Encrypt, NewCipher_validKey, read, Seal_of_le _ _ _ _ _ fits], ?_⟩
  rw [Decrypt_eq, Base64.DecodeString_EncodeToString]
  simp only [List.length_append, core.length_authEncrypt, nonce_length, List.take_left',
    List.drop_left', Open_authEncrypt _ _ _ _ fits]
  rw [if_neg (by omega)]
  rfl

theorem Decrypt_Encrypt_hi :
    ∃ encrypted,
      Encrypt nullCore zeroSource [104, 105] (List.replicate 40 7) = .returns (.ok encrypted) ∧
        Decrypt nullCore encrypted (List.replicate 40 7) = .ok [104, 105] :=
  Decrypt_Encrypt nullCore zeroSource [104, 105] (List.replicate 40 7) (List.replicate 12 0) rfl
    (by decide)

theorem Encrypt_of_too_long (core : GcmCore) (rand : RandomSource) (text key nonce : Bytes)
    (read : rand.read gcmStandardNonceSize = .ok nonce) (too_long : gcmMaxPlaintext < text.length) :
    Encrypt core rand text key = .panics "crypto/cipher: message too large for GCM" := by
  simp only [Encrypt, NewCipher_validKey, read, Seal_of_lt _ _ _ _ _ too_long]

/-- A plaintext one byte over the GCM limit makes `Encrypt` panic instead of returning. -/
theorem Encrypt_too_long :
    Encrypt nullCore zeroSource (List.replicate (gcmMaxPlaintext + 1) 0) [] =
      .panics "crypto/cipher: message too large for GCM" :=
  Encrypt_of_too_long _ _ _ [] (List.replicate 12 0) rfl (by simp)

/-! ## The ciphertext's format -/

/-- `Encrypt` on a plaintext GCM can seal: the base64 of the nonce, the sealed text and its tag. -/
theorem Encrypt_of_fits (core : GcmCore) (rand : RandomSource) (text key nonce : Bytes)
    (read : rand.read gcmStandardNonceSize = .ok nonce) (fits : text.length ≤ gcmMaxPlaintext) :
    Encrypt core rand text key = .returns (.ok (Base64.EncodeToString (nonce ++
      core.authEncrypt ⟨validKey key, .inr (.inr (length_validKey key))⟩ nonce text))) := by
  simp only [Encrypt, NewCipher_validKey, read, Seal_of_le _ _ _ _ _ fits]

/-- Every ciphertext `Encrypt` returns for an `n`-byte plaintext has `4⌈(n + 28)/3⌉` bytes, the
12-byte nonce and the 16-byte tag framed with the plaintext in padded base64, and each byte is a
symbol of the standard alphabet or `=`. -/
theorem Encrypt_format (core : GcmCore) (rand : RandomSource) (text key nonce : Bytes)
    (read : rand.read gcmStandardNonceSize = .ok nonce) (fits : text.length ≤ gcmMaxPlaintext) :
    ∃ encrypted, Encrypt core rand text key = .returns (.ok encrypted) ∧
      encrypted.length = 4 * ((text.length + 30) / 3) ∧
      ∀ c ∈ encrypted, c = Base64.padChar ∨ ∃ i : Fin 64, Base64.encodeStd i = c := by
  refine ⟨_, Encrypt_of_fits core rand text key nonce read fits, ?_,
    fun _ member => Base64.mem_encode member⟩
  simp only [Base64.EncodeToString, Base64.length_encode, List.length_append,
    core.length_authEncrypt, rand.length_read _ _ read, gcmStandardNonceSize, gcmTagSize]
  omega

theorem Encrypt_format_empty :
    zeroSource.read gcmStandardNonceSize = .ok (List.replicate 12 0) ∧
    ([] : Bytes).length ≤ gcmMaxPlaintext ∧
    ∃ encrypted, Encrypt nullCore zeroSource [] [] = .returns (.ok encrypted) ∧
      encrypted.length = 4 * ((([] : Bytes).length + 30) / 3) ∧
      ∀ c ∈ encrypted, c = Base64.padChar ∨ ∃ i : Fin 64, Base64.encodeStd i = c :=
  ⟨rfl, by decide, Encrypt_format nullCore zeroSource [] [] (List.replicate 12 0) rfl (by decide)⟩

/-! ## State generator -/

theorem ne_of_lowerHex {c : UInt8} (digit : Hex.isLowerHexDigit c = true) (other : UInt8)
    (not_digit : Hex.isLowerHexDigit other = false) : c ≠ other := by
  rintro rfl; simp_all

/-- For every secret and every 64-byte buffer of the random source: the unescaped state has
exactly one `.`; after it come the 128 lowercase hex digits of the buffer, before it the
`hmacBase64` of those digits with every `+` deleted, that is a text with no `+` keeping every
other byte of the MAC in order and as often; and any split at a `.` finds these two parts. -/
theorem GenerateState_splits (hmacSha256 : Bytes → Bytes → Bytes) (rand : RandomSource)
    (secret r : Bytes) (read : rand.read 64 = .ok r) :
    ∃ state hmac mac, GenerateState hmacSha256 rand secret = .ok state ∧
      hmacBase64 hmacSha256 (Hex.EncodeToString r) secret = .ok hmac ∧
      Url.QueryUnescape state = .ok (mac ++ 46 :: Hex.EncodeToString r) ∧
      (43 : UInt8) ∉ mac ∧ mac.Sublist hmac ∧ (∀ c, c ≠ 43 → mac.count c = hmac.count c) ∧
      (mac ++ 46 :: Hex.EncodeToString r).count 46 = 1 ∧
      (Hex.EncodeToString r).length = 128 ∧
      (∀ c ∈ Hex.EncodeToString r, Hex.isLowerHexDigit c = true) ∧
      ∀ before after, mac ++ 46 :: Hex.EncodeToString r = before ++ 46 :: after →
        before = mac ∧ after = Hex.EncodeToString r := by
  set ts := Hex.EncodeToString r
  set hmac := Base64.EncodeToString (hmacSha256 secret ts)
  have digits : ∀ c ∈ ts, Hex.isLowerHexDigit c = true :=
    fun _ member => Hex.lowerHex_of_mem_EncodeToString member
  have no_dot_ts : (46 : UInt8) ∉ ts := fun member => ne_of_lowerHex (digits _ member) 46 rfl rfl
  have no_dot_hmac : (46 : UInt8) ∉ removeAll 43 hmac :=
    fun member => Base64.dot_not_mem_EncodeToString _ (List.mem_filter.mp member).1
  have joined : removeAll 43 (hmac ++ 46 :: ts) = removeAll 43 hmac ++ 46 :: ts := by
    simp only [removeAll, List.filter_append, List.filter_cons]
    rw [List.filter_eq_self.mpr fun c member =>
      decide_eq_true (ne_of_lowerHex (digits c member) 43 rfl)]
    rfl
  refine ⟨Url.QueryEscape (removeAll 43 (hmac ++ 46 :: ts)), hmac, removeAll 43 hmac,
    by simp [GenerateState, randomHex, read, hmacBase64, ts, hmac], rfl,
    by rw [joined, Url.QueryUnescape_QueryEscape],
    fun member => by simpa using (List.mem_filter.mp member).2, List.filter_sublist hmac,
    fun c other => List.count_filter (by simpa using other), ?_, ?_, digits,
    fun before after split =>
      have parts := (List.append_cons_inj_of_not_mem no_dot_hmac no_dot_ts).mp split
      ⟨parts.1.symm, parts.2.2.symm⟩⟩
  · simp [List.count_append, List.count_eq_zero_of_not_mem no_dot_hmac,
      List.count_eq_zero_of_not_mem no_dot_ts]
  · rw [Hex.length_EncodeToString, rand.length_read _ _ read]

theorem GenerateState_splits_zero :
    ∃ state hmac mac, GenerateState (fun _ _ => []) zeroSource [] = .ok state ∧
      hmacBase64 (fun _ _ => []) (Hex.EncodeToString (List.replicate 64 0)) [] = .ok hmac ∧
      Url.QueryUnescape state = .ok (mac ++ 46 :: Hex.EncodeToString (List.replicate 64 0)) ∧
      (43 : UInt8) ∉ mac ∧ mac.Sublist hmac ∧ (∀ c, c ≠ 43 → mac.count c = hmac.count c) ∧
      (mac ++ 46 :: Hex.EncodeToString (List.replicate 64 0)).count 46 = 1 ∧
      (Hex.EncodeToString (List.replicate 64 0)).length = 128 ∧
      (∀ c ∈ Hex.EncodeToString (List.replicate 64 0), Hex.isLowerHexDigit c = true) ∧
      ∀ before after, mac ++ 46 :: Hex.EncodeToString (List.replicate 64 0) =
          before ++ 46 :: after →
        before = mac ∧ after = Hex.EncodeToString (List.replicate 64 0) :=
  GenerateState_splits (fun _ _ => []) zeroSource [] (List.replicate 64 0) rfl

end IntegrationAdapters.Guarantees.Crypto
