import IntegrationAdapters.Source.TextEncodings

/-!
# AES-GCM encryptor and OAuth state generator

Translation of `aesEncryptor.Encrypt` / `Decrypt` (`crypto/aes.go:54-110`), of
`GenerateState`, `randomHex`, `hmacBase64` (`unnamed/part_008:49-88`) and of `md5Hasher.Hash`
(`unnamed/part_009:48-51`). The block cipher and the GCM authenticator are not modelled:
`GcmCore` stands for them, assuming only that opening a sealed text under the same key and nonce
gives the plaintext back. What `crypto/cipher` does around that core is modelled, because the
encryptor's behaviour depends on it: the 16-byte tag, the rejection of ciphertexts shorter than
the tag, and the GCM message-size limit, beyond which `Seal` panics. HMAC-SHA256 is an abstract
function of key and message, MD5 an abstract 16-byte digest.
-/

namespace IntegrationAdapters.Source.Crypto

/-- What a Go call ends in: its results, or a panic. -/
inductive Outcome (α : Type) where
  | returns (value : α)
  | panics (message : String)
  deriving DecidableEq, Repr

inductive CryptoError where
  | keySizeError (size : Nat)
  | corruptInput (err : Base64.CorruptInputError)
  /-- `_ErrInvalidNonceSize`, "invalid nonce size". -/
  | invalidNonceSize
  /-- `errOpen`, "cipher: message authentication failed". -/
  | errOpen
  | randomRead
  deriving DecidableEq, Repr

def gcmTagSize : Nat := 16

/-- `gcmStandardNonceSize`, what `gcm.NonceSize()` returns for `cipher.NewGCM`. -/
def gcmStandardNonceSize : Nat := 12

/-- `((1<<32)-2) * BlockSize`: the longest plaintext GCM seals. -/
def gcmMaxPlaintext : Nat := ((1 <<< 32) - 2) * 16

def validKey (key : Bytes) : Bytes := (key ++ List.replicate 32 0).take 32

@[simp] theorem length_validKey (key : Bytes) : (validKey key).length = 32 := by
  simp [validKey]

/-- A key `aes.NewCipher` accepts: AES-128, AES-192 or AES-256. -/
structure AesCipher where
  key : Bytes
  key_size : key.length = 16 ∨ key.length = 24 ∨ key.length = 32

def NewCipher (key : Bytes) : Except CryptoError AesCipher :=
  if size : key.length = 16 ∨ key.length = 24 ∨ key.length = 32 then .ok ⟨key, size⟩
  else .error (.keySizeError key.length)

/-- The AEAD core of AES-GCM, left abstract: `authEncrypt` returns ciphertext and 16-byte tag,
`authDecrypt` authenticates and decrypts. -/
structure GcmCore where
  authEncrypt : AesCipher → Bytes → Bytes → Bytes
  authDecrypt : AesCipher → Bytes → Bytes → Option Bytes
  length_authEncrypt : ∀ c nonce plaintext,
    (authEncrypt c nonce plaintext).length = plaintext.length + gcmTagSize
  authDecrypt_authEncrypt : ∀ c nonce plaintext,
    authDecrypt c nonce (authEncrypt c nonce plaintext) = some plaintext

/-- `gcm.Seal(dst, nonce, plaintext, nil)`: `dst` followed by ciphertext and tag. The nonce
length check is not modelled: the encryptor always passes `NonceSize()` bytes. -/
def Seal (core : GcmCore) (c : AesCipher) (dst nonce plaintext : Bytes) : Outcome Bytes :=
  if plaintext.length > gcmMaxPlaintext then .panics "crypto/cipher: message too large for GCM"
  else .returns (dst ++ core.authEncrypt c nonce plaintext)

def Open (core : GcmCore) (c : AesCipher) (nonce ciphertext : Bytes) : Except CryptoError Bytes :=
  if ciphertext.length < gcmTagSize then .error .errOpen
  else if ciphertext.length > gcmMaxPlaintext + gcmTagSize then .error .errOpen
  else match core.authDecrypt c nonce ciphertext with
    | some plaintext => .ok plaintext
    | none => .error .errOpen

/-- `crypto/rand`: a read of `n` bytes fails or yields exactly `n` bytes. -/
structure RandomSource where
  read : Nat → Except CryptoError Bytes
  length_read : ∀ n buffer, read n = .ok buffer → buffer.length = n

/-- `aesEncryptor.Encrypt`. `cipher.NewGCM` cannot fail on AES's 16-byte block and is
omitted. -/
def Encrypt (core : GcmCore) (rand : RandomSource) (text key : Bytes) :
    Outcome (Except CryptoError Bytes) :=
  match NewCipher (validKey key) with
  | .error err => .returns (.error err)
  | .ok c =>
    match rand.read gcmStandardNonceSize with
    | .error err => .returns (.error err)
    | .ok nonce =>
      match Seal core c nonce nonce text with
      | .panics message => .panics message
      | .returns result => .returns (.ok (Base64.EncodeToString result))

/-- `aesEncryptor.Decrypt`. The error of `gcm.Open` is discarded (`plaintext, _ :=`), and a
failed `Open` returns a nil plaintext. -/
def Decrypt (core : GcmCore) (text key : Bytes) : Except CryptoError Bytes :=
  match NewCipher (validKey key) with
  | .error err => .error err
  | .ok c =>
    match Base64.DecodeString text with
    | .error err => .error (.corruptInput err)
    | .ok buf =>
      if buf.length < gcmStandardNonceSize then .error .invalidNonceSize
      else
        let nonce := buf.take gcmStandardNonceSize
        let ciphertext := buf.drop gcmStandardNonceSize
        match Open core c nonce ciphertext with
        | .ok plaintext => .ok plaintext
        | .error _ => .ok []

theorem NewCipher_validKey (key : Bytes) :
    NewCipher (validKey key) = .ok ⟨validKey key, .inr (.inr (length_validKey key))⟩ := by
  simp [NewCipher]

theorem Seal_of_le (core : GcmCore) (c : AesCipher) (dst nonce plaintext : Bytes)
    (fits : plaintext.length ≤ gcmMaxPlaintext) :
    Seal core c dst nonce plaintext = .returns (dst ++ core.authEncrypt c nonce plaintext) :=
  if_neg (Nat.not_lt.mpr fits)

theorem Seal_of_lt (core : GcmCore) (c : AesCipher) (dst nonce plaintext : Bytes)
    (too_long : gcmMaxPlaintext < plaintext.length) :
    Seal core c dst nonce plaintext = .panics "crypto/cipher: message too large for GCM" :=
  if_pos too_long

theorem Open_authEncrypt (core : GcmCore) (c : AesCipher) (nonce plaintext : Bytes)
    (fits : plaintext.length ≤ gcmMaxPlaintext) :
    Open core c nonce (core.authEncrypt c nonce plaintext) = .ok plaintext := by
  have length := core.length_authEncrypt c nonce plaintext
  simp only [Open, length, core.authDecrypt_authEncrypt, gcmTagSize] at *
  rw [if_neg (by omega), if_neg (by omega)]

theorem Open_of_short (core : GcmCore) (c : AesCipher) (nonce ciphertext : Bytes)
    (short : ciphertext.length < gcmTagSize) : Open core c nonce ciphertext = .error .errOpen :=
  if_pos short

/-- Spec of `Decrypt`: it fails only on a text that does not decode or decodes to fewer bytes
than a nonce; otherwise it returns what `Open` returns, or nothing. -/
theorem Decrypt_eq (core : GcmCore) (text key : Bytes) :
    Decrypt core text key =
      match Base64.DecodeString text with
      | .error err => .error (.corruptInput err)
      | .ok buf =>
        if buf.length < gcmStandardNonceSize then .error .invalidNonceSize
        else .ok ((Open core ⟨validKey key, .inr (.inr (length_validKey key))⟩
          (buf.take gcmStandardNonceSize) (buf.drop gcmStandardNonceSize)).toOption.getD []) := by
  simp only [Decrypt, NewCipher_validKey]
  split
  · rfl
  · split
    · rfl
    · split <;> simp_all [Except.toOption]

def randomHex (rand : RandomSource) (n : Nat) : Except CryptoError Bytes :=
  match rand.read n with
  | .error err => .error err
  | .ok bytes => .ok (Hex.EncodeToString bytes)

/-- `hmacBase64(message, secret)`; writing to a hash never fails. -/
def hmacBase64 (hmacSha256 : Bytes → Bytes → Bytes) (message secret : Bytes) :
    Except CryptoError Bytes :=
  .ok (Base64.EncodeToString (hmacSha256 secret message))

/-- `strings.ReplaceAll(s, old, "")` for a one-byte `old`. -/
def removeAll (old : UInt8) (s : Bytes) : Bytes := s.filter (· ≠ old)

/-- `stateGenerator.GenerateState`: `QueryEscape(ReplaceAll(hmac + "." + ts, "+", ""))`. -/
def GenerateState (hmacSha256 : Bytes → Bytes → Bytes) (rand : RandomSource) (secret : Bytes) :
    Except CryptoError Bytes :=
  match randomHex rand 64 with
  | .error err => .error err
  | .ok ts =>
    match hmacBase64 hmacSha256 ts secret with
    | .error err => .error err
    | .ok hmac => .ok (Url.QueryEscape (removeAll 43 (hmac ++ 46 :: ts)))

/-- `md5.Sum`, abstract: a 16-byte digest of its input. -/
structure Md5 where
  Sum : Bytes → Bytes
  length_Sum : ∀ data, (Sum data).length = 16

/-- `md5Hasher.Hash`: the hex of the digest. -/
def md5Hasher.Hash (md5 : Md5) (text : Bytes) : Bytes := Hex.EncodeToString (md5.Sum text)

end IntegrationAdapters.Source.Crypto
