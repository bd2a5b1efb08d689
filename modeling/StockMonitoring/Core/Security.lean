import StockMonitoring.Domain.Entities

set_option autoImplicit false

/-!
# Core: OTP code generation, hashing and verification

`app/core/security.py`.  `hashlib.sha256` is the FIPS 180-4 function, written
here on natural numbers below `2 ^ 32` so that a code's hash can be computed.
-/

namespace StockMonitoring.Core

/-! ## SHA-256 -/

namespace Sha256

/-- `2 ^ 32`. -/
def wordRange : Nat := 0x100000000

/-- Rotate a 32-bit word right. -/
def rotr (word amount : Nat) : Nat :=
  ((word >>> amount) ||| (word <<< (32 - amount))) % wordRange

/-- The 64 round constants. -/
def roundConstants : List Nat := [
  0x428a2f98, 0x71374491, 0xb5c0fbcf, 0xe9b5dba5, 0x3956c25b, 0x59f111f1, 0x923f82a4, 0xab1c5ed5,
  0xd807aa98, 0x12835b01, 0x243185be, 0x550c7dc3, 0x72be5d74, 0x80deb1fe, 0x9bdc06a7, 0xc19bf174,
  0xe49b69c1, 0xefbe4786, 0x0fc19dc6, 0x240ca1cc, 0x2de92c6f, 0x4a7484aa, 0x5cb0a9dc, 0x76f988da,
  0x983e5152, 0xa831c66d, 0xb00327c8, 0xbf597fc7, 0xc6e00bf3, 0xd5a79147, 0x06ca6351, 0x14292967,
  0x27b70a85, 0x2e1b2138, 0x4d2c6dfc, 0x53380d13, 0x650a7354, 0x766a0abb, 0x81c2c92e, 0x92722c85,
  0xa2bfe8a1, 0xa81a664b, 0xc24b8b70, 0xc76c51a3, 0xd192e819, 0xd6990624, 0xf40e3585, 0x106aa070,
  0x19a4c116, 0x1e376c08, 0x2748774c, 0x34b0bcb5, 0x391c0cb3, 0x4ed8aa4a, 0x5b9cca4f, 0x682e6ff3,
  0x748f82ee, 0x78a5636f, 0x84c87814, 0x8cc70208, 0x90befffa, 0xa4506ceb, 0xbef9a3f7, 0xc67178f2]

/-- The eight working variables. -/
structure Working where
  a : Nat
  b : Nat
  c : Nat
  d : Nat
  e : Nat
  f : Nat
  g : Nat
  h : Nat

/-- The initial hash value. -/
def initial : Working :=
  ⟨0x6a09e667, 0xbb67ae85, 0x3c6ef372, 0xa54ff53a, 0x510e527f, 0x9b05688c, 0x1f83d9ab, 0x5be0cd19⟩

/-- Extend the message schedule by `n` words; the newest word comes first. -/
def schedule : Nat → List Nat → List Nat
  | 0, words => words
  | n + 1, words =>
      let w15 := words.getD 14 0
      let w2 := words.getD 1 0
      let small0 := rotr w15 7 ^^^ rotr w15 18 ^^^ (w15 >>> 3)
      let small1 := rotr w2 17 ^^^ rotr w2 19 ^^^ (w2 >>> 10)
      schedule n ((words.getD 15 0 + small0 + words.getD 6 0 + small1) % wordRange :: words)

/-- One round, for a round constant and a schedule word. -/
def round (state : Working) (input : Nat × Nat) : Working :=
  let big1 := rotr state.e 6 ^^^ rotr state.e 11 ^^^ rotr state.e 25
  let choice := (state.e &&& state.f) ^^^ ((wordRange - 1 - state.e) &&& state.g)
  let first := state.h + big1 + choice + input.1 + input.2
  let big0 := rotr state.a 2 ^^^ rotr state.a 13 ^^^ rotr state.a 22
  let majority := (state.a &&& state.b) ^^^ (state.a &&& state.c) ^^^ (state.b &&& state.c)
  ⟨(first + big0 + majority) % wordRange, state.a, state.b, state.c,
    (state.d + first) % wordRange, state.e, state.f, state.g⟩

/-- Absorb one block of sixteen words. -/
def absorb (state : Working) (words : List Nat) : Working :=
  let out := (roundConstants.zip (schedule 48 words.reverse).reverse).foldl round state
  ⟨(state.a + out.a) % wordRange, (state.b + out.b) % wordRange, (state.c + out.c) % wordRange,
    (state.d + out.d) % wordRange, (state.e + out.e) % wordRange, (state.f + out.f) % wordRange,
    (state.g + out.g) % wordRange, (state.h + out.h) % wordRange⟩

/-- The `n` low bytes of a number, most significant first. -/
def bigEndian : Nat → Nat → List Nat
  | 0, _ => []
  | n + 1, value => (value / 256 ^ n) % 256 :: bigEndian n value

/-- Pad a message to a whole number of 64-byte blocks. -/
def pad (message : List Nat) : List Nat :=
  message ++ 0x80 :: List.replicate ((119 - message.length % 64) % 64) 0 ++
    bigEndian 8 (8 * message.length)

/-- Read bytes as big-endian 32-bit words. -/
def wordsOf : List Nat → List Nat
  | a :: b :: c :: d :: rest => (((a * 256 + b) * 256 + c) * 256 + d) :: wordsOf rest
  | _ => []

/-- Cut words into `n` blocks of sixteen. -/
def blocksOf : Nat → List Nat → List (List Nat)
  | 0, _ => []
  | n + 1, words => words.take 16 :: blocksOf n (words.drop 16)

/-- `hashlib.sha256(message).digest()`. -/
def digest (message : List Nat) : List Nat :=
  let words := wordsOf (pad message)
  let out := (blocksOf (words.length / 16) words).foldl absorb initial
  [out.a, out.b, out.c, out.d, out.e, out.f, out.g, out.h].flatMap (bigEndian 4)

-- the FIPS 180-4 vector for "abc"
example : digest [0x61, 0x62, 0x63] =
    bigEndian 32 0xba7816bf8f01cfea414140de5dae2223b00361a396177a9cb410ff61f20015ad := by
  decide +kernel

end Sha256

/-! ## OTP codes -/

/-- One lower-case hexadecimal digit. -/
def hexDigit (value : Nat) : Char :=
  ['0', '1', '2', '3', '4', '5', '6', '7', '8', '9', 'a', 'b', 'c', 'd', 'e', 'f'].getD value '0'

/-- `bytes.hex`. -/
def hexOf (bytes : List Nat) : String :=
  String.ofList (bytes.flatMap fun byte => [hexDigit (byte / 16), hexDigit (byte % 16)])

/-- `generate_otp_code`: the draw of `secrets.randbelow(1000000)` as six digits. -/
def generateOtpCode (draw : Nat) : String :=
  let digits := Nat.toDigits 10 draw
  String.ofList (List.replicate (6 - digits.length) '0' ++ digits)

/-- `hash_otp_code`. -/
def hashOtpCode (code : String) : String :=
  hexOf (Sha256.digest (code.toUTF8.toList.map UInt8.toNat))

/-- `verify_otp_code`; `hmac.compare_digest` on two strings is equality. -/
def verifyOtpCode (code codeHash : String) : Bool :=
  hashOtpCode code == codeHash

end StockMonitoring.Core
