import Mathlib.Tactic

/-!
# SHA-256

The hash function over byte strings, with 32-bit words as natural numbers below
`2 ^ 32`, so that digests of concrete names evaluate in the kernel.

* `pad`, `words`: the padded message and its big-endian words;
* `nextWord`, `round`, `compress`: message schedule, round function, compression;
* `digest`: the 32 bytes of the hash.

The schedule is kept as a sliding window of sixteen words: each round consumes the
first word of the window and appends the word that the recurrence produces.
-/

namespace Sha256

/-! ### Word operations -/

/-- Reduce to a 32-bit word. -/
def low (x : ℕ) : ℕ := x % 4294967296

/-- Rotate a word right by `n`. -/
def rotr (n x : ℕ) : ℕ := (x >>> n) ||| low (x <<< (32 - n))

def bigSigma0 (x : ℕ) : ℕ := rotr 2 x ^^^ rotr 13 x ^^^ rotr 22 x

def bigSigma1 (x : ℕ) : ℕ := rotr 6 x ^^^ rotr 11 x ^^^ rotr 25 x

def smallSigma0 (x : ℕ) : ℕ := rotr 7 x ^^^ rotr 18 x ^^^ (x >>> 3)

def smallSigma1 (x : ℕ) : ℕ := rotr 17 x ^^^ rotr 19 x ^^^ (x >>> 10)

def ch (x y z : ℕ) : ℕ := (x &&& y) ^^^ ((4294967295 - x) &&& z)

def maj (x y z : ℕ) : ℕ := (x &&& y) ^^^ (x &&& z) ^^^ (y &&& z)

/-- The round constants. -/
def roundConstants : List ℕ :=
  [0x428a2f98, 0x71374491, 0xb5c0fbcf, 0xe9b5dba5, 0x3956c25b, 0x59f111f1, 0x923f82a4, 0xab1c5ed5,
    0xd807aa98, 0x12835b01, 0x243185be, 0x550c7dc3, 0x72be5d74, 0x80deb1fe, 0x9bdc06a7, 0xc19bf174,
    0xe49b69c1, 0xefbe4786, 0x0fc19dc6, 0x240ca1cc, 0x2de92c6f, 0x4a7484aa, 0x5cb0a9dc, 0x76f988da,
    0x983e5152, 0xa831c66d, 0xb00327c8, 0xbf597fc7, 0xc6e00bf3, 0xd5a79147, 0x06ca6351, 0x14292967,
    0x27b70a85, 0x2e1b2138, 0x4d2c6dfc, 0x53380d13, 0x650a7354, 0x766a0abb, 0x81c2c92e, 0x92722c85,
    0xa2bfe8a1, 0xa81a664b, 0xc24b8b70, 0xc76c51a3, 0xd192e819, 0xd6990624, 0xf40e3585, 0x106aa070,
    0x19a4c116, 0x1e376c08, 0x2748774c, 0x34b0bcb5, 0x391c0cb3, 0x4ed8aa4a, 0x5b9cca4f, 0x682e6ff3,
    0x748f82ee, 0x78a5636f, 0x84c87814, 0x8cc70208, 0x90befffa, 0xa4506ceb, 0xbef9a3f7, 0xc67178f2]

/-- The eight working variables. -/
structure Registers where
  a : ℕ
  b : ℕ
  c : ℕ
  d : ℕ
  e : ℕ
  f : ℕ
  g : ℕ
  h : ℕ

/-- The initial hash value. -/
def initial : Registers :=
  ⟨0x6a09e667, 0xbb67ae85, 0x3c6ef372, 0xa54ff53a, 0x510e527f, 0x9b05688c, 0x1f83d9ab, 0x5be0cd19⟩

/-! ### Compression -/

/-- The schedule word that follows a window of sixteen. -/
def nextWord : List ℕ → ℕ
  | [w0, w1, _, _, _, _, _, _, _, w9, _, _, _, _, w14, _] =>
      low (w0 + smallSigma0 w1 + w9 + smallSigma1 w14)
  | _ => 0

/-- One round, with constant `k` and schedule word `w`. -/
def round (r : Registers) (k w : ℕ) : Registers :=
  let t1 := low (r.h + bigSigma1 r.e + ch r.e r.f r.g + k + w)
  let t2 := low (bigSigma0 r.a + maj r.a r.b r.c)
  ⟨low (t1 + t2), r.a, r.b, r.c, low (r.d + t1), r.e, r.f, r.g⟩

/-- The rounds for a list of constants, over a window of the schedule. -/
def rounds : List ℕ → List ℕ → Registers → Registers
  | [], _, r => r
  | _ :: _, [], r => r
  | k :: ks, w :: ws, r => rounds ks (ws ++ [nextWord (w :: ws)]) (round r k w)

/-- Fold one block of sixteen words into the hash value. -/
def compress (h : Registers) (block : List ℕ) : Registers :=
  let r := rounds roundConstants block h
  ⟨low (h.a + r.a), low (h.b + r.b), low (h.c + r.c), low (h.d + r.d),
    low (h.e + r.e), low (h.f + r.f), low (h.g + r.g), low (h.h + r.h)⟩

/-! ### Messages -/

/-- Big-endian words of a byte string. -/
def words : List ℕ → List ℕ
  | a :: b :: c :: d :: rest => (((a * 256 + b) * 256 + c) * 256 + d) :: words rest
  | _ => []

/-- The `n` big-endian bytes of `x`. -/
def bigEndian : ℕ → ℕ → List ℕ
  | 0, _ => []
  | n + 1, x => bigEndian n (x / 256) ++ [x % 256]

/-- The message, a `1` bit, zeros up to 56 bytes modulo 64, and the length in bits. -/
def pad (m : List ℕ) : List ℕ :=
  m ++ [0x80] ++ List.replicate ((119 - m.length % 64) % 64) 0 ++ bigEndian 8 (8 * m.length)

/-- Compress `n` blocks off the front of a list of words. -/
def blocks : ℕ → List ℕ → Registers → Registers
  | 0, _, h => h
  | n + 1, ws, h => blocks n (ws.drop 16) (compress h (ws.take 16))

/-- The bytes of the hash value. -/
def Registers.bytes (r : Registers) : List UInt8 :=
  ([r.a, r.b, r.c, r.d, r.e, r.f, r.g, r.h].flatMap (bigEndian 4)).map UInt8.ofNat

/-- The SHA-256 digest of a byte string. -/
def digest (m : List UInt8) : List UInt8 :=
  let ws := words (pad (m.map UInt8.toNat))
  (blocks (ws.length / 16) ws initial).bytes

@[simp] theorem bigEndian_length (n x : ℕ) : (bigEndian n x).length = n := by
  induction n generalizing x with
  | zero => rfl
  | succ n ih => simp [bigEndian, ih]

@[simp] theorem digest_length (m : List UInt8) : (digest m).length = 32 := by
  simp [digest, Registers.bytes]

/-- The bytes of an ASCII string. -/
def ascii (s : String) : List UInt8 := s.toList.map fun c => UInt8.ofNat c.toNat

example : (digest (ascii "abc")).take 4 = [0xba, 0x78, 0x16, 0xbf] := by decide +kernel

end Sha256
