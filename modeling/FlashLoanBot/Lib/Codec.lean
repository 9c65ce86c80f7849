import Mathlib.Tactic

/-!
# Byte strings and canonical codecs

Fixed-width numerals over bytes, and codecs that read a value off the front of a
byte string.

* `toLe`, `ofLe`: little-endian numerals of a fixed width, inverse to each other;
* `Codec`: an encoder and a prefix decoder together with the two laws that make the
  pair canonical (`dec_enc`: decoding undoes encoding and leaves the rest alone;
  `enc_dec`: only encodings are accepted);
* `Codec.dec_eq_some`: both laws in one;
* the combinators `Codec.unit`, `Codec.bool`, `Codec.u64`, `Codec.option`, `Codec.prod`.
-/

namespace Bytes

/-! ### Little-endian numerals -/

/-- The `n` low-order bytes of `x`, least significant first. -/
def toLe : ℕ → ℕ → List UInt8
  | 0, _ => []
  | n + 1, x => UInt8.ofNat x :: toLe n (x / 256)

/-- The number whose bytes, least significant first, are given. -/
def ofLe : List UInt8 → ℕ
  | [] => 0
  | b :: bs => b.toNat + 256 * ofLe bs

@[simp] theorem toLe_length (n x : ℕ) : (toLe n x).length = n := by
  induction n generalizing x with
  | zero => rfl
  | succ n ih => simp [toLe, ih]

theorem ofLe_toLe (n x : ℕ) : ofLe (toLe n x) = x % 256 ^ n := by
  induction n generalizing x with
  | zero => simp [toLe, ofLe, Nat.mod_one]
  | succ n ih =>
    have hdiv : x % 256 ^ (n + 1) = x % 256 + 256 * (x / 256 % 256 ^ n) := by
      rw [pow_succ', Nat.mod_mul]
    simp [toLe, ofLe, ih, hdiv]

theorem ofLe_toLe_of_lt {n x : ℕ} (h : x < 256 ^ n) : ofLe (toLe n x) = x := by
  rw [ofLe_toLe, Nat.mod_eq_of_lt h]

theorem ofLe_lt (bs : List UInt8) : ofLe bs < 256 ^ bs.length := by
  induction bs with
  | nil => simp [ofLe]
  | cons b bs ih =>
    have hb : b.toNat < 256 := b.toNat_lt
    simp only [ofLe, List.length_cons, pow_succ']
    omega

theorem toLe_ofLe (bs : List UInt8) : toLe bs.length (ofLe bs) = bs := by
  induction bs with
  | nil => rfl
  | cons b bs ih =>
    have hb : b.toNat < 256 := b.toNat_lt
    have hlow : UInt8.ofNat (b.toNat + 256 * ofLe bs) = b := by
      apply UInt8.toNat_inj.mp
      rw [UInt8.toNat_ofNat']
      omega
    have hhigh : (b.toNat + 256 * ofLe bs) / 256 = ofLe bs := by omega
    simp only [List.length_cons, toLe, ofLe, hlow, hhigh, ih]

end Bytes

/-! ### Codecs -/

/-- An encoder and a prefix decoder that accepts exactly the encodings. -/
structure Codec (α : Type*) where
  /-- The bytes of a value. -/
  enc : α → List UInt8
  /-- Read a value off the front, returning the bytes that follow it. -/
  dec : List UInt8 → Option (α × List UInt8)
  dec_enc : ∀ a rest, dec (enc a ++ rest) = some (a, rest)
  enc_dec : ∀ bs a rest, dec bs = some (a, rest) → bs = enc a ++ rest

namespace Codec

variable {α β : Type*}

attribute [simp] dec_enc

theorem enc_append_inj (c : Codec α) {a b : α} {r s : List UInt8}
    (h : c.enc a ++ r = c.enc b ++ s) : a = b ∧ r = s := by
  have hd := congrArg c.dec h
  simpa using hd

theorem enc_injective (c : Codec α) : Function.Injective c.enc := by
  intro a b h
  exact (c.enc_append_inj (r := []) (s := []) (by simpa using h)).1

/-- A value is read off the front exactly when the bytes begin with its encoding. -/
theorem dec_eq_some (c : Codec α) {bs rest : List UInt8} {a : α} :
    c.dec bs = some (a, rest) ↔ bs = c.enc a ++ rest := by
  constructor
  · exact c.enc_dec bs a rest
  · rintro rfl
    exact c.dec_enc a rest

/-! ### Combinators -/

/-- No bytes at all. -/
def unit : Codec Unit where
  enc _ := []
  dec bs := some ((), bs)
  dec_enc _ _ := rfl
  enc_dec bs a rest h := by cases h; rfl

/-- One byte, `0` or `1`; every other byte is refused. -/
def bool : Codec Bool where
  enc b := [if b then 1 else 0]
  dec
    | 0 :: rest => some (false, rest)
    | 1 :: rest => some (true, rest)
    | _ => none
  dec_enc b rest := by cases b <;> rfl
  enc_dec bs a rest h := by
    split at h
    · cases h; rfl
    · cases h; rfl
    · cases h

/-- Eight little-endian bytes. -/
def u64 : Codec UInt64 where
  enc x := Bytes.toLe 8 x.toNat
  dec bs :=
    if 8 ≤ bs.length then some (UInt64.ofNat (Bytes.ofLe (bs.take 8)), bs.drop 8) else none
  dec_enc x rest := by
    have hx : x.toNat < 256 ^ 8 := x.toNat_lt
    have htake : (Bytes.toLe 8 x.toNat ++ rest).take 8 = Bytes.toLe 8 x.toNat :=
      List.take_left' (by simp)
    have hdrop : (Bytes.toLe 8 x.toNat ++ rest).drop 8 = rest := List.drop_left' (by simp)
    simp [htake, hdrop, Bytes.ofLe_toLe_of_lt hx]
  enc_dec bs a rest h := by
    split_ifs at h with hlen
    obtain ⟨rfl, rfl⟩ := Prod.mk.inj (Option.some.inj h)
    have htake : (bs.take 8).length = 8 := by simp [hlen]
    have hlt : Bytes.ofLe (bs.take 8) < 2 ^ 64 := by
      have := Bytes.ofLe_lt (bs.take 8)
      rwa [htake] at this
    rw [UInt64.toNat_ofNat_of_lt' hlt]
    have hround := Bytes.toLe_ofLe (bs.take 8)
    rw [htake] at hround
    rw [hround, List.take_append_drop]

/-- A byte `0`, or a byte `1` and a value. -/
def option (c : Codec α) : Codec (Option α) where
  enc
    | none => [0]
    | some a => 1 :: c.enc a
  dec
    | 0 :: rest => some (none, rest)
    | 1 :: rest => (c.dec rest).map fun p => (some p.1, p.2)
    | _ => none
  dec_enc o rest := by cases o <;> simp
  enc_dec bs o rest h := by
    split at h
    · cases h; rfl
    · obtain ⟨⟨a, r⟩, hdec, hp⟩ := Option.map_eq_some_iff.mp h
      cases hp
      rw [c.enc_dec _ _ _ hdec, List.cons_append]
    · cases h

/-- One value after the other. -/
def prod (c : Codec α) (d : Codec β) : Codec (α × β) where
  enc p := c.enc p.1 ++ d.enc p.2
  dec bs := (c.dec bs).bind fun p => (d.dec p.2).map fun q => ((p.1, q.1), q.2)
  dec_enc p rest := by simp [List.append_assoc]
  enc_dec bs p rest h := by
    obtain ⟨⟨a, r⟩, hc, h'⟩ := Option.bind_eq_some_iff.mp h
    obtain ⟨⟨b, r'⟩, hd, hp⟩ := Option.map_eq_some_iff.mp h'
    cases hp
    have hr : r = d.enc b ++ r' := d.enc_dec _ _ _ hd
    rw [c.enc_dec _ _ _ hc, hr, List.append_assoc]

@[simp] theorem unit_enc (u : Unit) : unit.enc u = [] := rfl

@[simp] theorem u64_enc (x : UInt64) : u64.enc x = Bytes.toLe 8 x.toNat := rfl

@[simp] theorem prod_enc (c : Codec α) (d : Codec β) (p : α × β) :
    (c.prod d).enc p = c.enc p.1 ++ d.enc p.2 := rfl

end Codec
