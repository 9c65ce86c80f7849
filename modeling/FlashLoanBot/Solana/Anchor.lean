import FlashLoanBot.Solana.Types

/-!
# Anchor: account structures and instruction dispatch

The parts of the framework that stand between an `Instruction` and a handler.

* `Field`, `Accounts`: a `#[derive(Accounts)]` structure by its fields, in order;
* `toAccountMetas`, `tryAccounts`: the metas a client sends for a structure, and the
  structure read back from metas by position;
* `tryAccounts_eq_ok`: exactly which metas are read as a structure;
* `sighash`, `dispatch`: the eight-byte discriminator of a handler and the choice of one, with
  `dispatch_eq_some`.
-/

namespace Solana

open Checked

/-! ### Framework errors -/

/-- `InstructionFallbackNotFound` -/
def errFallbackNotFound : ProgramError := .custom 101

/-- `InstructionDidNotDeserialize` -/
def errDidNotDeserialize : ProgramError := .custom 102

/-- `ConstraintMut` -/
def errConstraintMut : ProgramError := .custom 2000

/-- `ConstraintSeeds` -/
def errConstraintSeeds : ProgramError := .custom 2006

/-- `ConstraintAddress` -/
def errConstraintAddress : ProgramError := .custom 2012

/-- `AccountNotEnoughKeys` -/
def errNotEnoughKeys : ProgramError := .custom 3005

/-- `AccountOwnedByWrongProgram` -/
def errWrongOwner : ProgramError := .custom 3007

/-- `InvalidProgramId` -/
def errInvalidProgramId : ProgramError := .custom 3008

/-- `AccountNotSigner` -/
def errNotSigner : ProgramError := .custom 3010

/-! ### Account structures -/

/-- A field of an account structure: its name, whether it is declared `mut`, whether it is a
`Signer`, and the addresses a program field admits (no list: any address). -/
structure Field where
  name : String
  isMut : Bool
  isSigner : Bool
  admits : Option (List Pubkey)
  deriving DecidableEq

namespace Field

/-- `UncheckedAccount`, or an account that the handler loads itself. -/
def account (name : String) : Field := ⟨name, false, false, none⟩

/-- `#[account(mut)]` on such an account. -/
def mutable (name : String) : Field := ⟨name, true, false, none⟩

/-- `Signer` -/
def signer (name : String) : Field := ⟨name, false, true, none⟩

/-- `#[account(mut)]` on a `Signer`. -/
def mutSigner (name : String) : Field := ⟨name, true, true, none⟩

/-- `Program` or `Interface`: one of the given programs. -/
def program (name : String) (ids : List Pubkey) : Field := ⟨name, false, false, some ids⟩

/-- The address may stand in this field. -/
def Admits (f : Field) (key : Pubkey) : Prop := ∀ ids, f.admits = some ids → key ∈ ids

instance (f : Field) (key : Pubkey) : Decidable (f.Admits key) :=
  match h : f.admits with
  | none => isTrue (by simp [Admits, h])
  | some ids => decidable_of_iff (key ∈ ids) (by simp [Admits, h])

@[simp] theorem admits_account (name : String) (key : Pubkey) : (account name).Admits key := by
  simp [Admits, account]

@[simp] theorem admits_mutable (name : String) (key : Pubkey) : (mutable name).Admits key := by
  simp [Admits, mutable]

@[simp] theorem admits_signer (name : String) (key : Pubkey) : (signer name).Admits key := by
  simp [Admits, signer]

@[simp] theorem admits_mutSigner (name : String) (key : Pubkey) :
    (mutSigner name).Admits key := by
  simp [Admits, mutSigner]

@[simp] theorem admits_program (name : String) (ids : List Pubkey) (key : Pubkey) :
    (program name ids).Admits key ↔ key ∈ ids := by
  simp [Admits, program]

/-- The meta that a client sends for this field. -/
def toMeta (f : Field) (key : Pubkey) : AccountMeta := ⟨key, f.isSigner, f.isMut⟩

/-- The meta has every privilege that the field declares, for the given address. -/
structure Granted (f : Field) (key : Pubkey) (m : AccountMeta) : Prop where
  pubkey : m.pubkey = key
  signs : f.isSigner = true → m.isSigner = true
  writes : f.isMut = true → m.isWritable = true

theorem granted_toMeta (f : Field) (key : Pubkey) : f.Granted key (f.toMeta key) :=
  ⟨rfl, id, id⟩

end Field

/-- A `#[derive(Accounts)]` structure: its fields in order, the addresses it holds, and how
it is built from addresses.  A structure holds admitted addresses only. -/
class Accounts (α : Type) where
  fields : List Field
  keys : α → List Pubkey
  ofKeys : List Pubkey → Option α
  keys_admitted : ∀ a, List.Forall₂ Field.Admits fields (keys a)
  ofKeys_keys : ∀ a, ofKeys (keys a) = some a
  keys_ofKeys : ∀ ks a, ofKeys ks = some a → keys a = ks

section Accounts

variable {α : Type} [Accounts α]

/-- The metas of a structure, one for each field. -/
def toAccountMetas (a : α) : List AccountMeta :=
  List.zipWith Field.toMeta (Accounts.fields α) (Accounts.keys a)

/-- Read one address for each field, in order, leaving the accounts that follow. -/
def readFields : List Field → List AccountMeta → Result (List Pubkey × List AccountMeta)
  | [], rest => .ok ([], rest)
  | _ :: _, [] => .error errNotEnoughKeys
  | f :: fs, m :: ms => do
      ensure (f.isSigner = true → m.isSigner = true) errNotSigner
      ensure (f.Admits m.pubkey) errInvalidProgramId
      let (ks, rest) ← readFields fs ms
      .ok (m.pubkey :: ks, rest)

/-- The `mut` constraints, checked once every field has been read. -/
def checkMut : List Field → List AccountMeta → Result Unit
  | f :: fs, m :: ms => do
      ensure (f.isMut = true → m.isWritable = true) errConstraintMut
      checkMut fs ms
  | _, _ => .ok ()

/-- `try_accounts`: the structure read from the metas by position, and the remaining accounts. -/
def tryAccounts (α : Type) [Accounts α] (metas : List AccountMeta) :
    Result (α × List AccountMeta) := do
  let (ks, rest) ← readFields (Accounts.fields α) metas
  checkMut (Accounts.fields α) metas
  let a ← fromOption errInvalidProgramId (Accounts.ofKeys ks)
  .ok (a, rest)

/-- One meta for each field, each with the privileges the field declares. -/
inductive AllGranted : List Field → List Pubkey → List AccountMeta → Prop
  | nil : AllGranted [] [] []
  | cons {f fs k ks m ms} : f.Granted k m → AllGranted fs ks ms →
      AllGranted (f :: fs) (k :: ks) (m :: ms)

theorem allGranted_toMetas {fs : List Field} {ks : List Pubkey}
    (h : List.Forall₂ Field.Admits fs ks) :
    AllGranted fs ks (List.zipWith Field.toMeta fs ks) := by
  induction h with
  | nil => exact .nil
  | cons _ _ ih => exact .cons (Field.granted_toMeta _ _) ih

theorem readFields_of_granted {fs : List Field} {ks : List Pubkey} {ms : List AccountMeta}
    (hkeys : List.Forall₂ Field.Admits fs ks) (h : AllGranted fs ks ms)
    (rest : List AccountMeta) : readFields fs (ms ++ rest) = .ok (ks, rest) := by
  induction h with
  | nil => rfl
  | cons hf _ ih =>
    obtain ⟨ha, hkeys⟩ := List.forall₂_cons.mp hkeys
    simp [readFields, ensure_of hf.signs, hf.pubkey, ensure_of ha, ih hkeys]

theorem checkMut_of_granted {fs : List Field} {ks : List Pubkey} {ms : List AccountMeta}
    (h : AllGranted fs ks ms) (rest : List AccountMeta) : checkMut fs (ms ++ rest) = .ok () := by
  induction h with
  | nil => simp [checkMut]
  | cons hf _ ih => simp [checkMut, ensure_of hf.writes, ih]

theorem tryAccounts_of_granted {a : α} {ms : List AccountMeta}
    (h : AllGranted (Accounts.fields α) (Accounts.keys a) ms) (rest : List AccountMeta) :
    tryAccounts α (ms ++ rest) = .ok (a, rest) := by
  simp [tryAccounts, readFields_of_granted (Accounts.keys_admitted a) h rest,
    checkMut_of_granted h rest, Accounts.ofKeys_keys]

/-- What has been read, and passed the `mut` constraints, was granted. -/
theorem allGranted_of_readFields {fs : List Field} {ks : List Pubkey}
    {metas rest : List AccountMeta} (hread : readFields fs metas = .ok (ks, rest))
    (hmut : checkMut fs metas = .ok ()) : ∃ ms, metas = ms ++ rest ∧ AllGranted fs ks ms := by
  induction fs generalizing metas ks with
  | nil =>
    cases hread
    exact ⟨[], rfl, .nil⟩
  | cons f fs ih =>
    cases metas with
    | nil => cases hread
    | cons m metas =>
      simp only [readFields, bind_eq_ok, ensure_eq_ok] at hread
      obtain ⟨_, hsigns, _, -, ⟨ks', rest'⟩, hread, h⟩ := hread
      cases h
      simp only [checkMut, bind_eq_ok, ensure_eq_ok] at hmut
      obtain ⟨_, hwrites, hmut⟩ := hmut
      obtain ⟨ms, rfl, hgranted⟩ := ih hread hmut
      exact ⟨m :: ms, rfl, .cons ⟨rfl, hsigns, hwrites⟩ hgranted⟩

/-- A structure is read exactly from metas that carry its addresses with all declared
privileges; accounts that follow are left. -/
theorem tryAccounts_eq_ok {a : α} {metas rest : List AccountMeta} :
    tryAccounts α metas = .ok (a, rest) ↔
      ∃ ms, metas = ms ++ rest ∧ AllGranted (Accounts.fields α) (Accounts.keys a) ms := by
  constructor
  · intro h
    simp only [tryAccounts, bind_eq_ok, fromOption_eq_ok] at h
    obtain ⟨⟨ks, rest'⟩, hread, _, hmut, b, hkeys, h⟩ := h
    cases h
    rw [Accounts.keys_ofKeys ks a hkeys]
    exact allGranted_of_readFields hread hmut
  · rintro ⟨ms, rfl, hgranted⟩
    exact tryAccounts_of_granted hgranted rest

/-- Every granted field has a meta with its privileges. -/
theorem AllGranted.exists_within {fs : List Field} {ks : List Pubkey} {ms : List AccountMeta}
    (h : AllGranted fs ks ms) :
    ∀ n ∈ List.zipWith Field.toMeta fs ks, ∃ m ∈ ms, n.Within m := by
  induction h with
  | nil => simp
  | @cons f fs k ks m ms hf _ ih =>
    intro n hn
    rcases List.mem_cons.mp hn with rfl | hn
    · exact ⟨m, List.mem_cons_self, hf.pubkey.symm, hf.signs, hf.writes⟩
    · obtain ⟨m', hm', hwithin⟩ := ih n hn
      exact ⟨m', List.mem_cons_of_mem m hm', hwithin⟩

/-- The metas of a structure grant it. -/
theorem allGranted_toAccountMetas (a : α) :
    AllGranted (Accounts.fields α) (Accounts.keys a) (toAccountMetas a) :=
  allGranted_toMetas (Accounts.keys_admitted a)

end Accounts

/-! ### Dispatch -/

/-- The discriminator of the handler with the given name. -/
def sighash (name : String) : List UInt8 :=
  (Sha256.digest (Sha256.ascii ("global:" ++ name))).take 8

@[simp] theorem sighash_length (name : String) : (sighash name).length = 8 := by
  simp [sighash]

/-- The first handler whose discriminator begins the data, and the bytes that follow it. -/
def dispatch {ι : Type} (discriminator : ι → List UInt8) (handlers : List ι)
    (data : List UInt8) : Option (ι × List UInt8) :=
  (handlers.find? fun i => (discriminator i).isPrefixOf data).map fun i => (i, data.drop 8)

/-- Among eight-byte discriminators without repetition, data that begins with one of them is
handed to its handler. -/
theorem dispatch_append {ι : Type} {discriminator : ι → List UInt8} {handlers : List ι}
    (hlen : ∀ i, (discriminator i).length = 8) (hnodup : (handlers.map discriminator).Nodup)
    {i : ι} (hi : i ∈ handlers) (args : List UInt8) :
    dispatch discriminator handlers (discriminator i ++ args) = some (i, args) := by
  have hfind : handlers.find? (fun j => (discriminator j).isPrefixOf (discriminator i ++ args))
      = some i := by
    induction handlers with
    | nil => cases hi
    | cons j handlers ih =>
      obtain ⟨hj, hnodup⟩ := List.nodup_cons.mp hnodup
      rcases List.mem_cons.mp hi with rfl | hi
      · have hprefix : (discriminator i).isPrefixOf (discriminator i ++ args) = true :=
          List.isPrefixOf_iff_prefix.mpr (List.prefix_append _ _)
        simp [List.find?, hprefix]
      · have hne : discriminator i ≠ discriminator j := by
          intro heq
          exact hj (heq ▸ List.mem_map_of_mem hi)
        have hprefix : ¬ (discriminator j) <+: (discriminator i ++ args) := by
          intro h
          have htake := List.prefix_iff_eq_take.mp h
          rw [hlen, List.take_left' (hlen i)] at htake
          exact hne htake.symm
        simp only [List.find?, ih hnodup hi,
          mt List.isPrefixOf_iff_prefix.mp hprefix]
  have hdrop : (discriminator i ++ args).drop 8 = args := List.drop_left' (hlen i)
  simp [dispatch, hfind, hdrop]

/-- Data is handed to a handler exactly when it begins with the handler's discriminator. -/
theorem dispatch_eq_some {ι : Type} {discriminator : ι → List UInt8} {handlers : List ι}
    (hlen : ∀ i, (discriminator i).length = 8) (hnodup : (handlers.map discriminator).Nodup)
    {i : ι} {data args : List UInt8} :
    dispatch discriminator handlers data = some (i, args) ↔
      i ∈ handlers ∧ data = discriminator i ++ args := by
  constructor
  · intro h
    obtain ⟨j, hfind, hpair⟩ := Option.map_eq_some_iff.mp h
    cases hpair
    have hprefix : discriminator i <+: data :=
      List.isPrefixOf_iff_prefix.mp
      (List.find?_some (p := fun j => (discriminator j).isPrefixOf data)
        hfind)
    obtain ⟨tail, rfl⟩ := hprefix
    rw [List.drop_left' (hlen i)]
    exact ⟨List.mem_of_find?_eq_some hfind, rfl⟩
  · rintro ⟨hi, rfl⟩
    exact dispatch_append hlen hnodup hi args

end Solana
