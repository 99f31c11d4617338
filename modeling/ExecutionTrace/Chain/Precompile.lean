import ExecutionTrace.Arithmetic.Word

/-!
# Chains and their precompiled contracts

The chains that can be traced, and the two limits on calls that they share.  Which precompiled
contracts exist, where they live, on which chains, and which family of handlers produces rows for
them.

## Main Definitions

* `Chain`; `maxCallDepth`, `callStipend`
* `Precompile`, `Precompile.all` — the catalogue, in order of address
* `Precompile.IsLive` — whether a precompile is deployed on a chain
* `Precompile.at?` — the live precompile at an address
* `Precompile.family?` — the handler family, for those that have one
-/

namespace ExecutionTrace

/-- A chain.  Chains differ in the precompiled contracts that are live on them. -/
inductive Chain
  | ethereum
  | erigonCdk
  | polygon
  deriving DecidableEq, Repr

/-- **Depth limit.** A context at this depth or deeper spawns no child. -/
def maxCallDepth : Nat := 1024

/-- **Call stipend.** The gas that the callee of a call carrying value receives on top
of what the caller forwards. -/
def callStipend : UInt64 := 2300

/-- A precompiled contract. -/
inductive Precompile
  | ecrecover
  | sha256
  | ripemd160
  | identity
  | modexp
  | bn128Add
  | bn128Mul
  | bn128Pairing
  | blake2f
  | pointEvaluation
  | p256Verify
  deriving DecidableEq, Repr

namespace Precompile

/-- **The catalogue.** -/
def all : List Precompile :=
  [ecrecover, sha256, ripemd160, identity, modexp, bn128Add, bn128Mul, bn128Pairing,
   blake2f, pointEvaluation, p256Verify]

/-- The number that the address of a precompile spells. -/
def index : Precompile → Nat
  | ecrecover => 0x01
  | sha256 => 0x02
  | ripemd160 => 0x03
  | identity => 0x04
  | modexp => 0x05
  | bn128Add => 0x06
  | bn128Mul => 0x07
  | bn128Pairing => 0x08
  | blake2f => 0x09
  | pointEvaluation => 0x0a
  | p256Verify => 0x100

def address (p : Precompile) : Address :=
  BitVec.ofNat 160 p.index

/-- The name of a precompile as rows and messages spell it. -/
def name : Precompile → String
  | ecrecover => "ECRECOVER"
  | sha256 => "SHA256"
  | ripemd160 => "RIPEMD160"
  | identity => "IDENTITY"
  | modexp => "MODEXP"
  | bn128Add => "ALT_BN128_ADD"
  | bn128Mul => "ALT_BN128_MUL"
  | bn128Pairing => "ALT_BN128_PAIRING"
  | blake2f => "BLAKE2F_COMPRESSION"
  | pointEvaluation => "POINT_EVALUATION"
  | p256Verify => "P256_VERIFY"

/-- **Live precompiles.** The first nine are deployed everywhere, point evaluation on
Ethereum and Polygon, and P-256 verification on Polygon alone. -/
def IsLive (chain : Chain) : Precompile → Prop
  | pointEvaluation => chain ≠ .erigonCdk
  | p256Verify => chain = .polygon
  | _ => True

instance (chain : Chain) (p : Precompile) : Decidable (p.IsLive chain) := by
  cases p <;> unfold IsLive <;> infer_instance

/-- The live precompile at an address. -/
def at? (chain : Chain) (a : Address) : Option Precompile :=
  all.find? fun p => p.IsLive chain ∧ p.address = a

/-- The families of handlers that precompiles are dispatched to. -/
inductive Family
  | ellipticCurve
  | shaTwoOrRipemd
  | identity
  | modexp
  | blake
  deriving DecidableEq, Repr

/-- The family that handles a precompile.  Point evaluation and P-256 verification have
no handler, and a call to them contributes no rows of its own. -/
def family? : Precompile → Option Family
  | ecrecover | bn128Add | bn128Mul | bn128Pairing => some .ellipticCurve
  | sha256 | ripemd160 => some .shaTwoOrRipemd
  | identity => some .identity
  | modexp => some .modexp
  | blake2f => some .blake
  | pointEvaluation | p256Verify => none

end Precompile

/-- Whether a precompile is live at an address. -/
def Address.isPrecompile (chain : Chain) (a : Address) : Bool :=
  (Precompile.at? chain a).isSome

end ExecutionTrace
