/-!
# Words, addresses and byte strings

The quantities of the machine being traced: 256-bit words, 160-bit addresses and
strings of bytes.

## Main Definitions

* `Word`, `Address`, `Bytes`; `Word.size`, the number of words
* `Word.checkedAdd`, `Word.checkedSub`, `Word.checkedMul` — `none` where the result
  does not fit
* `Word.saturate` and the saturating operations — the nearest word instead
* `Word.toAddress`, `Address.toWord` — trimming a word to an address and back
* `Bytes.wordAt` — the word read at an offset of a zero-extended byte string
* `Denomination.gweiToWei`, `Denomination.etherToWei`
* `Hex.digits`, `Hex.padded`, `Hex.ofBytes` — words, addresses and bytes as text

## Design Notes

Core addition and subtraction on `BitVec` wrap around.  Nothing in a trace may wrap, so
balances only ever move through the operations of this file, and each of them is pinned
down by one lemma on natural numbers.
-/

namespace ExecutionTrace

/-- A 256-bit machine word. -/
abbrev Word := BitVec 256

/-- The 160-bit address of an account. -/
abbrev Address := BitVec 160

/-- A string of bytes, first byte first. -/
abbrev Bytes := List UInt8

namespace Word

/-- The number of words. -/
abbrev size : Nat :=
  0x10000000000000000000000000000000000000000000000000000000000000000

theorem toNat_lt_size (w : Word) : w.toNat < size := w.isLt

/-! ## Checked arithmetic -/

/-- **Checked sum.** `none` where the sum exceeds the largest word. -/
def checkedAdd (a b : Word) : Option Word :=
  if a.uaddOverflow b then none else some (a + b)

/-- **Checked difference.** `none` where `b` is larger than `a`. -/
def checkedSub (a b : Word) : Option Word :=
  if a.usubOverflow b then none else some (a - b)

/-- **Checked product.** `none` where the product exceeds the largest word. -/
def checkedMul (a b : Word) : Option Word :=
  if a.umulOverflow b then none else some (a * b)

/-- A checked sum is the sum of the two numbers, and exists whenever that is a word. -/
theorem checkedAdd_eq_some_iff {a b c : Word} :
    checkedAdd a b = some c ↔ c.toNat = a.toNat + b.toNat := by
  have fits := c.isLt
  unfold checkedAdd BitVec.uaddOverflow
  split
  · rename_i overflow
    have overflow := of_decide_eq_true overflow
    constructor
    · simp
    · omega
  · rename_i overflow
    have overflow := of_decide_eq_false (Bool.eq_false_iff.2 overflow)
    rw [Option.some.injEq, ← BitVec.toNat_inj, BitVec.toNat_add, Nat.mod_eq_of_lt (by omega)]
    exact eq_comm

/-- A checked difference undoes the addition of the subtrahend. -/
theorem checkedSub_eq_some_iff {a b c : Word} :
    checkedSub a b = some c ↔ c.toNat + b.toNat = a.toNat := by
  unfold checkedSub BitVec.usubOverflow
  split
  · rename_i overflow
    have overflow := of_decide_eq_true overflow
    constructor
    · simp
    · omega
  · rename_i overflow
    have overflow := of_decide_eq_false (Bool.eq_false_iff.2 overflow)
    have covered : b ≤ a := BitVec.le_def.2 (by omega)
    rw [Option.some.injEq, ← BitVec.toNat_inj, BitVec.toNat_sub_of_le covered]
    omega

theorem checkedAdd_eq_none_iff {a b : Word} :
    checkedAdd a b = none ↔ size ≤ a.toNat + b.toNat := by
  simp [checkedAdd, BitVec.uaddOverflow]

theorem checkedSub_eq_none_iff {a b : Word} :
    checkedSub a b = none ↔ a.toNat < b.toNat := by
  simp [checkedSub, BitVec.usubOverflow]

/-! ## Saturating arithmetic -/

/-- The word nearest to a natural number: the number itself where it fits, otherwise the
largest word. -/
def saturate (n : Nat) : Word :=
  if n < size then BitVec.ofNat 256 n else BitVec.allOnes 256

theorem toNat_saturate (n : Nat) : (saturate n).toNat = min n (size - 1) := by
  unfold saturate size
  split
  · rw [BitVec.toNat_ofNat, Nat.mod_eq_of_lt ‹_›]; omega
  · rw [BitVec.toNat_allOnes]; omega

/-- **Saturating sum.** -/
def saturatingAdd (a b : Word) : Word :=
  saturate (a.toNat + b.toNat)

/-- **Saturating difference.** Zero where `b` is larger than `a`. -/
def saturatingSub (a b : Word) : Word :=
  saturate (a.toNat - b.toNat)

/-- **Saturating product.** -/
def saturatingMul (a b : Word) : Word :=
  saturate (a.toNat * b.toNat)

/-! ## Addresses -/

/-- **Trimming.** The low 20 bytes of a word. -/
def toAddress (w : Word) : Address :=
  w.setWidth 160

/-- The word of a 64-bit quantity. -/
def ofUInt64 (n : UInt64) : Word :=
  BitVec.ofNat 256 n.toNat

/-- A 64-bit quantity is a word as it is. -/
theorem toNat_ofUInt64 (n : UInt64) : (ofUInt64 n).toNat = n.toNat := by
  rw [ofUInt64, BitVec.toNat_ofNat]
  exact Nat.mod_eq_of_lt (Nat.lt_trans n.toNat_lt (by decide))

/-- The word of a truth value, as a call pushes it: one for success, zero for failure. -/
def ofBool (b : Bool) : Word :=
  if b then 1 else 0

end Word

/-- The word of an address, its upper 12 bytes being zero. -/
def Address.toWord (a : Address) : Word :=
  a.setWidth 256

theorem Address.toAddress_toWord (a : Address) : Word.toAddress (Address.toWord a) = a := by
  simp [Word.toAddress, Address.toWord]

namespace Bytes

/-- The number a byte string spells, most significant byte first. -/
def bigEndian (bytes : Bytes) : Nat :=
  bytes.foldl (fun n b => 256 * n + b.toNat) 0

/-- **Padded window.** The 32 bytes from `offset` on, the string being continued by
zeros without end. -/
def window (bytes : Bytes) (offset : Nat) : Bytes :=
  let available := (bytes.drop offset).take 32
  available ++ List.replicate (32 - available.length) 0

theorem length_window (bytes : Bytes) (offset : Nat) : (window bytes offset).length = 32 := by
  simp only [window, List.length_append, List.length_take, List.length_drop,
    List.length_replicate]
  omega

/-- The word spelled by the padded window at `offset`. -/
def wordAt (bytes : Bytes) (offset : Nat) : Word :=
  BitVec.ofNat 256 (bigEndian (window bytes offset))

end Bytes

/-! ## Denominations

An amount of gwei or ether whose value in wei is no word has no conversion. -/

namespace Denomination


/-- One gwei in wei, and one ether in gwei. -/
def billion : Word := 1000000000

/-- An amount of gwei in wei. -/
def gweiToWei (amount : Word) : Option Word :=
  Word.checkedMul amount billion

/-- An amount of ether in wei, by way of gwei. -/
def etherToWei (amount : Word) : Option Word :=
  (Word.checkedMul amount billion).bind gweiToWei

end Denomination

/-! ## Hexadecimal text

Lower-case digits, without any leading marker: as few as possible, at a fixed width, or two to a
byte. -/

namespace Hex


/-- The shortest digits of a number; a single zero for zero. -/
def digits (n : Nat) : String :=
  String.ofList (Nat.toDigits 16 n)

/-- The digits of a number, extended on the left by zeros to at least `width`. -/
def padded (width n : Nat) : String :=
  let shortest := Nat.toDigits 16 n
  String.ofList (List.replicate (width - shortest.length) '0' ++ shortest)

/-- Two digits to a byte. -/
def ofBytes (bytes : Bytes) : String :=
  String.join (bytes.map fun b => padded 2 b.toNat)

end Hex

/-- The 40 digits of an address. -/
def Address.hex (a : Address) : String :=
  Hex.padded 40 a.toNat

end ExecutionTrace
