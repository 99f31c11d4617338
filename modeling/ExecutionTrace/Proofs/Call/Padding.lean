import ExecutionTrace.Section.PrecompileRun
import Mathlib.Algebra.BigOperators.Intervals
import Mathlib.Algebra.BigOperators.Ring.Finset
import Mathlib.Data.List.GetD

/-!
# Parameters in padded call data

Precompiles read their parameters off call data that is continued by zeros without end.  The word
at an offset is spelled by 32 bytes of this endless string, wherever the call data stops, so that
zeros at its end make no difference to what is read.

## Main Definitions

* `Bytes.extended` — a byte string, continued by zeros without end
* `Bytes.spelledAt` — the number that 32 bytes of an endless string spell
* `Bytes.toNat_wordAt` — a padded word is the number spelled in the extended string
* `PrecompileRun.modexp_reads_extended` — the sizes that modular exponentiation reads

## Design Notes

A word is read through a window of 32 bytes, which is cut from the call data as far as this reaches
and filled up.  `window_eq_map` says that the window shows the extended string, and nothing after it
looks at where the call data stops.
-/

namespace ExecutionTrace

namespace Bytes

/-! ## Endless strings -/

/-- **The byte string continued by zeros without end.** -/
def extended (bytes : Bytes) (position : Nat) : UInt8 :=
  bytes.getD position 0

/-- **The number that 32 bytes of an endless string spell** from an offset on, most significant byte
first. -/
def spelledAt (endless : Nat → UInt8) (offset : Nat) : Nat :=
  ∑ k ∈ Finset.range 32, (endless (offset + k)).toNat * 256 ^ (31 - k)

/-- Zeros at the end of a byte string make no difference to its extension. -/
theorem extended_append_zeros (bytes : Bytes) (n : Nat) :
    extended (bytes ++ List.replicate n 0) = extended bytes := by
  funext position
  unfold extended
  rcases Nat.lt_or_ge position bytes.length with within | beyond
  · exact List.getD_append _ _ _ _ within
  · rw [List.getD_append_right _ _ _ _ beyond, List.getD_eq_getElem?_getD,
      List.getElem?_getD_replicate_default_eq, List.getD_eq_default _ _ beyond]

/-- **A window shows the extended string.** -/
theorem window_eq_map (bytes : Bytes) (offset : Nat) :
    window bytes offset = (List.range 32).map fun k => extended bytes (offset + k) := by
  apply List.ext_getElem
  · rw [length_window, List.length_map, List.length_range]
  · intro k inside _
    rw [length_window] at inside
    simp only [window, List.getElem_append, List.getElem_map, List.getElem_range, extended]
    split
    · rename_i there
      simp only [List.length_take, List.length_drop] at there
      rw [List.getElem_take, List.getElem_drop, List.getD_eq_getElem _ _ (by omega)]
    · rename_i beyond
      simp only [List.length_take, List.length_drop] at beyond
      rw [List.getElem_replicate, List.getD_eq_default _ _ (by omega)]

/-! ## Numbers -/

theorem bigEndian_concat (bytes : Bytes) (b : UInt8) :
    bigEndian (bytes ++ [b]) = 256 * bigEndian bytes + b.toNat :=
  List.foldl_concat ..

/-- A byte string spells a number of as many digits. -/
theorem bigEndian_lt (bytes : Bytes) : bigEndian bytes < 256 ^ bytes.length := by
  induction bytes using List.reverseRecOn with
  | nil => exact Nat.one_pos
  | append_singleton bytes b ih =>
      have digit := b.toNat_lt
      rw [bigEndian_concat, List.length_append, List.length_singleton, Nat.pow_succ]
      omega

/-- The number that the first bytes of an endless string spell. -/
theorem bigEndian_map_range (endless : Nat → UInt8) (n : Nat) :
    bigEndian ((List.range n).map endless) =
      ∑ k ∈ Finset.range n, (endless k).toNat * 256 ^ (n - 1 - k) := by
  induction n with
  | zero => rfl
  | succ n ih =>
      have shifted : ∀ k ∈ Finset.range n, 256 * ((endless k).toNat * 256 ^ (n - 1 - k)) =
          (endless k).toNat * 256 ^ (n + 1 - 1 - k) := by
        intro k before
        have before := Finset.mem_range.1 before
        rw [Nat.mul_left_comm, ← Nat.pow_succ']
        congr 2
        omega
      rw [List.range_succ, List.map_append, List.map_singleton, bigEndian_concat, ih,
        Finset.mul_sum, Finset.sum_congr rfl shifted, Finset.sum_range_succ]
      simp

/-- **A padded word is the number spelled in the extended string**, wherever the byte string
stops. -/
theorem toNat_wordAt (bytes : Bytes) (offset : Nat) :
    (wordAt bytes offset).toNat = spelledAt (extended bytes) offset := by
  have fits : bigEndian (window bytes offset) < 2 ^ 256 := by
    have bounded := bigEndian_lt (window bytes offset)
    rw [length_window] at bounded
    exact bounded.trans_eq (Nat.pow_mul 2 8 32).symm
  rw [wordAt, BitVec.toNat_ofNat, Nat.mod_eq_of_lt fits, window_eq_map, bigEndian_map_range]
  rfl

/-- Zeros at the end of a byte string make no difference to the words in it. -/
theorem wordAt_append_zeros (bytes : Bytes) (n offset : Nat) :
    wordAt (bytes ++ List.replicate n 0) offset = wordAt bytes offset := by
  rw [wordAt, wordAt, window_eq_map, window_eq_map, extended_append_zeros]

end Bytes

/-! ## Modular exponentiation -/

namespace PrecompileRun

/-- **Zeros at the end of the call data make no difference** to the sizes. -/
theorem modexpParameters_append_zeros (callData : Bytes) (n : Nat) :
    modexpParameters (callData ++ List.replicate n 0) = modexpParameters callData := by
  simp only [modexpParameters, Bytes.wordAt_append_zeros]

/-- Sizes are within bounds if each of them is. -/
theorem withinBounds_modexpParameters (callData : Bytes) :
    let p := modexpParameters callData
    p.withinBounds = true ↔
      p.baseSize.toNat ≤ operandLimit ∧ p.exponentSize.toNat ≤ operandLimit ∧
        p.modulusSize.toNat ≤ operandLimit := by
  simp [modexpParameters]

/-- **Words are read from the call data as it is continued by zeros.** So are the three sizes of a
modular exponentiation, at the head of it; they are within bounds exactly if none of them exceeds
512, and any number of zeros may be left out or added at the end. -/
theorem modexp_reads_extended (callData : Bytes) (returnSpan : Span) :
    let spelled := Bytes.spelledAt (Bytes.extended callData)
    (∀ offset, (Bytes.wordAt callData offset).toNat = spelled offset) ∧
    ∃ run p, start? .modexp callData returnSpan = some run ∧ run.parameters = .modexp p ∧
      p.baseSize.toNat = spelled 0 ∧ p.exponentSize.toNat = spelled 32 ∧
      p.modulusSize.toNat = spelled 64 ∧
      (p.withinBounds = true ↔ spelled 0 ≤ 512 ∧ spelled 32 ≤ 512 ∧ spelled 64 ≤ 512) ∧
      ∀ n, (start? .modexp (callData ++ List.replicate n 0) returnSpan).map (·.parameters) =
        some (.modexp p) := by
  intro spelled
  have read : ∀ offset, (Bytes.wordAt callData offset).toNat = spelled offset :=
    Bytes.toNat_wordAt callData
  refine ⟨read, _, modexpParameters callData, rfl, rfl, read 0, read 32, read 64, ?_, ?_⟩
  · rw [← read 0, ← read 32, ← read 64]
    exact withinBounds_modexpParameters callData
  · intro n
    exact congrArg (some ∘ PrecompileParameters.modexp)
      (modexpParameters_append_zeros callData n)

/-- The third size is cut off after its first byte, and is far beyond what can be proved. -/
example : modexpParameters (List.replicate 31 0 ++ [1] ++ List.replicate 30 0 ++ [2, 0, 1]) =
    { baseSize := 1, exponentSize := 512, modulusSize := 2 ^ 248, withinBounds := false } := by
  decide +kernel

end PrecompileRun

end ExecutionTrace
