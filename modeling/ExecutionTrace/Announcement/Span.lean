import ExecutionTrace.Arithmetic.Word

/-!
# Memory spans

The regions of memory that a call reads its data from and writes its result to.
-/

namespace ExecutionTrace

/-- **A region of memory.** -/
structure Span where
  offset : UInt64 := 0
  length : UInt64 := 0
  deriving DecidableEq, Inhabited

namespace Span

/-- The largest offset or length that a span can have. -/
def limit : Nat := 0x7fffffffffffffff

/-- A stack word as an offset or a length.  Anything beyond the limit has raised a memory
expansion exception long before, and counts as the limit. -/
def clamp (w : Word) : UInt64 :=
  UInt64.ofNat (min w.toNat limit)

/-- **The span of two stack words.** A span of length zero is empty whatever its offset,
and is written with offset zero. -/
def ofWords (offset length : Word) : Span :=
  if clamp length = 0 then {} else { offset := clamp offset, length := clamp length }

def isEmpty (s : Span) : Bool :=
  s.length == 0

theorem toNat_clamp (w : Word) : (clamp w).toNat = min w.toNat limit := by
  unfold clamp limit
  rw [UInt64.toNat_ofNat']
  omega

theorem toNat_length_ofWords (offset length : Word) :
    (ofWords offset length).length.toNat = min length.toNat limit := by
  unfold ofWords
  split
  · rename_i none
    rw [← toNat_clamp, none]
  · exact toNat_clamp length

/-- The offset of an empty span is not kept. -/
theorem toNat_offset_ofWords (offset length : Word) :
    (ofWords offset length).offset.toNat =
      if length.toNat = 0 then 0 else min offset.toNat limit := by
  have empty : clamp length = 0 ↔ length.toNat = 0 := by
    rw [← UInt64.toNat_inj, toNat_clamp, UInt64.toNat_zero, limit]
    omega
  unfold ofWords
  split
  · rename_i none
    rw [if_pos (empty.1 none)]
    rfl
  · rename_i some
    rw [if_neg (mt empty.2 some)]
    exact toNat_clamp offset

/-- A span that starts at zero still does so if it is empty. -/
theorem toNat_offset_ofWords_zero (length : Word) : (ofWords 0 length).offset.toNat = 0 := by
  rw [toNat_offset_ofWords]
  split
  · rfl
  · exact Nat.zero_min limit

end Span

end ExecutionTrace
