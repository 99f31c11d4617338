import ExecutionTrace.Announcement.Invocation
import Mathlib.Algebra.Group.Nat.Defs
import Mathlib.Logic.Basic

/-!
# The stack of an announced call

A call instruction that takes a value finds it between its callee and the spans of its memory; for
any other one the spans stand one place higher.  Writers and readers of the stack go by slots, and
the stack is the layout of one operand to each slot: writing a slot replaces its operand, and
reading it gives the operand back.

## Main Definitions

* `Slot.Placed` — the slots that an instruction of a kind has
* `Operands`, `Operands.items` — the operands of an instruction, and their layout on the stack
* `Operands.getElem?_items`, `Operands.set_items` — reading and writing a slot of the layout
* `Invocation.amendments_agree` — what the stack says of an announcement that has been amended

## Design Notes

An instruction that takes no value has no value slot, and the index of that slot is the place of
another one there.  So the two laws of the layout are about placed slots only, and operands keep a
value that the layout may leave out.
-/

namespace ExecutionTrace

/-- Trimming a word keeps its 20 lowest bytes. -/
theorem Word.toNat_toAddress (w : Word) : w.toAddress.toNat = w.toNat % 2 ^ 160 :=
  BitVec.toNat_setWidth ..

/-- An instruction of this kind has the slot. -/
def Slot.Placed (kind : CallKind) (slot : Slot) : Prop :=
  slot = .value → kind.takesValue = true

/-! ## Operands -/

/-- **The operands of a call instruction**, each as a word. -/
structure Operands where
  gas : Word
  address : Word
  value : Word
  dataOffset : Word
  dataLength : Word
  returnOffset : Word
  returnLength : Word

namespace Operands

/-- **The layout of the operands on the stack**, top first. -/
def items (o : Operands) (kind : CallKind) : List Word :=
  [o.gas, o.address] ++ (if kind.takesValue then [o.value] else []) ++
    [o.dataOffset, o.dataLength, o.returnOffset, o.returnLength]

/-- The operand in a slot. -/
def get (o : Operands) : Slot → Word
  | .address => o.address
  | .value => o.value
  | .dataOffset => o.dataOffset
  | .dataLength => o.dataLength
  | .returnOffset => o.returnOffset
  | .returnLength => o.returnLength

/-- The operands with another one in a slot. -/
def set (o : Operands) (item : Word) : Slot → Operands
  | .address => { o with address := item }
  | .value => { o with value := item }
  | .dataOffset => { o with dataOffset := item }
  | .dataLength => { o with dataLength := item }
  | .returnOffset => { o with returnOffset := item }
  | .returnLength => { o with returnLength := item }

variable {kind : CallKind}

/-- The stack holds as many items as the instruction consumes. -/
theorem length_items (o : Operands) (kind : CallKind) : (o.items kind).length = kind.arity := by
  cases kind <;> rfl

/-- **A slot of the layout holds its operand.** -/
theorem getElem?_items (o : Operands) (slot : Slot) (placed : slot.Placed kind) :
    (o.items kind)[slot.index kind]? = some (o.get slot) := by
  cases slot with
  | value =>
      rw [items, placed rfl]
      rfl
  | _ => cases kind <;> rfl

/-- **Writing a slot of the layout replaces its operand** and no other one. -/
theorem set_items (o : Operands) (slot : Slot) (placed : slot.Placed kind) (item : Word) :
    (o.items kind).set (slot.index kind) item = (o.set item slot).items kind := by
  cases slot with
  | value =>
      rw [items, items, placed rfl]
      rfl
  | _ => cases kind <;> rfl

theorem index_lt_length_items (o : Operands) (slot : Slot) (placed : slot.Placed kind) :
    slot.index kind < (o.items kind).length :=
  (List.getElem?_eq_some_iff.1 (o.getElem?_items slot placed)).1

end Operands

/-! ## Announcements by their operands -/

namespace Invocation

/-- The announcement with these operands on its stack. -/
def withOperands (i : Invocation) (o : Operands) : Invocation :=
  { i with stack := o.items i.kind }

variable {i : Invocation} {o : Operands}

/-- An item is read where the stack holds it. -/
theorem item_eq (slot : Slot) {w : Word} (found : i.stack[slot.index i.kind]? = some w) :
    i.item slot = .ok w := by
  rw [item, found]
  rfl

theorem setItem_eq (slot : Slot) (deep : slot.index i.kind < i.stack.length) (w : Word) :
    i.setItem slot w = some { i with stack := i.stack.set (slot.index i.kind) w } :=
  if_pos deep

theorem item_withOperands (slot : Slot) (placed : slot.Placed i.kind) :
    (i.withOperands o).item slot = .ok (o.get slot) :=
  item_eq slot (o.getElem?_items slot placed)

theorem setItem_withOperands (slot : Slot) (placed : slot.Placed i.kind) (w : Word) :
    (i.withOperands o).setItem slot w = some (i.withOperands (o.set w slot)) := by
  have written := setItem_eq (i := i.withOperands o) slot (o.index_lt_length_items slot placed) w
  rw [written, withOperands, withOperands, ← o.set_items slot placed]

/-! ### Amendments -/

theorem withCallData_withOperands (callData : Bytes) :
    (i.withOperands o).withCallData callData =
      some ({ i with callData }.withOperands
        { o with dataLength := BitVec.ofNat 256 callData.length }) :=
  setItem_withOperands (i := { i with callData }) .dataLength nofun _

theorem withReturnSpan_withOperands (offset length : UInt64) :
    (i.withOperands o).withReturnSpan offset length =
      some (i.withOperands
        { o with
          returnOffset := Word.ofUInt64 offset
          returnLength := Word.ofUInt64 length }) := by
  rw [withReturnSpan, setItem_withOperands .returnOffset nofun]
  exact setItem_withOperands .returnLength nofun _

/-! ### What an announcement says -/

/-- The callee is what is left of the word in its place. -/
theorem callee_eq {w : Word} (found : i.stack[1]? = some w) : i.callee = .ok w.toAddress := by
  rw [callee, rawCallee, item_eq .address found]
  rfl

theorem callee_withOperands : (i.withOperands o).callee = .ok o.address.toAddress :=
  callee_eq (o.getElem?_items .address nofun)

/-- An instruction that takes no value has the value zero, whatever its operands. -/
theorem value_withOperands :
    (i.withOperands o).value = .ok (if i.kind.takesValue then o.value else 0) := by
  have read : (i.withOperands o).value =
      if i.kind.takesValue then (i.withOperands o).item .value else .ok 0 := rfl
  rw [read]
  split
  · rename_i takes
    exact item_withOperands .value fun _ => takes
  · rfl

theorem callDataSpan_withOperands :
    (i.withOperands o).callDataSpan = .ok (Span.ofWords o.dataOffset o.dataLength) := by
  rw [callDataSpan, item_withOperands .dataOffset nofun, item_withOperands .dataLength nofun]
  rfl

theorem returnSpan_withOperands :
    (i.withOperands o).returnSpan = .ok (Span.ofWords o.returnOffset o.returnLength) := by
  rw [returnSpan, item_withOperands .returnOffset nofun, item_withOperands .returnLength nofun]
  rfl

/-! ## Well-formed announcements -/

/-- The operands of a well-formed announcement. -/
def plainOperands (callee : Address) (value : Word) : Operands where
  gas := Word.ofUInt64 defaultGas
  address := callee.toWord
  value := value
  dataOffset := 0
  dataLength := 0
  returnOffset := 0
  returnLength := 32

/-- The operands of a well-formed announcement that has been given call data and a place for the
result. -/
def amendedOperands (callee : Address) (value : Word) (callData : Bytes) (offset length : UInt64) :
    Operands :=
  { plainOperands callee value with
    dataLength := BitVec.ofNat 256 callData.length
    returnOffset := Word.ofUInt64 offset
    returnLength := Word.ofUInt64 length }

variable (kind : CallKind) (callee : Address) (value : Word) (callData : Bytes)
  (offset length : UInt64)

theorem make_eq :
    make kind callee value = (make kind callee value).withOperands (plainOperands callee value) :=
  rfl

/-- A well-formed announcement that has been given call data and a place for the result. -/
def amended : Invocation :=
  { make kind callee value with callData }.withOperands
    (amendedOperands callee value callData offset length)

theorem withReturnSpan_withCallData :
    ((make kind callee value).withCallData callData).bind (·.withReturnSpan offset length) =
      some (amended kind callee value callData offset length) := by
  rw [make_eq, withCallData_withOperands]
  exact withReturnSpan_withOperands offset length

theorem withCallData_withReturnSpan :
    ((make kind callee value).withReturnSpan offset length).bind (·.withCallData callData) =
      some (amended kind callee value callData offset length) := by
  rw [make_eq, withReturnSpan_withOperands]
  exact withCallData_withOperands callData

/-- The call data that has been supplied starts at zero and is as long as it is. -/
theorem callDataSpan_amended (short : callData.length < 2 ^ 63) :
    ∃ span, (amended kind callee value callData offset length).callDataSpan = .ok span ∧
      span.offset.toNat = 0 ∧ span.length.toNat = callData.length := by
  refine ⟨_, callDataSpan_withOperands, Span.toNat_offset_ofWords_zero _, ?_⟩
  have fits : (BitVec.ofNat 256 callData.length).toNat = callData.length := by
    rw [BitVec.toNat_ofNat, Nat.mod_eq_of_lt (Nat.lt_trans short (by decide))]
  rw [Span.toNat_length_ofWords]
  exact (congrArg (min · Span.limit) fits).trans (Nat.min_eq_left (Nat.le_pred_of_lt short))

/-- The result goes where it has been said to, as far as spans reach. -/
theorem returnSpan_amended :
    ∃ span, (amended kind callee value callData offset length).returnSpan = .ok span ∧
      span.offset.toNat = (if length = 0 then 0 else min offset.toNat (2 ^ 63 - 1)) ∧
      span.length.toNat = min length.toNat (2 ^ 63 - 1) := by
  refine ⟨_, returnSpan_withOperands, ?_, ?_⟩
  · have none : (Word.ofUInt64 length).toNat = 0 ↔ length = 0 := by
      rw [Word.toNat_ofUInt64]
      exact UInt64.toNat_inj (b := 0)
    rw [Span.toNat_offset_ofWords]
    exact if_congr none rfl (congrArg (min · Span.limit) (Word.toNat_ofUInt64 offset))
  · rw [Span.toNat_length_ofWords]
    exact congrArg (min · Span.limit) (Word.toNat_ofUInt64 length)

/-- **Writers and readers of the stack agree.** Call data and a place for the result may be supplied
to a well-formed announcement in either order, and its stack keeps as many items as the instruction
consumes.  It says what the announcement was made of, where only an instruction that takes a value
has one: the call data starts at zero and is as long as it is, and the result goes where it was said
to, as far as spans reach, or nowhere if it may have no length.  Whatever word stands in the place
of the callee, the callee is its low 20 bytes. -/
theorem amendments_agree (short : callData.length < 2 ^ 63) :
    (make kind callee value).stack.length = kind.arity ∧
    (∃ i, ((make kind callee value).withCallData callData).bind
        (·.withReturnSpan offset length) = some i ∧
      ((make kind callee value).withReturnSpan offset length).bind
        (·.withCallData callData) = some i ∧
      i.kind = kind ∧ i.callData = callData ∧ i.stack.length = kind.arity ∧
      i.callee = .ok callee ∧
      i.value = .ok (if kind = .call ∨ kind = .callCode then value else 0) ∧
      (∃ span, i.callDataSpan = .ok span ∧
        span.offset.toNat = 0 ∧ span.length.toNat = callData.length) ∧
      ∃ span, i.returnSpan = .ok span ∧
        span.offset.toNat = (if length = 0 then 0 else min offset.toNat (2 ^ 63 - 1)) ∧
        span.length.toNat = min length.toNat (2 ^ 63 - 1)) ∧
    ∀ (i : Invocation) (w : Word), i.stack[1]? = some w →
      ∃ a, i.callee = .ok a ∧ a.toNat = w.toNat % 2 ^ 160 := by
  refine ⟨(plainOperands callee value).length_items kind,
    ⟨amended kind callee value callData offset length, ?_, ?_, rfl, rfl, ?_, ?_, ?_, ?_, ?_⟩, ?_⟩
  · exact withReturnSpan_withCallData ..
  · exact withCallData_withReturnSpan ..
  · exact (amendedOperands callee value callData offset length).length_items kind
  · exact callee_withOperands.trans (congrArg _ callee.toAddress_toWord)
  · exact value_withOperands.trans (congrArg _ (if_congr CallKind.takesValue_iff rfl rfl))
  · exact callDataSpan_amended _ _ _ _ _ _ short
  · exact returnSpan_amended ..
  · intro i w found
    exact ⟨w.toAddress, callee_eq found, w.toNat_toAddress⟩

/-- A static call has no value, and its result starts no higher than spans reach; a callee in which
every bit is set is the highest address. -/
theorem amendments_agree_on_static_call :
    ([1, 2, 3] : Bytes).length < 2 ^ 63 ∧
    (∃ i, ((make .staticCall 0xca11 5).withCallData [1, 2, 3]).bind
        (·.withReturnSpan 0xffffffffffffffff 32) = some i ∧
      i.stack.length = 6 ∧ i.callee = .ok 0xca11 ∧ i.value = .ok 0 ∧
      ∃ span, i.returnSpan = .ok span ∧
        span.offset.toNat = 2 ^ 63 - 1 ∧ span.length.toNat = 32) ∧
    ∃ a, { make .call 0 0 with stack := [0, BitVec.allOnes 256] : Invocation }.callee = .ok a ∧
      a.toNat = 2 ^ 160 - 1 := by
  have short : ([1, 2, 3] : Bytes).length < 2 ^ 63 := by decide
  obtain ⟨-, amended, trimmed⟩ :=
    amendments_agree .staticCall 0xca11 5 [1, 2, 3] 0xffffffffffffffff 32 short
  obtain ⟨i, made, -, -, -, deep, called, paid, -, span, returned, starts, reaches⟩ := amended
  obtain ⟨a, highest, isLast⟩ := trimmed
    { make .call 0 0 with stack := [0, BitVec.allOnes 256] } (BitVec.allOnes 256) rfl
  refine ⟨short, ⟨i, made, deep, called, paid, span, returned, ?_, ?_⟩, a, highest, ?_⟩
  · exact starts.trans (by decide +kernel)
  · exact reaches.trans (by decide +kernel)
  · exact isLast.trans (by decide +kernel)

end Invocation

end ExecutionTrace
