/-!
# Signals announced before a call

Two sets of flags, each a byte with one bit to a flag.  Bits that belong to no declared
flag are kept: they make a set nonempty without satisfying any of its predicates.
-/

namespace ExecutionTrace

/-- **Exceptions** raised by the instruction about to execute. -/
structure ExceptionFlags where
  bits : UInt8 := 0
  deriving DecidableEq, Repr

namespace ExceptionFlags

def none : ExceptionFlags := {}

def stackUnderflow : ExceptionFlags := ⟨1⟩
def stackOverflow : ExceptionFlags := ⟨2⟩

/-- A call carrying value in a static context. -/
def staticFault : ExceptionFlags := ⟨4⟩
def memoryExpansion : ExceptionFlags := ⟨8⟩
def outOfGas : ExceptionFlags := ⟨16⟩

/-- Some bit is set, declared or not. -/
def any (e : ExceptionFlags) : Bool :=
  e.bits != 0

/-- The two sets have a bit in common. -/
def meets (e f : ExceptionFlags) : Bool :=
  e.bits &&& f.bits != 0

/-- Every bit set belongs to a declared flag. -/
def Declared (e : ExceptionFlags) : Prop :=
  e.bits < 32

instance (e : ExceptionFlags) : Decidable e.Declared :=
  inferInstanceAs (Decidable (e.bits < 32))

def hasStackException (e : ExceptionFlags) : Bool :=
  e.meets stackUnderflow || e.meets stackOverflow

def hasStaticFault (e : ExceptionFlags) : Bool :=
  e.meets staticFault

def hasMemoryExpansion (e : ExceptionFlags) : Bool :=
  e.meets memoryExpansion

def hasOutOfGas (e : ExceptionFlags) : Bool :=
  e.meets outOfGas

end ExceptionFlags

/-- **Aborting conditions**, under which an unexceptional call spawns no context. -/
structure AbortFlags where
  bits : UInt8 := 0
  deriving DecidableEq, Repr

namespace AbortFlags

def none : AbortFlags := {}

def insufficientBalance : AbortFlags := ⟨1⟩
def callStackOverflow : AbortFlags := ⟨2⟩

/-- Some bit is set, declared or not. -/
def any (f : AbortFlags) : Bool :=
  f.bits != 0

/-- The bits of either set. -/
def union (f g : AbortFlags) : AbortFlags :=
  ⟨f.bits ||| g.bits⟩

/-- The set itself where a condition holds, and nothing otherwise. -/
def when (f : AbortFlags) (condition : Bool) : AbortFlags :=
  if condition then f else none

end AbortFlags

end ExecutionTrace
