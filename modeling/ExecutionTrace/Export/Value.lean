import ExecutionTrace.Arithmetic.Keccak

/-!
# Exported values

The form in which a trace is handed to whatever consumes it: a tree of numbers, texts, lists
and records.  Words are texts of their shortest hexadecimal digits, addresses and digests
texts of all their digits, and everything up to 64 bits is a number.
-/

namespace ExecutionTrace

/-- **An exported value.** -/
inductive Value
  | null
  | bool (b : Bool)
  | number (n : Nat)
  | text (s : String)
  | list (items : List Value)
  | record (fields : List (String × Value))

namespace Value

/-- A record of one field: the variant of a sum, and what it carries. -/
def variant (name : String) (content : Value) : Value :=
  record [(name, content)]

/-- The value, or nothing. -/
def ofOption {α : Type} (encode : α → Value) : Option α → Value
  | some a => encode a
  | none => null

def ofList {α : Type} (encode : α → Value) (items : List α) : Value :=
  list (items.map encode)

def ofUInt64 (n : UInt64) : Value :=
  number n.toNat

/-- Hexadecimal digits behind their marker. -/
def hex (digits : String) : Value :=
  text ("0x" ++ digits)

def ofWord (w : Word) : Value :=
  hex (Hex.digits w.toNat)

def ofAddress (a : Address) : Value :=
  hex a.hex

def ofDigest (d : Digest) : Value :=
  hex (Hex.padded 64 d.toNat)

/-- A byte string as one text. -/
def ofBytes (bs : Bytes) : Value :=
  hex (Hex.ofBytes bs)

/-- A byte string as a list of numbers, which is how rows carry data. -/
def ofByteList (bs : Bytes) : Value :=
  ofList (fun b => number b.toNat) bs

end Value

end ExecutionTrace
