import ExecutionTrace.Arithmetic.Keccak
import Std.Data.TreeMap
import Std.Data.TreeSet

/-!
# The world state

The accounts that exist, with their code, and the addresses accessed by the transaction in progress.

## Main Definitions

* `Account`, `Bytecode`
* `WorldState.account?`, `WorldState.isWarm` — all that can be observed of a world
* `WorldState.update` — changes one account, bringing it into existence if need be
* `WorldState.credit`, `WorldState.debit?` — the two halves of a transfer
* `WorldState.warmUp`, `WorldState.coolDown`

## Design Notes

A world is a value.  Keeping an earlier world is how a driver undoes what a failed context
did, so nothing has to be recorded for that.
-/

namespace ExecutionTrace

/-- **The observable state of an account.** -/
structure Account where
  balance : Word := 0
  nonce : UInt64 := 0
  code : Bytes := []
  deriving DecidableEq, Inhabited

def Account.hasCode (account : Account) : Bool :=
  !account.code.isEmpty

/-- **Contract code**, addressed by its digest.  Code is its bytes: the digest and the
size are read off them. -/
structure Bytecode where
  bytes : Bytes := []
  deriving DecidableEq, Inhabited

namespace Bytecode

def size (code : Bytecode) : Nat :=
  code.bytes.length

def isEmpty (code : Bytecode) : Bool :=
  code.bytes.isEmpty

/-- The digest of empty code, which is also the code hash of every account without code
and of every precompile. -/
def emptyHash : Digest :=
  0xc5d2460186f7233c927e7db2dcc703c0e500b653ca82273b7bfad8045d85a470

/-- The digest of the code. -/
def hash (code : Bytecode) : Digest :=
  if code.isEmpty then emptyHash else Keccak.digest code.bytes

end Bytecode

/-- **A world state.** -/
structure WorldState where
  accounts : Std.TreeMap Address Account := ∅
  warm : Std.TreeSet Address := ∅

namespace WorldState

/-- The account at an address, if one exists. -/
def account? (w : WorldState) (a : Address) : Option Account :=
  w.accounts[a]?

/-- The account at an address, or the empty account where none exists. -/
def account (w : WorldState) (a : Address) : Account :=
  (w.account? a).getD {}

/-- The balance at an address, zero where no account exists. -/
def balance (w : WorldState) (a : Address) : Word :=
  (w.account a).balance

/-- There is an account with code at the address. -/
def hasCode (w : WorldState) (a : Address) : Bool :=
  (w.account a).hasCode

/-- The address has been accessed by the transaction in progress. -/
def isWarm (w : WorldState) (a : Address) : Bool :=
  w.warm.contains a

/-- Puts an account at an address, replacing the one already there. -/
def insert (w : WorldState) (a : Address) (account : Account) : WorldState :=
  { w with accounts := w.accounts.insert a account }

/-- The world of the accounts listed, nothing being warm.  Of two accounts listed for one
address the later counts. -/
def ofList (accounts : List (Address × Account)) : WorldState :=
  accounts.foldl (fun w (a, account) => w.insert a account) {}

/-- Changes the account at an address, starting from the empty account if there is none. -/
def update (w : WorldState) (a : Address) (change : Account → Account) : WorldState :=
  w.insert a (change (w.account a))

def setBalance (w : WorldState) (a : Address) (balance : Word) : WorldState :=
  w.update a fun account => { account with balance }

def setNonce (w : WorldState) (a : Address) (nonce : UInt64) : WorldState :=
  w.update a fun account => { account with nonce }

def setCode (w : WorldState) (a : Address) (code : Bytes) : WorldState :=
  w.update a fun account => { account with code }

/-- Raises the nonce at an address by one. -/
def raiseNonce (w : WorldState) (a : Address) : WorldState :=
  w.update a fun account => { account with nonce := account.nonce + 1 }

/-- Adds an amount to the balance at an address, no further than to the largest word. -/
def credit (w : WorldState) (a : Address) (amount : Word) : WorldState :=
  w.setBalance a (Word.saturatingAdd (w.balance a) amount)

/-- Takes an amount from the balance at an address, or is `none` where it cannot pay. -/
def debit? (w : WorldState) (a : Address) (amount : Word) : Option WorldState :=
  (Word.checkedSub (w.balance a) amount).map (w.setBalance a)

/-- Records an access to an address. -/
def warmUp (w : WorldState) (a : Address) : WorldState :=
  { w with warm := w.warm.insert a }

/-- Forgets every access, as happens between transactions. -/
def coolDown (w : WorldState) : WorldState :=
  { w with warm := ∅ }

/-! ## What each change lets one observe -/

theorem account?_insert (w : WorldState) (a b : Address) (account : Account) :
    (w.insert a account).account? b = if a = b then some account else w.account? b := by
  simp [account?, insert, Std.TreeMap.getElem?_insert]

theorem account_update (w : WorldState) (a b : Address) (change : Account → Account) :
    (w.update a change).account b = if a = b then change (w.account a) else w.account b := by
  unfold update account
  rw [account?_insert]
  split <;> simp

@[simp]
theorem account?_warmUp (w : WorldState) (a b : Address) :
    (w.warmUp a).account? b = w.account? b := rfl

theorem isWarm_warmUp (w : WorldState) (a b : Address) :
    (w.warmUp a).isWarm b = (decide (a = b) || w.isWarm b) := by
  rw [Bool.eq_iff_iff]
  simp [isWarm, warmUp, Std.TreeSet.contains_insert]

end WorldState

end ExecutionTrace
