import ExecutionTrace.Export.Row
import ExecutionTrace.Section.Call

/-!
# Exported state

The exported form of what a trace is built from, of accounts, deployments and transactions, and of
the traces that sections are built into.

## Main Definitions

* `Account.toValue`, `Incarnations.toValue`, `Transaction.toValue`
* `Trace.toValue`
-/

namespace ExecutionTrace

open Value

def Account.toValue (a : Account) : Value :=
  record
    [("balance", ofWord a.balance),
     ("nonce", ofUInt64 a.nonce),
     ("code", ofBytes a.code),
     ("has_code", bool a.hasCode)]

/-- The exported form of the deployments to one address. -/
def Incarnations.toValue (t : Incarnations) (a : Address) : Value :=
  record
    [("number", Value.number (t.number a)),
     ("status", bool (t.isDeploying a)),
     ("init_code", ofOption ofBytes (t.initCode? a))]

def Transaction.toValue (tx : Transaction) : Value :=
  record
    [("sender", ofAddress tx.sender),
     ("recipient", ofAddress tx.recipient),
     ("coinbase", ofAddress tx.coinbase),
     ("value", ofWord tx.value),
     ("gas_limit", ofUInt64 tx.gasLimit),
     ("effective_gas_price", ofWord tx.gasPrice),
     ("base_fee", ofWord tx.baseFee),
     ("is_deployment", bool tx.isDeployment),
     ("payload", ofBytes tx.payload),
     ("sender_pre_warmed", bool tx.senderPreWarmed),
     ("recipient_pre_warmed", bool tx.recipientPreWarmed)]

/-- The two ends of a transition. -/
def Transition.toValue (t : Transition) : Value :=
  ofList Snapshot.toValue [t.before, t.after]

def Parties.toValue (p : Parties) : Value :=
  record [("caller", p.caller.toValue), ("callee", p.callee.toValue)]

/-! ## Traces -/

def SharedValues.toValue (v : SharedValues) : Value :=
  record
    [("hub_stamp", number v.stamp),
     ("context_number", number v.context),
     ("gas_paid_out_of_pocket", ofUInt64 v.forwardedGas),
     ("child_stipend", ofOption ofUInt64 v.stipend?)]

/-- **The exported form of a section's trace.** -/
def Trace.toValue (t : Trace) : Value :=
  record [("common", t.shared.toValue), ("fragments", ofList Row.toValue t.rows)]

end ExecutionTrace
