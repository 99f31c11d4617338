import ExecutionTrace.Section.Call

/-!
# Reactions of a call section

What a call section does when an event that it waits for happens.

## Main Definitions

* `CallSection.enterChild`, `CallSection.exitChild` — around the child context
* `CallSection.reEnter` — control is back in the caller, and the call is resolved
* `CallSection.finishOpcode` — an aborted call has executed
* `CallSection.rollBack` — the context of the call was rolled back
* `CallSection.close` — the transaction is over

## Design Notes

A reaction that fails may already have recorded something.  What it recorded stays, so
reactions that can do so act on the section as a state that survives the failure; those that
fail before they change anything are plain functions.
-/

namespace ExecutionTrace

/-- **A reaction**: a change of the section, which may fail half-way. -/
abbrev CallReaction := EStateM Violation CallSection Unit

namespace CallSection

/-- The parties once the value of the call has moved and the callee has become warm. -/
def transfer (c : CallSection) (before : Parties) : Except Violation Parties := do
  let callee := before.callee.warmedUp
  if c.kind.movesValue then
    let caller ← before.caller.debit c.value
    let callee ← callee.credit c.value
    return { caller, callee }
  else
    return { before with callee }

/-- **The child context has become active.** A call to a contract shows its effects now; the
rows of a call to a precompile are only known when control returns. -/
def enterChild (c : CallSection) : Except Violation CallSection :=
  match c.scenario with
  | .contractUndefined => do
      let before ← captured c.before? .contextEntry
      let after ← c.transfer before
      let rows := c.forwardRows ⟨before.caller, after.caller⟩
        (c.calleeTransition before after) true
      return { c.append (rows.map .account) with after? := some after }
  | .precompileUndefined => do
      let before ← captured c.before? .contextEntry
      let after ← c.transfer before
      return { c with after? := some after }
  | _ => throw (unexpected .contextEntry)

/-- **The child context is about to terminate.** -/
def exitChild (chain : Chain) (setting : Setting) (world : WorldState) (child : Nat)
    (c : CallSection) : Except Violation CallSection :=
  match c.scenario with
  | .contractUndefined =>
      let parties := Parties.canonical chain world setting.incarnations c.caller c.callee
      pure { c with childExit? := some parties }
  | _ => throw (unexpected (.contextExit child))

/-- **The instruction has executed** without spawning a context. -/
def finishOpcode (pushed? : Option Word) (c : CallSection) : Except Violation CallSection :=
  if c.scenario.isAbort then pure (c.push (pushed?.getD 0))
  else throw (unexpected .opcodeEnd)

/-! ## Steps of a reaction -/

/-- Moves the scenario one step forward. -/
def advanceTo (target : Scenario) : CallReaction := do
  set (← ofExcept ((← get).advance target))

/-- Moves the scenario to its counterpart after a rollback. -/
def advanceToWillRevert (event : Event) : CallReaction := do
  match (← get).scenario.willRevert? with
  | some target => advanceTo target
  | none => throw (unexpected event)

/-- Appends account rows. -/
def showRows (rows : List AccountRow) : CallReaction :=
  modify fun c => c.append (rows.map .account)

/-! ## Return to the caller -/

/-- A call to an account without code succeeds, or the driver is wrong. -/
def resolveExternal (before reEntry : Parties) (child : Frame) (outcome : ContextOutcome) :
    CallReaction := do
  unless outcome.success do
    throw (.successBitMismatch child.id false)
  advanceTo .externalSuccessWontRevert
  let c ← get
  showRows (c.forwardRows ⟨before.caller, reEntry.caller⟩ ⟨before.callee, reEntry.callee⟩ false)

/-- A call to a precompile shows its effects, and the caller receives what it returned. -/
def resolvePrecompile (before reEntry : Parties) (child : Frame) (outcome : ContextOutcome) :
    CallReaction := do
  advanceTo (if outcome.success then .precompileSuccessWontRevert else .precompileFailure)
  let c ← get
  showRows (c.forwardRows ⟨before.caller, reEntry.caller⟩ ⟨before.callee, reEntry.callee⟩ false)
  modify fun c =>
    { c with
      run? := c.run?.map fun run => run.resolve child.id outcome
      closing? := some (.updateReturnData c.shared.context child.id outcome.returnData) }

/-- A call to a contract: if the child failed, the transfer is undone while the callee stays
warm.  Both parties carry the deployment information of now. -/
def resolveContract (setting : Setting) (before : Parties) (child : Frame)
    (outcome : ContextOutcome) (event : Event) : CallReaction := do
  if outcome.success then
    advanceTo .contractSuccessWontRevert
  else
    advanceTo .contractFailureWontRevert
    let c ← get
    let after ← ofExcept (captured c.after? event)
    let current := fun s : Snapshot => s.withDeploymentFrom setting.incarnations
    let caller : Transition := ⟨before.caller, after.caller⟩
    let callee := ((c.calleeTransition before after).map current).reverse
    showRows (c.undoingRows child.revertStamp (caller.map current).reverse
      { callee with after := callee.after.warmedUp })

/-- **Control is back in the caller.** The success bit on the caller's stack agrees with the
outcome of the child, which the tracer has checked. -/
def reEnter (chain : Chain) (setting : Setting) (world : WorldState) (child : Frame)
    (outcome : ContextOutcome) : CallReaction := do
  let c ← get
  let event := .contextReEntry c.shared.context
  let before ← ofExcept (captured c.before? event)
  let reEntry := Parties.canonical chain world setting.incarnations c.caller c.callee
  set { c.push (Word.ofBool outcome.success) with reEntry? := some reEntry }
  match c.scenario with
  | .externalUndefined => resolveExternal before reEntry child outcome
  | .precompileUndefined => resolvePrecompile before reEntry child outcome
  | .contractUndefined => resolveContract setting before child outcome event
  | _ => throw (unexpected event)

/-! ## Rollback of the caller -/

/-- The undoing of a call that succeeded, between two pairs of snapshots, with the
deployment information that the rollback left behind. -/
def undo (c : CallSection) (revertStamp : Nat) (caller callee : Transition)
    (rolledBack : Parties) : List AccountRow :=
  c.undoingRows revertStamp
    (caller.map (·.withDeploymentOf rolledBack.caller)).reverse
    (callee.map (·.withDeploymentOf rolledBack.callee)).reverse

/-- **The context of the call, or one above it, was rolled back.** -/
def rollBack (chain : Chain) (setting : Setting) (world : WorldState) (frame : Frame) :
    CallReaction := do
  let c ← get
  let event := .rollback c.shared.context
  let rolledBack := Parties.canonical chain world setting.incarnations c.caller c.callee
  set { c with rolledBack? := some rolledBack }
  let before ← ofExcept (captured c.before? event)
  let undoing := RowStamp.undoing c.shared.stamp frame.revertStamp
  match c.scenario with
  | .abortWontRevert =>
      advanceToWillRevert event
      let after ← ofExcept (captured c.after? event)
      let callee : Transition := ⟨before.callee, after.callee⟩
      let current := callee.map (·.withDeploymentFrom setting.incarnations)
      showRows [current.reverse.row (undoing 2)]
  | .externalSuccessWontRevert =>
      advanceToWillRevert event
      let reEntry ← ofExcept (captured c.reEntry? event)
      showRows (c.undo frame.revertStamp ⟨before.caller, reEntry.caller⟩
        ⟨before.callee, reEntry.callee⟩ rolledBack)
  | .contractFailureWontRevert =>
      advanceToWillRevert event
      let reEntry ← ofExcept (captured c.reEntry? event)
      let callee : Transition := ⟨reEntry.callee, rolledBack.callee⟩
      showRows [callee.row (undoing 4)]
  | .contractSuccessWontRevert | .precompileSuccessWontRevert =>
      advanceToWillRevert event
      let after ← ofExcept (captured c.after? event)
      showRows (c.undo frame.revertStamp ⟨before.caller, after.caller⟩
        (c.calleeTransition before after) rolledBack)
  | .precompileFailure => pure ()
  | _ => throw (unexpected event)

/-! ## End of the transaction -/

/-- **The transaction is over**: appends the rows of a precompile and the closing row. -/
def close : CallReaction := do
  let c ← get
  let unresolved := .unresolvedScenario c.scenario c.shared.stamp
  if c.scenario.isUndefined then
    throw unresolved
  if c.scenario.isPrecompileCall then
    modify fun c => c.append ((c.run?.map PrecompileRun.rows).getD [])
  match c.closing? with
  | some row => modify fun c => { c.append [.context row] with closing? := none }
  | none => throw unresolved

end CallSection

end ExecutionTrace
