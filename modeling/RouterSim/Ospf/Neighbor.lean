import RouterSim.Ospf.Election

/-! The interface and neighbor state machines: pure transition functions that return the
next state with the actions its owner has to apply. -/
namespace RouterSim.Ospf

inductive NetworkType
  | pointToPoint | broadcast | nonBroadcast | pointToMultipoint | virtualLink
  deriving DecidableEq

def isMultiAccess (type : NetworkType) : Bool := type == .broadcast || type == .nonBroadcast

inductive InterfaceEvent
  | interfaceUp | waitTimer | backupSeen | neighborChange | loopIndication | unloopIndication
  | interfaceDown
  deriving DecidableEq

/-- The set of actions an interface transition asks for. -/
structure InterfaceActions where
  startHelloTimer : Bool := false
  startWaitTimer : Bool := false
  stopTimers : Bool := false
  sendHello : Bool := false
  electDrBdr : Bool := false
  resetInterface : Bool := false
  originateRouterLsa : Bool := false
  originateNetworkLsa : Bool := false

structure InterfaceTransition where
  state : InterfaceState
  actions : InterfaceActions := {}

def interfaceResetActions : InterfaceActions :=
  { stopTimers := true, resetInterface := true, originateRouterLsa := true }

def interfaceTransition (current : InterfaceState) (event : InterfaceEvent)
    (networkType : NetworkType) (routerPriority : BitVec 8) : InterfaceTransition :=
  if event = .interfaceDown then { state := .down, actions := interfaceResetActions }
  else if event = .loopIndication then { state := .loopback, actions := interfaceResetActions }
  else if current = .loopback then
    if event = .unloopIndication then { state := .down, actions := { originateRouterLsa := true } }
    else { state := current }
  else if current = .down then
    let started : InterfaceActions :=
      { startHelloTimer := true, sendHello := true, originateRouterLsa := true }
    if event ≠ .interfaceUp then { state := current }
    else if !isMultiAccess networkType then { state := .pointToPoint, actions := started }
    else if routerPriority = 0#8 then { state := .drOther, actions := started }
    else { state := .waiting, actions := { started with startWaitTimer := true } }
  else if !isMultiAccess networkType then { state := current }
  else if current = .waiting then
    -- A neighbor change while waiting does not end the wait timer.
    if event = .waitTimer ∨ event = .backupSeen then
      { state := current, actions := { electDrBdr := true } }
    else { state := current }
  else if (current = .drOther ∨ current = .backup ∨ current = .designated) ∧
      event = .neighborChange then
    { state := current, actions := { electDrBdr := true } }
  else { state := current }

inductive NeighborState
  | down | attempt | init | twoWay | exstart | exchange | loading | full
  deriving DecidableEq

def NeighborState.rank : NeighborState → Nat
  | .down => 0
  | .attempt => 1
  | .init => 2
  | .twoWay => 3
  | .exstart => 4
  | .exchange => 5
  | .loading => 6
  | .full => 7

def NeighborState.atLeast (s t : NeighborState) : Bool := decide (t.rank ≤ s.rank)

inductive NeighborEvent
  | start | helloReceived | twoWayReceived | negotiationDone | exchangeDone
  | badLinkStateRequest | loadingDone | adjacencyOk | sequenceNumberMismatch | oneWayReceived
  | killNeighbor | inactivityTimer | lowerLayerDown
  deriving DecidableEq

/-- The set of actions a neighbor transition asks for. -/
structure NeighborActions where
  sendHello : Bool := false
  resetInactivityTimer : Bool := false
  stopInactivityTimer : Bool := false
  clearAdjacency : Bool := false
  beginDatabaseExchange : Bool := false
  startSendingRequests : Bool := false
  notifyInterface : Bool := false
  deleteNeighbor : Bool := false
  deriving DecidableEq

def NeighborActions.union (a b : NeighborActions) : NeighborActions where
  sendHello := a.sendHello || b.sendHello
  resetInactivityTimer := a.resetInactivityTimer || b.resetInactivityTimer
  stopInactivityTimer := a.stopInactivityTimer || b.stopInactivityTimer
  clearAdjacency := a.clearAdjacency || b.clearAdjacency
  beginDatabaseExchange := a.beginDatabaseExchange || b.beginDatabaseExchange
  startSendingRequests := a.startSendingRequests || b.startSendingRequests
  notifyInterface := a.notifyInterface || b.notifyInterface
  deleteNeighbor := a.deleteNeighbor || b.deleteNeighbor

structure NeighborTransition where
  state : NeighborState
  actions : NeighborActions := {}

def adjacencyResetActions : NeighborActions :=
  { clearAdjacency := true, beginDatabaseExchange := true }

def downNeighbor (delete : Bool) : NeighborTransition where
  state := .down
  actions :=
    { stopInactivityTimer := true, clearAdjacency := true, notifyInterface := true,
      deleteNeighbor := delete }

/-- The rows of the table that depend on the current state. -/
def stateTransition (current : NeighborState) (event : NeighborEvent)
    (adjacencyRequired requestsPending : Bool) : NeighborTransition :=
  match current with
  | .attempt | .init =>
    if event = .twoWayReceived then
      if adjacencyRequired then
        { state := .exstart, actions := { beginDatabaseExchange := true, notifyInterface := true } }
      else { state := .twoWay, actions := { notifyInterface := true } }
    else { state := current }
  | .twoWay =>
    if event = .adjacencyOk ∧ adjacencyRequired then
      { state := .exstart, actions := { beginDatabaseExchange := true } }
    else { state := current }
  | .exstart =>
    if event = .negotiationDone then { state := .exchange }
    else if event = .adjacencyOk ∧ !adjacencyRequired then
      { state := .twoWay, actions := { clearAdjacency := true } }
    else { state := current }
  | .exchange =>
    if event = .exchangeDone then
      if requestsPending then { state := .loading, actions := { startSendingRequests := true } }
      else { state := .full, actions := { notifyInterface := true } }
    else if event = .adjacencyOk ∧ !adjacencyRequired then
      { state := .twoWay, actions := { clearAdjacency := true } }
    else { state := current }
  | .loading =>
    if event = .loadingDone then { state := .full, actions := { notifyInterface := true } }
    else if event = .adjacencyOk ∧ !adjacencyRequired then
      { state := .twoWay, actions := { clearAdjacency := true } }
    else { state := current }
  | .full =>
    if event = .adjacencyOk ∧ !adjacencyRequired then
      { state := .twoWay, actions := { clearAdjacency := true, notifyInterface := true } }
    else { state := current }
  | .down => { state := current }

def neighborTransition (current : NeighborState) (event : NeighborEvent)
    (adjacencyRequired requestsPending : Bool) : NeighborTransition :=
  if event = .killNeighbor ∨ event = .inactivityTimer ∨ event = .lowerLayerDown then
    downNeighbor (event = .killNeighbor)
  else if event = .helloReceived then
    if current = .down ∨ current = .attempt then
      { state := .init, actions := { resetInactivityTimer := true, notifyInterface := true } }
    else { state := current, actions := { resetInactivityTimer := true } }
  else if current = .down then
    if event = .start then
      { state := .attempt, actions := { sendHello := true, resetInactivityTimer := true } }
    else { state := current }
  else if event = .oneWayReceived ∧ current.atLeast .twoWay then
    { state := .init, actions := { clearAdjacency := true, notifyInterface := true } }
  else if event = .sequenceNumberMismatch ∨ event = .badLinkStateRequest then
    if current.atLeast .exchange then { state := .exstart, actions := adjacencyResetActions }
    else { state := current }
  else stateTransition current event adjacencyRequired requestsPending

/-- What a transition into ExStart asks for: a new exchange, unless the neighbor was
there already and nothing is asked. -/
def EntersExstart (before : NeighborState) (actions : NeighborActions) : Prop :=
  actions.beginDatabaseExchange = true ∧ actions.deleteNeighbor = false ∨
    before = .exstart ∧ actions.clearAdjacency = false ∧
      actions.beginDatabaseExchange = false ∧ actions.deleteNeighbor = false

variable {event : NeighborEvent} {required : Bool} {s : NeighborState}

theorem neighborTransition_exstart
    {pending : Bool} (h : (neighborTransition s event required pending).state = .exstart) :
    EntersExstart s (neighborTransition s event required pending).actions := by
  revert h
  unfold EntersExstart
  cases event <;> cases s <;> cases required <;> cases pending <;> decide

theorem neighborTransition_exstart_union
    (h : (neighborTransition (neighborTransition s .helloReceived required false).state event
      required false).state = .exstart) (way : event = .twoWayReceived ∨ event = .oneWayReceived) :
    EntersExstart s
      ((neighborTransition s .helloReceived required false).actions.union
        (neighborTransition (neighborTransition s .helloReceived required false).state event
          required false).actions) := by
  revert h
  unfold EntersExstart
  obtain rfl | rfl := way <;> cases s <;> cases required <;> decide

theorem neighborTransition_delete {pending : Bool} :
    (neighborTransition s event required pending).actions.deleteNeighbor =
      decide (event = .killNeighbor) := by
  cases event <;> cases s <;> cases required <;> cases pending <;> decide

end RouterSim.Ospf
