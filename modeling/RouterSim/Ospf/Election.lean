namespace RouterSim.Ospf

inductive InterfaceState
  | down | loopback | waiting | pointToPoint | drOther | backup | designated
  deriving DecidableEq

structure ElectionRouter where
  electionIdentity : BitVec 32 := 0#32
  routerId : BitVec 32 := 0#32
  declaredDr : BitVec 32 := 0#32
  declaredBdr : BitVec 32 := 0#32
  priority : BitVec 8 := 0#8
  twoWayOrGreater : Bool := false
  isLocal : Bool := false
  deriving DecidableEq

structure DrBdrElection where
  designatedRouter : BitVec 32 := 0#32
  backupDesignatedRouter : BitVec 32 := 0#32
  localState : InterfaceState := .drOther

/-- A router with its place among the candidates, which stands for its address. -/
abbrev ElectionRow := ElectionRouter × Nat

def better (candidate : ElectionRow) : Option ElectionRow → Bool
  | none => true
  | some current =>
    decide (current.1.priority < candidate.1.priority) ||
      (candidate.1.priority == current.1.priority &&
        decide (current.1.routerId < candidate.1.routerId))

def eligible (router : ElectionRouter) : Bool :=
  router.priority != 0#8 && (router.isLocal || router.twoWayOrGreater)

structure ElectionPair where
  designated : Option ElectionRow
  backup : Option ElectionRow

/-- The best candidates met so far. -/
structure ElectionScan where
  declaredBackup : Option ElectionRow := none
  fallbackBackup : Option ElectionRow := none
  declaredDesignated : Option ElectionRow := none

/-- Look at one row, with declarations read from its projection. A router that
declares itself DR is no candidate for BDR. -/
def ElectionScan.consider (project : ElectionRouter → ElectionRouter) (s : ElectionScan)
    (source : ElectionRow) : ElectionScan :=
  let router := project source.1
  if !eligible router then s
  else if router.declaredDr == router.electionIdentity then
    { s with
      declaredDesignated :=
        if better source s.declaredDesignated then some source else s.declaredDesignated }
  else
    { s with
      fallbackBackup := if better source s.fallbackBackup then some source else s.fallbackBackup
      declaredBackup :=
        if router.declaredBdr == router.electionIdentity && better source s.declaredBackup then
          some source else s.declaredBackup }

/-- One pass over the candidates. -/
def oneElection (project : ElectionRouter → ElectionRouter) (rows : List ElectionRow) :
    ElectionPair :=
  let s := rows.foldl (ElectionScan.consider project) {}
  let backup := s.declaredBackup.or s.fallbackBackup
  { designated := s.declaredDesignated.or backup, backup }

/-- The row is this very one. -/
def same (row : Option ElectionRow) (other : ElectionRow) : Bool := row.any (·.2 == other.2)

def identityOf (row : Option ElectionRow) : BitVec 32 :=
  match row with
  | some row => row.1.electionIdentity
  | none => 0#32

def roleIn (pair : ElectionPair) (row : ElectionRow) : InterfaceState :=
  if same pair.designated row then .designated
  else if same pair.backup row then .backup
  else .drOther

def declaredRole (router : ElectionRouter) : InterfaceState :=
  if router.declaredDr == router.electionIdentity then .designated
  else if router.declaredBdr == router.electionIdentity then .backup
  else .drOther

/-- The local declarations that go with a role. -/
def projectLocal (role : InterfaceState) (router : ElectionRouter) : ElectionRouter :=
  if router.isLocal then
    { router with
      declaredDr := if role = .designated then router.electionIdentity else 0#32
      declaredBdr := if role = .backup then router.electionIdentity else 0#32 }
  else router

def electDrBdr (routers : List ElectionRouter) : DrBdrElection :=
  let rows := routers.zipIdx
  let first := oneElection id rows
  match rows.find? (·.1.isLocal) with
  | none =>
    { designatedRouter := identityOf first.designated
      backupDesignatedRouter := identityOf first.backup }
  | some row =>
    if !eligible row.1 then
      { designatedRouter := identityOf first.designated
        backupDesignatedRouter := identityOf first.backup }
    else
      -- The election is repeated when this router's role changes.
      let final := if roleIn first row ≠ declaredRole row.1 then
        oneElection (projectLocal (roleIn first row)) rows else first
      { designatedRouter := identityOf final.designated
        backupDesignatedRouter := identityOf final.backup, localState := roleIn final row }

end RouterSim.Ospf
