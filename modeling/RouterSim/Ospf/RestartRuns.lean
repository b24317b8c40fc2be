import RouterSim.Ospf.RestartProcess

/-! Every neighbor that waits in ExStart has a fresh exchange, in every run whose packets and
turns meet `keepsRestarts`. -/
namespace RouterSim.Ospf

open InstanceProcess

instance {neighbor : NeighborRuntime} {row : NeighborExchange} :
    Decidable (Restarted neighbor row) :=
  decidable_of_iff
    (row.negotiationComplete = false ∧ row.summaryCursor = 0 ∧ row.requestCursor = 0 ∧
      row.updateCursor = 0 ∧ (row.database.requests = [] ∧ row.database.retransmissions = [] ∧
        row.database.acknowledgments = []) ∧ neighbor.history.head? = some (.drew row.ddSequence))
    ⟨fun ⟨negotiation, summary, request, update, lists, sequence⟩ =>
        ⟨negotiation, summary, request, update, lists, sequence⟩,
      fun h => ⟨h.negotiation, h.summaryCursor, h.requestCursor, h.updateCursor, h.lists,
        h.sequence⟩⟩

/-- Every neighbor in ExStart has a row whose exchange has just been started. -/
def FreshInExstart (process : InstanceProcess) : Prop :=
  ∀ owner ∈ process.interfaces, ∀ neighbor ∈ owner.runtime.neighbors,
    neighbor.state = .exstart →
      ∃ row ∈ owner.exchanges, row.routerId = neighbor.routerId ∧ Restarted neighbor row

instance {process : InstanceProcess} : Decidable (FreshInExstart process) :=
  inferInstanceAs (Decidable (∀ owner ∈ process.interfaces, ∀ neighbor ∈ owner.runtime.neighbors,
    neighbor.state = .exstart →
      ∃ row ∈ owner.exchanges, row.routerId = neighbor.routerId ∧ Restarted neighbor row))

theorem Owned.fresh {inst : Instance} {owner : InterfaceOwner} (h : Owned inst NoOne owner)
    {neighbor : NeighborRuntime} (mem : neighbor ∈ owner.runtime.neighbors)
    (exstart : neighbor.state = .exstart) :
    ∃ row ∈ owner.exchanges, row.routerId = neighbor.routerId ∧ Restarted neighbor row := by
  have known : owner.runtime.neighbor? neighbor.routerId = some neighbor :=
    Table.lookup_of_mem h.nodup mem
  obtain ⟨row, found⟩ := h.row known
  exact ⟨row, Table.mem_of_lookup found, Table.key_of_lookup found,
    h.kept neighbor.routerId neighbor row id known found exstart⟩

/-- In every run whose operations meet `keepsRestarts`, a neighbor in ExStart has no old list,
cursor or negotiation left, and a sequence number drawn after it last left Exchange, Loading
or Full. -/
theorem exstart_restarts_exchange (routerId areaId : BitVec 32) (version : Version)
    (instanceId : BitVec 8) (sequence : BitVec 32) (interfaces neighbors lsas : Nat) (ops : List Op)
    (meets : Runs.Along step (fun process op => keepsRestarts process op = true)
      (create routerId areaId version instanceId sequence interfaces neighbors lsas) ops)
    (process : InstanceProcess)
    (reached : process = Runs.run step
      (create routerId areaId version instanceId sequence interfaces neighbors lsas) ops) :
    FreshInExstart process := by
  have standing : Standing NoOne process := by
    rw [reached]
    apply Runs.invariant_along (P := Standing NoOne) _ create_standing meets
    intro process op standing met
    exact step_standing standing (.inl met)
  intro owner mem neighbor known exstart
  exact (standing.owned owner mem).fresh known exstart

/-- Whatever arrives, the database stays readable and within its limit, and an interface has one
exchange for each neighbor it knows, with room for the whole database. -/
theorem exchanges_match_neighbors (routerId areaId : BitVec 32) (version : Version)
    (instanceId : BitVec 8) (sequence : BitVec 32) (interfaces neighbors lsas : Nat)
    (ops : List Op) :
    let process := Runs.run step
      (create routerId areaId version instanceId sequence interfaces neighbors lsas) ops
    (process.database.records.length ≤ process.maximumLsas ∧
      ∀ record ∈ process.database.records, (lsaHeader record.bytes process.version).isSome) ∧
    ∀ owner ∈ process.interfaces,
      owner.exchanges.map (·.routerId) = owner.runtime.neighbors.map (·.routerId) ∧
      (owner.runtime.neighbors.map (·.routerId)).Nodup ∧
      owner.runtime.neighbors.length ≤ process.maximumNeighborsPerInterface ∧
      ∀ row ∈ owner.exchanges, row.database.maximumSummaries = process.maximumLsas := by
  intro process
  have standing : Standing (fun _ => True) process :=
    Runs.invariant (fun _ _ h => step_standing h (.inr fun _ => trivial)) ops create_standing
  have database := standing.sound.database
  refine ⟨⟨standing.sound.capacity ▸ database.fits, database.headers⟩, fun owner mem => ?_⟩
  have owned := standing.owned owner mem
  exact ⟨owned.keys, owned.nodup, owned.fits, owned.summaries⟩

/-- A point-to-point interface of router 1.1.1.1. -/
def linkOf (interfaceId address : BitVec 32) : ProcessInterfaceConfiguration where
  protocol :=
    { routerId := 0x01010101#32, areaId := 0#32, interfaceId, helloIntervalSeconds := 10#16,
      deadIntervalSeconds := 40#16, interfaceMtu := 1500#16, version := .two,
      networkType := .pointToPoint, enabled := true }
  ipv4Source := address
  retransmitIntervalSeconds := 5#16
  transmitDelaySeconds := 1#16
  physicalPortOrdinal := 1#16

/-- A packet of router 2.2.2.2 on the first interface. -/
def fromFirst (body : PacketBody) (at' : Nat) : Op :=
  .receive 1#32 { routerId := 0x02020202#32, areaId := 0#32, version := .two, body }
    { ipv4 := 0x0a000002#32 } (seconds at')

/-- A Hello that lists router 1.1.1.1. -/
def heardHello : PacketBody :=
  .hello (some
    { neighbors := [0x01010101#32], deadIntervalSeconds := 40#32, helloIntervalSeconds := 10#16 })

/-- The Database Description packet of a router that becomes the master. -/
def masterDescription : PacketBody :=
  .databaseDescription (some
    { lsaHeaders := [], sequenceNumber := 7#32, interfaceMtu := 1500#16, init := true, more := true,
      master := true, version := .two })

/-- Router 1.1.1.1, and a neighbor that begins to exchange databases with it. -/
def besideOne : InstanceProcess := create 0x01010101#32 0#32 .two 0#8 100#32 1 4 16

def oneExchange : List Op :=
  [.addInterface (linkOf 1#32 0x0a000001#32) (seconds 1), fromFirst heardHello 2,
    fromFirst masterDescription 3]

/-- A second initial Database Description is a sequence number mismatch in Exchange. -/
theorem mismatch_restarts :
    FreshInExstart (Runs.run step besideOne (oneExchange ++ [fromFirst masterDescription 4])) :=
  exstart_restarts_exchange 0x01010101#32 0#32 .two 0#8 100#32 1 4 16
    (oneExchange ++ [fromFirst masterDescription 4]) (by decide +kernel) _ rfl

/-- A request for an advertisement that is missing takes the neighbor to ExStart with the
negotiation of the exchange it left. -/
theorem bad_request_keeps_exchange :
    ¬ FreshInExstart (Runs.run step besideOne (oneExchange ++
      [fromFirst (.linkStateRequest (some
        [some
          { linkStateType := 1#32, linkStateId := 0x09090909#32,
            advertisingRouter := 0x09090909#32 }])) 4])) := by
  decide +kernel

end RouterSim.Ospf
