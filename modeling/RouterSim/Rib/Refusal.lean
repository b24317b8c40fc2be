import RouterSim.Lib.Runs
import RouterSim.Rib.Rebuild

/-! A refused rebuild and the program that is compiled after it. The IPv4 table keeps it. The
IPv6 table has already written the repairs of an input that its last check refuses. -/
namespace RouterSim.Rib

open Sorting

/-- The tables a series of rebuilds leads to. -/
def Ipv4RouteTable.after (sorter : Sorting.Sorter Ipv4Route) (inputs : List Ipv4Input) :
    Ipv4RouteTable :=
  Runs.run (fun table input => (rebuild sorter table input).1) {} inputs

def Ipv6RouteTable.after (sorter : Sorting.Sorter Ipv6Route) (inputs : List Ipv6Input) :
    Ipv6RouteTable :=
  Runs.run (fun table input => (rebuild sorter table input).1) {} inputs

/-- Writing the repairs of the input leaves the rows that are published as they were. -/
def Ipv6RouteTable.Undisturbed (sorter : Sorting.Sorter Ipv6Route) (table : Ipv6RouteTable)
    (input : Ipv6Input) : Prop :=
  (writtenRepairs sorter table input).take table.loopFreeAlternateCount =
    table.loopFreeAlternates.take table.loopFreeAlternateCount

theorem compile_reject {ρ : Type} (table : RouteTable ρ) (generation : BitVec 64) :
    table.reject.compile generation = table.compile generation := rfl

/-- The program shows the repairs that are in use, and nothing else of their array. -/
theorem compile_repairs {ρ : Type} (table : RouteTable ρ) (rows : List ρ) (generation : BitVec 64) :
    ({ table with loopFreeAlternates := rows } : RouteTable ρ).compile generation =
        table.compile generation ↔
      rows.take table.loopFreeAlternateCount =
        table.loopFreeAlternates.take table.loopFreeAlternateCount := by
  constructor
  · intro same
    have routes := congrArg FibProgram.routes same
    exact List.append_cancel_left routes
  · intro same
    simp [RouteTable.compile, RouteTable.published, same]

/-- A repair of one prefix over a neighbor. -/
def repairOver (neighbor : Nat) : Ipv6DynamicInput where
  network := 0x20010db8000100000000000000000000#128
  nextHop := BitVec.ofNat 128 (0xfe800000000000000000000000000000 + neighbor)
  egress := { interfaceId := 1#64 }
  preference := 10#16
  metric := 20#32
  prefixLength := 48#8
  source := .ospf3
  loopFreeAlternate := true

/-- A path over the first neighbor, and repairs over others. -/
def repairedPath (neighbors : List Nat) : Ipv6Input where
  dynamic := { repairOver 1 with loopFreeAlternate := false } :: neighbors.map repairOver

theorem selection_singleton {w : Nat} {ε : Type} [Egress ε]
    (sorter : Sorting.Sorter (Route w ε)) {limit : Nat} (positive : 0 < limit)
    (route : Route w ε) : selection sorter limit [route] = [route] := by
  have sorted : sorter.sort candidateLess [route] = [route] :=
    List.perm_singleton.mp (sorter.perm _ _)
  obtain ⟨n, rfl⟩ : ∃ n, limit = n + 1 := ⟨limit - 1, by omega⟩
  rw [selection, sorted, Compaction.select]
  simp [Compaction.select]

end RouterSim.Rib
