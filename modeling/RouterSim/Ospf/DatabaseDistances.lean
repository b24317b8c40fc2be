import RouterSim.Ospf.SpfTree
import RouterSim.Ospf.TopologyArcs

/-! The distances over the graph of a database, read off its advertisements. -/
namespace RouterSim.Ospf

open List Octets SpfCalculator

/-- The ways over links that each end describes, with their cost. -/
inductive Linked (records : List LsaRecord) (version : Version) (root : BitVec 32) :
    TopologyVertexKey → Nat → Prop
  | start : Linked records version root (routerKey root) 0
  | extend {u v : TopologyVertexKey} {k : Nat} {cost : BitVec 32} :
    Linked records version root u k → Reciprocal records version u v cost →
      k + cost.toNat < lsInfinity.toNat → Linked records version root v (k + cost.toNat)

theorem publishVertices_count {keys rest : List TopologyVertexKey} {hops : List FirstHop}
    {temporary : List TemporaryEdge} {edges out : List SpfEdge} {vertices : List SpfVertex}
    (h : publishVertices keys hops temporary rest edges = some (vertices, out)) :
    vertices.length = rest.length := by
  induction rest generalizing edges vertices with
  | nil => cases h; rfl
  | cons key rest ih =>
    rw [publishVertices] at h
    split at h
    · cases h
    obtain ⟨published, tail, eq⟩ := Option.map_eq_some_iff.mp h
    cases eq
    simp [ih tail]

variable {sorter : (α : Type) → Sorting.Sorter α} {builder built : TopologyBuilder}
  {records : List LsaRecord} {version : Version} {root : BitVec 32} {v : TopologyVertexKey}

/-- One vertex for each key, no key twice, and the root at its own. -/
theorem build_numbered (accepted : builder.build sorter records version root = (true, built)) :
    built.graph.vertices.length = built.graph.keys.length ∧ built.graph.keys.Nodup ∧
      built.graph.keys[built.graph.rootVertex.toNat]? = some (routerKey root) := by
  obtain ⟨keys, pending, -, distinct, few, -, -, -, published⟩ :=
    translate_spec (build_translates accepted)
  have numbered := builder.numbered.1
  unfold publish at published
  split at published
  · cases published
  next index found =>
  obtain ⟨⟨vertices, edges⟩, made, eq⟩ := Option.map_eq_some_iff.mp published
  obtain ⟨inside, own, -⟩ := List.findIdx?_eq_some_iff_getElem.mp found
  rw [← eq]
  refine ⟨publishVertices_count made, distinct, ?_⟩
  rw [BitVec.toNat_ofNat, Nat.mod_eq_of_lt (by omega), List.getElem?_eq_getElem inside,
    eq_of_beq own]

/-- The paths of the graph are these ways. -/
theorem linked_iff (accepted : builder.build sorter records version root = (true, built))
    (unambiguous : Unambiguous records version) {i k : Nat}
    (there : built.graph.keys[i]? = some v) :
    Linked records version root v k ↔ ∃ token, Path built.graph.vertices built.graph.edges
      built.graph.rootVertex.toNat i k token := by
  obtain ⟨keys, published⟩ := build_published accepted
  obtain ⟨same, distinct, first⟩ := build_numbered accepted
  have one {i j : Nat} {key : TopologyVertexKey} (at_i : built.graph.keys[i]? = some key)
      (at_j : built.graph.keys[j]? = some key) : i = j :=
    (List.getElem?_inj (List.getElem?_eq_some_iff.mp at_i).1 distinct).mp (at_i.trans at_j.symm)
  constructor
  · intro way
    induction way generalizing i with
    | start => exact one first there ▸ ⟨none, .start⟩
    | extend _ link near ih =>
      obtain ⟨j, source, edge, mem, target, rfl⟩ := published.complete unambiguous link
      obtain ⟨token, path⟩ := ih source
      exact one target there ▸ ⟨_, path.extend mem near⟩
  · rintro ⟨token, path⟩
    induction path generalizing v with
    | start =>
      obtain rfl := Option.some.inj (first.symm.trans there)
      exact .start
    | @extend u _ _ edge _ mem near ih =>
      have inside : u < built.graph.keys.length := by
        unfold edgesFrom at mem
        split at mem
        next found => exact same ▸ (List.getElem?_eq_some_iff.mp found).1
        next => cases mem
      have source := List.getElem?_eq_getElem inside
      exact (ih source).extend (published.sound unambiguous ⟨u, source, edge, mem, there, rfl⟩) near

/-- A router that describes no links. -/
def aloneRouter : List LsaRecord := [v3Advertisement 0x2001#16 0#32 1#32 (octets32 0#32)]

def aloneBuilt : TopologyBuilder :=
  (smallBuilder.build (fun _ => Sorting.insertion) aloneRouter .three 1#32).2

def aloneCalculated : SpfCalculator × Bool :=
  (create 1 1).calculate .nearest aloneBuilt.graph.rootVertex aloneBuilt.graph.vertices
    aloneBuilt.graph.edges (BitVec.ofNat 16 aloneBuilt.graph.firstHops.length)

end RouterSim.Ospf
