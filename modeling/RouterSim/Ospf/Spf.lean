namespace RouterSim.Ospf

abbrev lsInfinity : BitVec 32 := 0x00ffffff#32

abbrev noFirstHop : BitVec 16 := 0xffff#16

abbrev maximumEcmpPaths : BitVec 16 := 128#16

/-- One bit for each forwarding next hop, in words of 64. -/
abbrev FirstHopBits := Vector (BitVec 64) 2

namespace FirstHopBits

def empty : FirstHopBits := Vector.replicate 2 0#64

def word (hops : FirstHopBits) (i : Nat) : BitVec 64 := (hops[i]?).getD 0#64

def add (hops : FirstHopBits) (firstHop : BitVec 16) : FirstHopBits :=
  hops.setIfInBounds (firstHop.toNat / 64)
    (hops.word (firstHop.toNat / 64) ||| (1#64 <<< (firstHop.toNat % 64)))

def present (hops : FirstHopBits) : Bool := hops.any (· != 0#64)

def merge (left right : FirstHopBits) : FirstHopBits := Vector.zipWith (· ||| ·) left right

def contains (hops : FirstHopBits) (firstHop : BitVec 16) : Bool :=
  (hops.word (firstHop.toNat / 64) &&& (1#64 <<< (firstHop.toNat % 64))) != 0#64

end FirstHopBits

structure SpfVertex where
  firstEdge : BitVec 32
  edgeCount : BitVec 32

structure SpfEdge where
  targetVertex : BitVec 32
  cost : BitVec 32
  firstHop : BitVec 16 := noFirstHop
  deriving DecidableEq

structure VertexState where
  firstHops : FirstHopBits := FirstHopBits.empty
  distance : BitVec 32 := lsInfinity
  revision : BitVec 32 := 0#32

structure Candidate where
  distance : BitVec 32
  vertex : BitVec 32
  revision : BitVec 32

/-- The heap's order, reversed so that the nearest candidate comes out first. -/
def candidateLater (left right : Candidate) : Bool :=
  decide (right.distance < left.distance) ||
    (left.distance == right.distance && decide (right.vertex < left.vertex))

/-- What the standard heap promises of its contents: a removal yields some candidate
that no other one precedes. Which of several such comes out is its own affair. -/
structure CandidateHeap where
  pop : List Candidate → Option (Candidate × List Candidate)
  empty : pop [] = none
  least : ∀ candidates, candidates ≠ [] → ∃ candidate rest,
    pop candidates = some (candidate, rest) ∧ (candidate :: rest).Perm candidates ∧
      ∀ other ∈ rest, candidateLater candidate other = false

namespace CandidateHeap

/-- The first of the nearest candidates, and the others. -/
def takeNearest (c : Candidate) : List Candidate → Candidate × List Candidate
  | [] => (c, [])
  | d :: rest =>
    if candidateLater c d then ((takeNearest d rest).1, c :: (takeNearest d rest).2)
    else ((takeNearest c rest).1, d :: (takeNearest c rest).2)

theorem candidateLater_iff (left right : Candidate) :
    candidateLater left right = true ↔ right.distance.toNat < left.distance.toNat ∨
      left.distance.toNat = right.distance.toNat ∧ right.vertex.toNat < left.vertex.toNat := by
  simp [candidateLater, BitVec.lt_def, BitVec.toNat_eq]

theorem takeNearest_perm (c : Candidate) (rest : List Candidate) :
    ((takeNearest c rest).1 :: (takeNearest c rest).2).Perm (c :: rest) := by
  induction rest generalizing c with
  | nil => exact .refl _
  | cons d rest ih =>
    unfold takeNearest
    split
    · exact (List.Perm.swap _ _ _).trans ((ih d).cons c)
    · exact (List.Perm.swap _ _ _).trans (((ih c).cons d).trans (List.Perm.swap _ _ _))

theorem takeNearest_least (c : Candidate) (rest : List Candidate) :
    ∀ other ∈ c :: rest, candidateLater (takeNearest c rest).1 other = false := by
  induction rest generalizing c with
  | nil =>
    intro other hother
    simp only [List.mem_singleton] at hother
    subst hother
    rw [← Bool.not_eq_true, candidateLater_iff]
    simp [takeNearest]
  | cons d rest ih =>
    intro other hother
    unfold takeNearest
    simp only [← Bool.not_eq_true, candidateLater_iff] at ih ⊢
    simp only [List.mem_cons] at hother
    split
    · rename_i later
      have nearest := ih d d List.mem_cons_self
      rcases hother with rfl | hother
      · dsimp only
        omega
      · exact ih d other (List.mem_cons.mpr hother)
    · rename_i earlier
      have nearest := ih c c List.mem_cons_self
      rcases hother with rfl | rfl | hother
      · exact nearest
      · dsimp only
        omega
      · exact ih c other (List.mem_cons_of_mem _ hother)

/-- A heap that yields the first of the nearest candidates. -/
def nearest : CandidateHeap where
  pop
    | [] => none
    | c :: rest => some (takeNearest c rest)
  empty := rfl
  least candidates hne := by
    cases candidates with
    | nil => exact absurd rfl hne
    | cons c rest =>
      have hperm := takeNearest_perm c rest
      refine ⟨_, _, rfl, hperm, fun other hother => ?_⟩
      exact takeNearest_least c rest other (hperm.mem_iff.mp (List.mem_cons_of_mem _ hother))

end CandidateHeap

/-- The edges of one vertex are a stretch of the edge list. -/
def outgoing (edges : List SpfEdge) (vertex : SpfVertex) : List SpfEdge :=
  (edges.drop vertex.firstEdge.toNat).take vertex.edgeCount.toNat

/-- The edges out of the vertex with this number. -/
def edgesFrom (vertices : List SpfVertex) (edges : List SpfEdge) (u : Nat) : List SpfEdge :=
  match vertices[u]? with
  | some vertex => outgoing edges vertex
  | none => []

structure SpfCalculator where
  published : List VertexState := []
  maximumVertices : Nat
  maximumPendingCandidates : Nat
  publishedCount : Nat := 0
  publishedFirstHopCount : BitVec 16 := 0#16

namespace SpfCalculator

def create (maximumVertices maximumPendingCandidates : Nat) : SpfCalculator where
  maximumVertices
  maximumPendingCandidates

/-- Every adjacency extent, target, cost and token is in range. -/
def accepts (c : SpfCalculator) (rootVertex : BitVec 32) (vertices : List SpfVertex)
    (edges : List SpfEdge) (firstHopCount : BitVec 16) : Bool :=
  !vertices.isEmpty && decide (vertices.length ≤ c.maximumVertices) &&
    decide (rootVertex.toNat < vertices.length) && c.maximumPendingCandidates != 0 &&
    decide (firstHopCount ≤ maximumEcmpPaths) &&
    vertices.all fun vertex =>
      decide (vertex.firstEdge.toNat ≤ edges.length) &&
        decide (vertex.edgeCount.toNat ≤ edges.length - vertex.firstEdge.toNat) &&
        (outgoing edges vertex).all fun edge =>
          decide (edge.targetVertex.toNat < vertices.length) && decide (edge.cost < lsInfinity) &&
            (edge.firstHop == noFirstHop || decide (edge.firstHop < firstHopCount))

/-- The scratch generation and the candidates still to be looked at. -/
structure Work where
  scratch : List VertexState
  candidates : List Candidate

/-- The first hops a path through the edge has. A token on a later arc counts only
while there is none yet. -/
def proposedHops (current : VertexState) (edge : SpfEdge) : FirstHopBits :=
  if edge.firstHop != noFirstHop && !current.firstHops.present then
    current.firstHops.add edge.firstHop
  else current.firstHops

/-- The target's state after the edge is relaxed, unless nothing changes. -/
def improve (target : VertexState) (proposedDistance : BitVec 32) (hops : FirstHopBits) :
    Option VertexState :=
  if proposedDistance < target.distance then
    some { firstHops := hops, distance := proposedDistance, revision := target.revision + 1#32 }
  else if proposedDistance == target.distance && target.firstHops.merge hops != target.firstHops then
    some { target with
      firstHops := target.firstHops.merge hops, revision := target.revision + 1#32 }
  else none

/-- Relax one edge of vertex `u`; without a result there is no room for the
candidate. -/
def relax (maximumPendingCandidates : Nat) (u : Nat) (w : Work) (edge : SpfEdge) : Option Work :=
  let current := w.scratch.getD u {}
  if lsInfinity - edge.cost ≤ current.distance then some w
  else
    match improve (w.scratch.getD edge.targetVertex.toNat {}) (current.distance + edge.cost)
        (proposedHops current edge) with
    | none => some w
    | some improved =>
      if maximumPendingCandidates ≤ w.candidates.length then none
      else
        some
          { scratch := w.scratch.set edge.targetVertex.toNat improved, candidates := w.candidates ++
              [{ distance := improved.distance, vertex := edge.targetVertex,
                 revision := improved.revision }] }

inductive SearchResult
  | outOfFuel
  | full
  | finished (scratch : List VertexState)

/-- The main loop. Candidates whose vertex has changed since are dropped. -/
def search (heap : CandidateHeap) (maximumPendingCandidates : Nat) (vertices : List SpfVertex)
    (edges : List SpfEdge) : Nat → Work → SearchResult
  | 0, _ => .outOfFuel
  | fuel + 1, w =>
    match heap.pop w.candidates with
    | none => .finished w.scratch
    | some (candidate, rest) =>
      let current := w.scratch.getD candidate.vertex.toNat {}
      if candidate.distance != current.distance || candidate.revision != current.revision then
        search heap maximumPendingCandidates vertices edges fuel { w with candidates := rest }
      else
        match (edgesFrom vertices edges candidate.vertex.toNat).foldlM
            (relax maximumPendingCandidates candidate.vertex.toNat)
            { w with candidates := rest } with
        | none => .full
        | some w => search heap maximumPendingCandidates vertices edges fuel w

def initialWork (rootVertex : BitVec 32) (vertices : List SpfVertex) : Work where
  scratch := (List.replicate vertices.length {}).set rootVertex.toNat
    { distance := 0#32, revision := 1#32 }
  candidates := [{ distance := 0#32, vertex := rootVertex, revision := 1#32 }]

/-- More rounds than the loop can make: every vertex can come nearer at most
`lsInfinity` times, and gain at most 128 hops at each distance. -/
def searchBound (vertices : List SpfVertex) : Nat := 2 + vertices.length * (0xffffff * 129 + 128)

def searchFrom (c : SpfCalculator) (heap : CandidateHeap) (rootVertex : BitVec 32)
    (vertices : List SpfVertex) (edges : List SpfEdge) : SearchResult :=
  search heap c.maximumPendingCandidates vertices edges (searchBound vertices)
    (initialWork rootVertex vertices)

def calculate (c : SpfCalculator) (heap : CandidateHeap) (rootVertex : BitVec 32)
    (vertices : List SpfVertex) (edges : List SpfEdge) (firstHopCount : BitVec 16) :
    SpfCalculator × Bool :=
  if !c.accepts rootVertex vertices edges firstHopCount then (c, false)
  else
    match c.searchFrom heap rootVertex vertices edges with
    | .finished scratch =>
      ({ c with
          published := scratch, publishedCount := vertices.length,
          publishedFirstHopCount := firstHopCount }, true)
    | .full | .outOfFuel => (c, false)

def reachable (c : SpfCalculator) (vertex : Nat) : Bool :=
  decide (vertex < c.publishedCount) && decide ((c.published.getD vertex {}).distance < lsInfinity)

def cost (c : SpfCalculator) (vertex : Nat) : Option (BitVec 32) :=
  if c.reachable vertex then some (c.published.getD vertex {}).distance else none

/-- The published hops of a vertex in the order of their tokens. -/
def hopTokens (c : SpfCalculator) (vertex : Nat) : List (BitVec 16) :=
  ((List.range c.publishedFirstHopCount.toNat).map (BitVec.ofNat 16)).filter
    ((c.published.getD vertex {}).firstHops.contains ·)

def firstHopCount (c : SpfCalculator) (vertex : Nat) : Nat :=
  if !c.reachable vertex then 0
  else
    ((c.published.getD vertex {}).firstHops.toList.map
      fun word => (List.range 64).countP (word.getLsbD ·)).foldl (· + ·) 0

def firstHop (c : SpfCalculator) (vertex ordinal : Nat) : Option (BitVec 16) :=
  if !c.reachable vertex then none else (c.hopTokens vertex)[ordinal]?

end SpfCalculator

end RouterSim.Ospf
