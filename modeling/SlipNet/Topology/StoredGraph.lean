import SlipNet.Topology.TopologyMapper

/-!
# The stored graph

A node is known by its address, and by its name where it has none.  Whatever
is added and in whatever order, the graph keeps one node an identity and one
edge a pair of ends, and an addition changes nothing that is stored.
-/

namespace SlipNet.Topology

open SlipNet.Standard

inductive NodeIdentity
  | addressed (address : Str)
  | named (name : Str)
  deriving DecidableEq, Repr

def Node.identity (node : Node) : NodeIdentity :=
  if node.address = [] then .named node.name else .addressed node.address

structure StoredNodes (nodes : List Node) : Prop where
  identities_nodup : (nodes.map Node.identity).Nodup
  identifiable : ∀ node ∈ nodes, ¬ (node.name = [] ∧ node.address = [])

theorem StoredNodes.address_ne {nodes : List Node} (h : StoredNodes nodes) :
    nodes.Pairwise fun first second =>
      first.address ≠ [] → first.address ≠ second.address := by
  refine (List.pairwise_map.mp h.identities_nodup).imp ?_
  intro first second hne haddress hsame
  refine hne ?_
  rw [Node.identity, Node.identity, ← hsame, if_neg haddress, if_neg haddress]

theorem StoredNodes.name_ne {nodes : List Node} (h : StoredNodes nodes) :
    nodes.Pairwise fun first second =>
      first.address = [] → second.address = [] →
        first.name ≠ second.name := by
  refine (List.pairwise_map.mp h.identities_nodup).imp ?_
  intro first second hne hfirst hsecond hsame
  refine hne ?_
  rw [Node.identity, Node.identity, if_pos hfirst, if_pos hsecond, hsame]

structure StoredEdges (edges : List Edge) : Prop where
  pairs_nodup :
    (edges.map fun edge => (edge.fromAddress, edge.toAddress)).Nodup
  proper : ∀ edge ∈ edges, edge.Proper

namespace TopologyMapper

def empty : TopologyMapper where
  edges_nodup := List.nodup_nil
  edges_proper := List.forall_mem_nil Edge.Proper

def clear (_ : TopologyMapper) : TopologyMapper := empty

inductive Operation
  | clear
  | addNode (node : Node)
  | addEdge (edge : Edge)
  deriving DecidableEq, Repr

def apply (mapper : TopologyMapper) : Operation → TopologyMapper
  | .clear => mapper.clear
  | .addNode node => mapper.addNode node
  | .addEdge edge => mapper.addEdge edge

def run (operations : List Operation) : TopologyMapper :=
  operations.foldl apply empty

/-! ## One addition -/

variable (mapper : TopologyMapper)

/-- A node with the identity of a stored one is refused.  A node without an
address is also refused for the name of a node that has one. -/
theorem hasNode_of_identity_mem {node : Node}
    (hidentifiable : ¬ (node.name = [] ∧ node.address = []))
    (h : node.identity ∈ mapper.nodes.map Node.identity) :
    mapper.hasNode node = true := by
  obtain ⟨existing, hmem, hsame⟩ := List.mem_map.mp h
  refine List.any_eq_true.mpr ⟨existing, hmem, ?_⟩
  unfold Node.identity at hsame
  split_ifs at hsame with hexisting hnode
  · have hname : node.name ≠ [] := fun hempty =>
      hidentifiable ⟨hempty, hnode⟩
    simp [hnode, hname, NodeIdentity.named.inj hsame]
  · next hnode =>
      simp [hnode, NodeIdentity.addressed.inj hsame]

theorem addNode_cases (node : Node) :
    mapper.addNode node = mapper ∨
      (mapper.addNode node).nodes = mapper.nodes ++ [node] ∧
        (mapper.addNode node).edges = mapper.edges ∧
        ¬ (node.name = [] ∧ node.address = []) ∧
        node.identity ∉ mapper.nodes.map Node.identity := by
  unfold addNode
  split_ifs with hempty hold
  · exact .inl rfl
  · exact .inl rfl
  · exact .inr ⟨rfl, rfl, hempty, fun hmem =>
      hold (hasNode_of_identity_mem mapper hempty hmem)⟩

/-- The name of a node with an address keeps a node without one out, but not
the other way round. -/
example :
    (run [.addNode ⟨"gateway".toList, [], []⟩,
      .addNode ⟨"gateway".toList, "10.0.0.1".toList, []⟩,
      .addNode ⟨"gateway".toList, [], []⟩]).nodes.length = 2 := by decide

theorem addEdge_cases (edge : Edge) :
    mapper.addEdge edge = mapper ∨
      (mapper.addEdge edge).nodes = mapper.nodes ∧
        (mapper.addEdge edge).edges = mapper.edges ++ [edge] := by
  unfold addEdge
  split_ifs
  · exact .inl rfl
  · exact .inl rfl
  · exact .inl rfl
  · exact .inr ⟨rfl, rfl⟩

/-! ## All operations -/

variable {mapper}

theorem storedNodes_addNode (h : StoredNodes mapper.nodes) (node : Node) :
    StoredNodes (mapper.addNode node).nodes := by
  obtain hsame | ⟨hnodes, _, hidentifiable, hfresh⟩ := addNode_cases mapper node
  · rwa [hsame]
  · rw [hnodes]
    constructor
    · rw [List.map_append, List.map_singleton]
      exact List.nodup_append_comm.mp
        (List.nodup_cons.mpr ⟨hfresh, h.identities_nodup⟩)
    · intro other hother
      rcases List.mem_append.mp hother with hother | hother
      · exact h.identifiable other hother
      · rwa [List.mem_singleton.mp hother]

theorem storedNodes_empty : StoredNodes empty.nodes :=
  ⟨List.nodup_nil, List.forall_mem_nil _⟩

theorem storedNodes_apply (h : StoredNodes mapper.nodes)
    (operation : Operation) : StoredNodes (mapper.apply operation).nodes := by
  cases operation with
  | clear => exact storedNodes_empty
  | addNode node => exact storedNodes_addNode h node
  | addEdge edge =>
      rw [apply, nodes_addEdge]
      exact h

theorem storedNodes_run (operations : List Operation) :
    StoredNodes (run operations).nodes := by
  induction operations using List.reverseRecOn with
  | nil => exact storedNodes_empty
  | append_singleton operations operation ih =>
      rw [run, List.foldl_append]
      exact storedNodes_apply ih operation

theorem storedEdges (mapper : TopologyMapper) : StoredEdges mapper.edges := by
  refine ⟨?_, mapper.edges_proper⟩
  refine mapper.edges_nodup.map ?_
  rintro ⟨from₁, to₁⟩ ⟨from₂, to₂⟩ hsame
  obtain ⟨rfl, rfl⟩ := Prod.mk.inj hsame
  rfl

/-- The graph that any operations build, and what one more addition does. -/
theorem stored_run (operations : List Operation) :
    let mapper := run operations
    (mapper.nodes.Pairwise fun first second =>
      first.address ≠ [] → first.address ≠ second.address) ∧
    (mapper.nodes.Pairwise fun first second =>
      first.address = [] → second.address = [] →
        first.name ≠ second.name) ∧
    (∀ node ∈ mapper.nodes, ¬ (node.name = [] ∧ node.address = [])) ∧
    StoredEdges mapper.edges ∧
    (∀ node, mapper.addNode node = mapper ∨
      (mapper.addNode node).nodes = mapper.nodes ++ [node] ∧
        (mapper.addNode node).edges = mapper.edges) ∧
    ∀ edge, mapper.addEdge edge = mapper ∨
      (mapper.addEdge edge).nodes = mapper.nodes ∧
        (mapper.addEdge edge).edges = mapper.edges ++ [edge] := by
  have hnodes := storedNodes_run operations
  refine ⟨hnodes.address_ne, hnodes.name_ne, hnodes.identifiable,
    storedEdges _, fun node => ?_, addEdge_cases _⟩
  obtain hsame | ⟨hadded, hedges, _⟩ := addNode_cases (run operations) node
  · exact .inl hsame
  · exact .inr ⟨hadded, hedges⟩

end TopologyMapper

end SlipNet.Topology
