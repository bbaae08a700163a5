import SlipNet.Standard.Strings
import Mathlib.Tactic

/-!
# The topology graph

`TopologyMapper` refuses nodes without identity, edges without an end, loops and
duplicates.  Its lists are private, so every graph is built by `addNode` and
`addEdge`, and no edge ever breaks these rules; that the ends of an edge are
nodes is left to the caller.
-/

namespace SlipNet.Topology

open SlipNet.Standard

structure Node where
  name : Str
  address : Str
  type : Str
  deriving DecidableEq, Repr

/-- The members `from` and `to` hold addresses. -/
structure Edge where
  fromAddress : Str
  toAddress : Str
  deriving DecidableEq, Repr

structure Edge.Proper (edge : Edge) : Prop where
  from_ne_nil : edge.fromAddress ≠ []
  to_ne_nil : edge.toAddress ≠ []
  from_ne_to : edge.fromAddress ≠ edge.toAddress

structure TopologyMapper where
  nodes : List Node := []
  edges : List Edge := []
  edges_nodup : edges.Nodup := by simp
  edges_proper : ∀ edge ∈ edges, edge.Proper := by simp

namespace TopologyMapper

variable (mapper : TopologyMapper)

def hasNode (node : Node) : Bool :=
  mapper.nodes.any fun existing =>
    node.address ≠ [] && existing.address = node.address ||
      node.address = [] && node.name ≠ [] && existing.name = node.name

def hasEdge (edge : Edge) : Bool :=
  mapper.edges.any fun existing =>
    existing.fromAddress = edge.fromAddress &&
      existing.toAddress = edge.toAddress

theorem hasEdge_iff {edge : Edge} :
    mapper.hasEdge edge = true ↔ edge ∈ mapper.edges := by
  simp only [hasEdge, List.any_eq_true, Bool.and_eq_true, decide_eq_true_eq]
  constructor
  · rintro ⟨existing, hmem, hfrom, hto⟩
    cases existing
    cases edge
    simp_all
  · exact fun hmem => ⟨edge, hmem, rfl, rfl⟩

def addNode (node : Node) : TopologyMapper :=
  if node.name = [] ∧ node.address = [] then mapper
  else if mapper.hasNode node then mapper
  else { mapper with nodes := mapper.nodes ++ [node] }

def addEdge (edge : Edge) : TopologyMapper :=
  if hempty : edge.fromAddress = [] ∨ edge.toAddress = [] then mapper
  else if hloop : edge.fromAddress = edge.toAddress then mapper
  else if hold : mapper.hasEdge edge then mapper
  else
    { nodes := mapper.nodes
      edges := mapper.edges ++ [edge]
      edges_nodup := by
        rw [hasEdge_iff] at hold
        exact List.nodup_append_comm.mp
          (List.nodup_cons.mpr ⟨hold, mapper.edges_nodup⟩)
      edges_proper := by
        rw [not_or] at hempty
        intro other hother
        rcases List.mem_append.mp hother with hother | hother
        · exact mapper.edges_proper other hother
        · rw [List.mem_singleton.mp hother]
          exact ⟨hempty.1, hempty.2, hloop⟩ }

/-! ## Addresses of nodes -/

def Covers (address : Str) : Prop :=
  ∃ node ∈ mapper.nodes, node.address = address

@[simp] theorem edges_addNode (node : Node) :
    (mapper.addNode node).edges = mapper.edges := by
  unfold addNode
  split_ifs <;> rfl

@[simp] theorem nodes_addEdge (edge : Edge) :
    (mapper.addEdge edge).nodes = mapper.nodes := by
  unfold addEdge
  split_ifs <;> rfl

@[simp] theorem covers_addEdge {edge : Edge} {address : Str} :
    (mapper.addEdge edge).Covers address ↔ mapper.Covers address := by
  rw [Covers, nodes_addEdge, Covers]

theorem covers_addNode {node : Node} {address : Str} (hne : address ≠ []) :
    (mapper.addNode node).Covers address ↔
      mapper.Covers address ∨ node.address = address := by
  unfold addNode
  split_ifs with hempty hold
  · refine ⟨.inl, ?_⟩
    rintro (h | h)
    · exact h
    · exact absurd (h.symm.trans hempty.2) hne
  · refine ⟨.inl, ?_⟩
    rintro (h | rfl)
    · exact h
    · obtain ⟨existing, hmem, hsame⟩ := List.any_eq_true.mp hold
      refine ⟨existing, hmem, ?_⟩
      simpa [hne] using hsame
  · simp [Covers, or_and_right, exists_or]

theorem mem_edges_addEdge {edge other : Edge} :
    other ∈ (mapper.addEdge edge).edges ↔
      other ∈ mapper.edges ∨ other = edge ∧ edge.Proper := by
  unfold addEdge
  split_ifs with hempty hloop hold
  · refine ⟨.inl, ?_⟩
    rintro (h | ⟨_, hproper⟩)
    · exact h
    · rcases hempty with h | h
      · exact absurd h hproper.from_ne_nil
      · exact absurd h hproper.to_ne_nil
  · refine ⟨.inl, ?_⟩
    rintro (h | ⟨_, hproper⟩)
    · exact h
    · exact absurd hloop hproper.from_ne_to
  · rw [hasEdge_iff] at hold
    refine ⟨.inl, ?_⟩
    rintro (h | ⟨rfl, _⟩)
    · exact h
    · exact hold
  · have hproper : edge.Proper :=
      ⟨(not_or.mp hempty).1, (not_or.mp hempty).2, hloop⟩
    simp [hproper]

end TopologyMapper

end SlipNet.Topology
