import FormAutomation.Graph.Basic
import FormAutomation.Proofs.Execution.Assignment
import Mathlib.Data.List.NodupEquivFin

/-!
# The nodes and edges of a graph under their keys

A run and the checks do not go through a graph, they ask it: for the node of an id, for the edges
that leave a node at a port, for the edges that lead to a node.  The answers are views of one list
of nodes and one list of edges, and nothing is lost in them or told twice.

Nodes are few under an id: one, or none.  Edges may be any number under their ends, and none of
them need be told apart by its id or by anything else; nor do the nodes at their ends have to
exist.  So it is places in the list of edges, and not edges, that are each found once.
-/

namespace FormAutomation

universe u v

/-! ## Lists distributed over keys -/

section

variable {α : Type u} {κ : Type v}

/-- Where the items that are listed under keys stand in the list of all.  Under each key are the
items that have it, in the order of all; and every item of all is listed once. -/
structure IsPlacing (key : α → κ) (listed : κ → List α) (all : List α)
    (place : ∀ k, Fin (listed k).length → Fin all.length) : Prop where
  /-- the item in its place is the one that is listed -/
  same : ∀ k i, all.get (place k i) = (listed k).get i
  /-- it has the key that it is listed under -/
  keyed : ∀ k i, key ((listed k).get i) = k
  /-- what is listed first stands first -/
  ordered : ∀ k i j, i < j → place k i < place k j
  /-- every place is that of one item under one key -/
  once : ∀ p, ∃! entry : Σ k, Fin (listed k).length, place entry.1 entry.2 = p

/-- The items of a list are listed under their keys, each one once and in order. -/
def IsListedOnce (key : α → κ) (listed : κ → List α) (all : List α) : Prop :=
  ∃ place, IsPlacing key listed all place

/-- The places of a list whose items have a key. -/
def placesOf [DecidableEq κ] (key : α → κ) (all : List α) (k : κ) : List (Fin all.length) :=
  (List.finRange all.length).filter fun p => key (all.get p) = k

variable [DecidableEq κ] {key : α → κ} {all : List α} {k : κ}

theorem mem_placesOf {p : Fin all.length} : p ∈ placesOf key all k ↔ key (all.get p) = k := by
  simp [placesOf]

/-- The places go up. -/
theorem pairwise_placesOf : (placesOf key all k).Pairwise (· < ·) :=
  (List.pairwise_lt_finRange all.length).filter _

/-- What stands in them is what a filter keeps. -/
theorem map_placesOf (key : α → κ) (all : List α) (k : κ) :
    (placesOf key all k).map all.get = all.filter fun a => key a = k := by
  conv_rhs => rw [← List.map_get_finRange all, List.filter_map]
  rfl

/-- A list that is filtered by a key for each key is distributed over the keys. -/
theorem isListedOnce_filter {listed : κ → List α}
    (h : ∀ k, listed k = all.filter fun a => key a = k) : IsListedOnce key listed all := by
  obtain rfl : listed = fun k => (placesOf key all k).map all.get :=
    funext fun k => (h k).trans (map_placesOf key all k).symm
  have hlength : ∀ k, ((placesOf key all k).map all.get).length = (placesOf key all k).length :=
    fun _ => List.length_map _
  refine ⟨fun k i => (placesOf key all k).get (i.cast (hlength k)), ?_, ?_, ?_, ?_⟩
  · intro k i
    simp
  · intro k i
    obtain ⟨p, hp, hitem⟩ := List.mem_map.1 (List.get_mem ((placesOf key all k).map all.get) i)
    rw [← hitem]
    exact mem_placesOf.1 hp
  · intro k i j hij
    exact List.pairwise_iff_get.1 pairwise_placesOf _ _ hij
  · intro p
    -- the key is that of the item in the place, and among its places this one comes once
    obtain ⟨i, hi⟩ := List.mem_iff_get.1 (mem_placesOf.2 rfl : p ∈ placesOf key all (key (all.get p)))
    refine ⟨⟨key (all.get p), i.cast (hlength _).symm⟩, hi, ?_⟩
    rintro ⟨k, j⟩ hj
    have hkey : key (all.get p) = k := mem_placesOf.1 (hj ▸ List.get_mem _ _)
    subst hkey
    have hsame : j.cast (hlength _) = i :=
      List.nodup_iff_injective_get.1 pairwise_placesOf.nodup (hj.trans hi.symm)
    have hval : j.val = i.val := congrArg Fin.val hsame
    exact congrArg (Sigma.mk _) (Fin.ext hval)

end

/-! ## The index of a graph -/

namespace Graph

/-- The answers of a graph are exact. -/
structure IsIndexed (graph : Graph) : Prop where
  /-- the node of an id is the one node that has it -/
  node_iff : ∀ id node, graph.node? id = some node ↔ node.id = id
    ∧ ∃ before after, graph.nodes = before ++ node :: after
      ∧ ∀ other ∈ before ++ after, other.id ≠ id
  /-- there is none exactly if the graph says that it has none -/
  none_iff : ∀ id, graph.node? id = none ↔ graph.has id = false
  /-- it has those that its nodes have -/
  has_iff : ∀ id, graph.has id = true ↔ ∃ node ∈ graph.nodes, node.id = id
  /-- a table that nodes are put into under their ids holds them all in their order -/
  table : Entries.ofList (graph.nodes.map fun node => (node.id, node))
    = graph.nodes.map fun node => (node.id, node)
  /-- and gives the same answers -/
  lookup : ∀ id, (graph.nodes.map fun node => (node.id, node)).lookup id = graph.node? id
  /-- every edge is once among those that leave an id at a port -/
  outgoing : IsListedOnce (fun edge : Edge => (edge.source, edge.port))
    (fun k => graph.outgoingOn k.1 k.2) graph.edges
  /-- and once among those that lead to an id -/
  incoming : IsListedOnce Edge.target graph.incoming graph.edges

theorem node?_eq_some_iff_split {graph : Graph} {id : String} {node : Node} :
    graph.node? id = some node ↔ node.id = id
      ∧ ∃ before after, graph.nodes = before ++ node :: after
        ∧ ∀ other ∈ before ++ after, other.id ≠ id := by
  rw [node?_eq_some_iff, and_comm]
  refine and_congr_right ?_
  rintro rfl
  constructor
  · intro hmem
    obtain ⟨before, after, hnodes⟩ := List.append_of_mem hmem
    have hdistinct := graph.distinct
    rw [hnodes, List.map_append, List.map_cons, List.nodup_middle, ← List.map_append,
      List.nodup_cons] at hdistinct
    exact ⟨before, after, hnodes, fun other hother hid =>
      hdistinct.1 (hid ▸ List.mem_map_of_mem hother)⟩
  · rintro ⟨before, after, hnodes, -⟩
    rw [hnodes]
    exact List.mem_append_right _ List.mem_cons_self

theorem lookup_nodes (nodes : List Node) (id : String) :
    (nodes.map fun node => (node.id, node)).lookup id = nodes.find? (·.id == id) := by
  induction nodes with
  | nil => rfl
  | cons node rest ih =>
    rw [List.map_cons, Entries.lookup_cons, ih]
    by_cases hid : node.id = id
    · simp [hid]
    · simp [hid, Ne.symm hid]

/-- So they are for every graph, since its ids are distinct. -/
theorem isIndexed (graph : Graph) : graph.IsIndexed where
  node_iff := fun _ _ => node?_eq_some_iff_split
  none_iff := fun id => by rw [has, Option.isSome_eq_false_iff, Option.isNone_iff_eq_none]
  has_iff := fun id => by rw [Graph.has_iff, ids, List.mem_map]
  table := Entries.ofList_eq_self (by
    rw [Entries.names, List.map_map]
    exact graph.distinct)
  lookup := lookup_nodes graph.nodes
  outgoing := isListedOnce_filter fun k => List.filter_congr fun edge _ => by
    rw [Bool.eq_iff_iff]
    simp [Prod.ext_iff]
  incoming := isListedOnce_filter fun k => List.filter_congr fun edge _ => by
    rw [Bool.eq_iff_iff]
    simp

end Graph

end FormAutomation
