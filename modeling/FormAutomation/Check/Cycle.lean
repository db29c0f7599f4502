import FormAutomation.Check.Reach

/-!
# Cycles

A walk goes as deep as it can along edges whose ends both exist.  The ids on the
way from its root to where it stands are *active*; an edge to an active id
closes a cycle, which is the part of the way from that id on.  Of several cycles
with the same members the first is kept.  Every id is entered once, so the ids
not yet visited, and then the successors still to be looked at, bound the walk.
-/

namespace FormAutomation.Graph

/-- An id on the way, and its successors still to be looked at. -/
structure Frame where
  /-- the id -/
  id : String
  /-- the ids that its edges lead to and that were not looked at -/
  pending : List String

/-- How much is still to be done on a way. -/
def Frame.work : List Frame → Nat
  | [] => 0
  | frame :: way => frame.pending.length + 1 + Frame.work way

/-- Whether two cycles have the same members. -/
def sameMembers (a b : List String) : Bool :=
  a.all b.contains && b.all a.contains

/-- The cycles with one more, unless one of the same members is there. -/
def addCycle (cycles : List (List String)) (cycle : List String) : List (List String) :=
  if cycles.any (sameMembers cycle) then cycles else cycles ++ [cycle]

/-- The part of a way, its last id first, from an id on. -/
def cycleFrom (active : List String) (id : String) : List String :=
  (active.takeWhile (· ≠ id) ++ [id]).reverse

/-- The rest of a walk: the ids it has visited and the cycles it has found when
it is back at its root.  The way stands with its last id first. -/
def walk (graph : Graph) (visited : List String) (cycles : List (List String)) :
    List Frame → List String × List (List String)
  | [] => (visited, cycles)
  | ⟨_, []⟩ :: way => walk graph visited cycles way
  | ⟨id, target :: pending⟩ :: way =>
    let active := id :: way.map (·.id)
    if target ∈ active then
      walk graph visited (addCycle cycles (cycleFrom active target)) (⟨id, pending⟩ :: way)
    else if h : target ∈ graph.ids ∧ target ∉ visited then
      have := countOutside_cons_lt h.1 h.2
      walk graph (target :: visited) cycles
        (⟨target, graph.successors target⟩ :: ⟨id, pending⟩ :: way)
    else walk graph visited cycles (⟨id, pending⟩ :: way)
termination_by way => (graph.countOutside visited, Frame.work way)
decreasing_by
  · exact Prod.Lex.right _ (by simp [Frame.work])
  · exact Prod.Lex.right _ (by simp [Frame.work])
  · exact Prod.Lex.left _ _ this
  · exact Prod.Lex.right _ (by simp [Frame.work])

/-- The cycles found by walks from ids that no earlier walk visited. -/
def walkAll (graph : Graph) (visited : List String) (cycles : List (List String)) :
    List String → List (List String)
  | [] => cycles
  | root :: rest =>
    if root ∈ visited then walkAll graph visited cycles rest
    else
      let (visited, cycles) :=
        graph.walk (root :: visited) cycles [⟨root, graph.successors root⟩]
      walkAll graph visited cycles rest

/-- The cycles of the graph, each as the ids on the way around. -/
def cycles (graph : Graph) : List (List String) :=
  graph.walkAll [] [] graph.ids

end FormAutomation.Graph

namespace FormAutomation.Check

/-- The cycles. -/
def cycleFaults (graph : Graph) : List Finding :=
  graph.cycles.map .cycle

end FormAutomation.Check
