import FormAutomation.Check.Finding

/-!
# Reachability

A node is reached when a way over edges with existing ends leads to it from a
start: a trigger, or where the graph starts without one.  The search visits
every id once, so the ids not yet visited, and then the ids still to be looked
at, bound it.
-/

namespace FormAutomation

namespace Graph

/-- How many ids of the graph are not in a list. -/
def countOutside (graph : Graph) (ids : List String) : Nat :=
  (graph.ids.filter fun id => decide (id ∉ ids)).length

/-- Taking in one more id of the graph leaves fewer outside. -/
theorem countOutside_cons_lt {graph : Graph} {ids : List String} {id : String}
    (h : id ∈ graph.ids) (h' : id ∉ ids) :
    graph.countOutside (id :: ids) < graph.countOutside ids := by
  unfold countOutside
  have split : (graph.ids.filter fun x => decide (x ∉ id :: ids))
      = (graph.ids.filter fun x => decide (x ∉ ids)).filter fun x => decide (x ≠ id) := by
    rw [List.filter_filter]
    congr 1
    funext x
    simp
  rw [split]
  have mem : id ∈ graph.ids.filter fun x => decide (x ∉ ids) := by
    simp [List.mem_filter, h, h']
  generalize (graph.ids.filter fun x => decide (x ∉ ids)) = outside at mem
  induction outside with
  | nil => simp at mem
  | cons x rest ih =>
    by_cases e : x = id
    · have := List.length_filter_le (fun x => decide (x ≠ id)) rest
      simp only [List.filter_cons, e, ne_eq, not_true, decide_false, Bool.false_eq_true,
        if_false, List.length_cons]
      exact Nat.lt_succ_of_le this
    · have mem' : id ∈ rest := by
        rcases List.mem_cons.1 mem with rfl | m
        · exact absurd rfl e
        · exact m
      simpa [e] using ih mem'

/-- One node after another: `next` leads to the target of an edge whose ends
both exist. -/
inductive Reachable (graph : Graph) (starts : List String) : String → Prop where
  /-- a start -/
  | start {id : String} : id ∈ starts → id ∈ graph.ids → Reachable graph starts id
  /-- the target of an edge from a node that is reached -/
  | next {id target : String} : Reachable graph starts id → target ∈ graph.successors id →
      Reachable graph starts target

/-- The ids that are reached, besides those reached already, from the ids still
to be looked at. -/
def explore (graph : Graph) (reached : List String) : List String → List String
  | [] => reached
  | id :: pending =>
    if h : id ∈ graph.ids ∧ id ∉ reached then
      have := countOutside_cons_lt h.1 h.2
      explore graph (id :: reached) (graph.successors id ++ pending)
    else explore graph reached pending
termination_by pending => (graph.countOutside reached, pending.length)

/-- The ids that are reached from where a run may start. -/
def reached (graph : Graph) : List String :=
  graph.explore [] (graph.starts.map (·.id))

end Graph

namespace Check

/-- Whether there is a trigger, and which nodes are never reached. -/
def reachFaults (graph : Graph) : List Finding :=
  let reached := graph.reached
  (if graph.triggers.isEmpty then [.noTrigger] else [])
    ++ (graph.nodes.filter fun node => node.id ∉ reached).map .unreachable

end Check

end FormAutomation
