import FormAutomation.Proofs.Payload.Alike
import FormAutomation.Proofs.Payload.OlderShape

/-!
# Older payloads are read like present ones

At every node of a payload it may be chosen anew in which shape its configuration stands.
Whatever was chosen, loading tells no difference: the graph is the same one, or the
complaints are the same and name the same places.

For the two shapes of a configuration migrate to configurations that answer alike, so that
the nodes can be taken for each other.
-/

namespace FormAutomation.Payload

open Entries Migration

/-! ## One node in two shapes -/

/-- A node in its present shape, and the same one with its configuration in an older shape. -/
inductive RecodesNode : Value → Value → Prop where
  /-- it is as it was -/
  | same (v : Value) : RecodesNode v v
  /-- its configuration is in an older shape -/
  | recoded {fields fields' config older : Entries Value}
      (hother : ∀ name ≠ "config", fields'.lookup name = fields.lookup name)
      (hconfig : fields.lookup "config" = some (.object config))
      (holder : fields'.lookup "config" = some (.object older))
      (h : Recodes ((fields.lookup "type").getD .null) config older) :
      RecodesNode (.object fields) (.object fields')

/-- The two shapes of a node can be taken for each other. -/
theorem RecodesNode.interchangeable {v w : Value} (h : RecodesNode v w) : Interchangeable v w := by
  cases h with
  | same => exact .refl v
  | @recoded fields fields' config older hother hconfig holder h =>
    refine interchangeable_of_configsAlike (fun name _ hname => (hother name hname).symm) ?_
    rw [hconfig, holder]
    exact fun kind _ name name' location => Schema.action_congr (h.agree name name') kind location

/-! ## One payload in two shapes -/

/-- A payload in its present shape, and the same one with any of its nodes in an older shape. -/
inductive Recoded : Value → Value → Prop where
  /-- it is as it was -/
  | same (payload : Value) : Recoded payload payload
  /-- its nodes are recoded one by one -/
  | recoded {payload older : Value} {fields fields' : Entries Value} {items items' : List Value}
      (hvalue : value payload = .ok (.object fields)) (holder : value older = .ok (.object fields'))
      (hother : ∀ name ≠ "nodes", fields'.lookup name = fields.lookup name)
      (hnodes : fields.lookup "nodes" = some (.list items))
      (hnodes' : fields'.lookup "nodes" = some (.list items'))
      (h : List.Forall₂ RecodesNode items items') : Recoded payload older

/-- Loading tells no older shape from the present one: it gives the same graph and the same
workflow, or refuses them for the same reason. -/
theorem load_recoded {payload older : Value} (h : Recoded payload older) :
    loadGraph older = loadGraph payload ∧ loadWorkflow older = loadWorkflow payload := by
  cases h with
  | same => exact ⟨rfl, rfl⟩
  | recoded hvalue holder hother hnodes hnodes' h =>
    have halike (names : List String) :
        Schema.FieldsAlike names Interchangeable _ _ :=
      ⟨by rw [hnodes, hnodes']; exact .lists (h.imp fun _ _ h => h.interchangeable),
        by rw [hother "edges" (by decide)]; exact .same _,
        fun name _ hname _ => (hother name hname).symm⟩
    exact ⟨loadBy_congr (fun _ _ => Schema.graph_congr) hvalue holder (halike _),
      loadBy_congr (fun _ _ => Schema.workflow_congr) hvalue holder (halike _)⟩

/-- A node with its configuration in an older shape. -/
def Recoding.node (recoding : Recoding) : Value → Value
  | .object fields =>
    match fields.lookup "config" with
    | some (.object config) =>
      .object (Entries.put fields "config"
        (.object (recoding.apply ((fields.lookup "type").getD .null) config)))
    | _ => .object fields
  | v => v

/-- Nothing stands in an older place in the configuration of the node. -/
def IsCurrent : Value → Prop
  | .object fields => ∀ config, fields.lookup "config" = some (.object config) →
    ∀ name ∈ olderPlaces ((fields.lookup "type").getD .null), config.lookup name = none
  | _ => True

/-- A node in its present shape can be put into an older one. -/
theorem Recoding.recodesNode (recoding : Recoding) {v : Value} (h : IsCurrent v) :
    RecodesNode v (recoding.node v) := by
  unfold Recoding.node
  split
  · next fields =>
    split
    · next config hconfig =>
      refine .recoded (fun name hname => ?_) hconfig ?_
        (recoding.recodes_apply (h config hconfig))
      · rw [lookup_put, if_neg hname]
      · rw [lookup_put, if_pos rfl]
    · exact .same _
  · exact .same _

/-- A request and a message. -/
def notice : Value :=
  .object [("id", .text "notice"), ("nodes", .list [
    .object [("id", .text "ask"), ("type", .text "callApi"),
      ("config", .object [("url", .text "https://example.com"), ("method", .text "POST")])],
    .object [("id", .text "tell"), ("type", .text "showDialog"),
      ("config", .object [("title", .text "Done"), ("message", .text "Sent.")])]])]

/-- The same in an older shape: the request in a block, its method in small letters, and one
entry of the message under its older name. -/
def olderNotice : Value :=
  .object [("id", .text "notice"), ("nodes", .list [
    .object [("id", .text "ask"), ("type", .text "callApi"),
      ("config", .object [("api", .object [("url", .text "https://example.com"),
        ("method", .text "post")])])],
    .object [("id", .text "tell"), ("type", .text "showDialog"),
      ("config", .object [("dialogTitle", .text "Done"), ("message", .text "Sent.")])]])]

/-- All of a request and the titles of messages go where they used to stand. -/
def noticeRecoding : Recoding where
  moves name := name != "message"
  spell s := if s = "POST" then "post" else s
  spelled s := by
    by_cases h : s = "POST"
    · subst h
      exact .inr ⟨Text.isPlain_of_all (by decide), Text.isPlain_of_all (by decide), by decide⟩
    · exact .inl (if_neg h)

theorem recoded_notice : Recoded notice olderNotice := by
  refine .recoded rfl rfl (fun name hname => ?_) rfl rfl (.cons ?_ (.cons ?_ .nil))
  · simp [lookup_cons, hname]
  · refine noticeRecoding.recodesNode ?_
    intro config hconfig
    simp [lookup_cons] at hconfig
    subst hconfig
    decide
  · refine noticeRecoding.recodesNode ?_
    intro config hconfig
    simp [lookup_cons] at hconfig
    subst hconfig
    decide

/-- The older notice is loaded as the present one is. -/
theorem load_recoded_notice : Recoded notice olderNotice
    ∧ loadGraph olderNotice = loadGraph notice ∧ loadWorkflow olderNotice = loadWorkflow notice :=
  ⟨recoded_notice, load_recoded recoded_notice⟩

end FormAutomation.Payload
