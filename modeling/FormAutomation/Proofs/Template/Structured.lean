import FormAutomation.Proofs.Template.Cut
import FormAutomation.Proofs.Value.ReadBack

/-!
# Structured values in templates

A list or an object goes into a template as JSON without a space.  When nothing else stands in
the template, the filled template is read as that very list or object: its texts character by
character, its numbers whatever their size, its entries in their order.  A text and a number in
one template could not be told apart in this way; two lists or objects without doubles always can.
-/

namespace FormAutomation

/-- A list or an object. -/
def Value.IsContainer : Value → Prop
  | .list _ => True
  | .object _ => True
  | _ => False

theorem Value.toText_of_isContainer {v : Value} (h : v.IsContainer) : v.toText = v.compact := by
  cases v with
  | list items => rfl
  | object fields => rfl
  | _ => cases h

theorem Json.parse_toText {v : Value} (hbuilt : v.IsBuilt) (hcontainer : v.IsContainer) :
    Json.parse v.toText = .ok v := by
  rw [Value.toText_of_isContainer hcontainer]
  exact Json.parse_compact hbuilt

namespace Template

variable {reference token : List Char}

/-- A token by itself is one piece. -/
theorem scan_token (h : IsToken reference token) :
    scan 0 token = [.token (String.ofList reference)] := by
  have hfound := h.tokenAt?_append []
  rw [List.append_nil] at hfound
  match token, hfound, h.braces.2.2 with
  | c :: cs, hfound, _ =>
    rw [scan, hfound]
    dsimp only
    rw [scan_eq_drop, List.length_cons, Nat.add_sub_cancel, List.drop_length]
    rfl

/-- Nothing but the text of the value comes of a token by itself. -/
theorem fill_token (h : IsToken reference token) (context : Context) :
    fill (String.ofList token) context = (context.resolve (String.ofList reference)).toText := by
  rw [← String.toList_inj, toList_fill, pieces, String.toList_ofList, scan_token h,
    fillPieces_token, fillPieces_nil, List.append_nil, textOf]

/-- A value survives being filled in. -/
structure SurvivesFilling (v : Value) : Prop where
  /-- a template that is nothing but the token of a name is read as what stands under it -/
  readBack : ∀ (name : String) (token : List Char) (context : Context),
    IsToken name.toList token → context.lookup name = some v →
      Json.parse (fill (String.ofList token) context) = .ok v
  /-- its text is that of no other list or object -/
  apart : ∀ w : Value, w.IsBuilt → w.IsContainer → w ≠ v → w.toText ≠ v.toText

/-- Lists and objects without doubles survive being filled in. -/
theorem survivesFilling {v : Value} (hbuilt : v.IsBuilt) (hcontainer : v.IsContainer) :
    SurvivesFilling v where
  readBack := by
    intro name token context htoken hlookup
    rw [fill_token htoken, String.ofList_toList, Context.resolve_of_lookup hlookup]
    exact Json.parse_toText hbuilt hcontainer
  apart := by
    intro w hw hwcontainer hne htext
    have hread : (.ok w : Except Json.Fault Value) = .ok v := by
      rw [← Json.parse_toText hw hwcontainer, htext, Json.parse_toText hbuilt hcontainer]
    exact hne (Except.ok.inj hread)

/-- An object with escapes in its names and texts, and names in no order. -/
def mixedObject : Value :=
  .object
    [("q\"\\\n\u0001é", .list [.int (-1000000000000000000000000), .text "\u0000\u001f/\t"]),
      ("b", .object [("b", .list [.list [], .null]), ("a", .text "")]), ("a", .bool false)]

theorem survivesFilling_mixedObject :
    mixedObject.IsBuilt ∧ mixedObject.IsContainer
      ∧ Json.parse (fill "{{ row[0].id }}" [("row", .null), ("row[0].id", mixedObject)])
        = .ok mixedObject := by
  have hbuilt : mixedObject.IsBuilt := by simp [mixedObject]
  have hblank : ∀ c ∈ [' '], Text.isBlank c = true := List.forall_mem_singleton.2 rfl
  have hallowed : ∀ c ∈ "row[0].id".toList, isReferenceChar c = true :=
    List.all_eq_true.1 (by decide)
  have htoken : IsToken "row[0].id".toList "{{ row[0].id }}".toList :=
    ⟨by decide, hallowed, [' '], [' '], hblank, hblank, by decide⟩
  have hread := (survivesFilling hbuilt trivial).readBack "row[0].id" "{{ row[0].id }}".toList
    [("row", .null), ("row[0].id", mixedObject)] htoken rfl
  rw [String.ofList_toList] at hread
  exact ⟨hbuilt, trivial, hread⟩

end Template

end FormAutomation
