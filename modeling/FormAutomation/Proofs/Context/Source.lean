import FormAutomation.Context
import FormAutomation.Proofs.Value.Segment

/-!
# What mappings copy and what references find

Templates and conditions look a reference up in the context; the source of a mapping is looked
up there only if the context has an entry of its name, or of the name that it starts with, and
else in the last response.  Where the starting name ends is settled in two ways.  A path enters
the context by its first segment, which is a name as a whole unless it ends in an index; the
root of a source ends at the first bracket, whatever the bracket is there for.

As long as brackets begin indices the two agree, and a mapping copies what a reference finds.
The name of a field that asks for several answers, as in `guests[].count`, has a bracket of
another kind: its entry is passed over, and the mapping reads the last response.
-/

namespace FormAutomation

/-! ## Segments with brackets -/

namespace Text

/-- The first piece is what stands before the first separator. -/
theorem exists_splitOn_eq_cons (separator : Char) (cs : List Char) :
    ∃ rest, splitOn separator cs = cs.takeWhile (· != separator) :: rest := by
  induction cs with
  | nil => exact ⟨[], rfl⟩
  | cons c cs ih =>
    by_cases h : c = separator
    · exact ⟨splitOn separator cs, by simp [splitOn, h]⟩
    · obtain ⟨rest, hrest⟩ := ih
      exact ⟨rest, by simp [splitOn, h, hrest]⟩

end Text

namespace Segment

/-- The segment has an opening bracket, but does not end in an index. -/
def HasStrayBracket (cs : List Char) : Prop :=
  '[' ∈ cs ∧ indexed? cs = none

/-- The name of a segment that ends in an index is what stands before its opening bracket. -/
theorem takeWhile_of_indexed? {cs name : List Char} {index : Nat}
    (h : indexed? cs = some (name, index)) : cs.takeWhile (· != '[') = name := by
  obtain ⟨after, -, hname, digits, -, rfl⟩ := endsInIndex_of_indexed? h
  have hplain : ∀ c ∈ name, (c != '[') = true := by
    intro c hc
    have hbracket := hname c hc
    rw [isBracket, Bool.or_eq_false_iff] at hbracket
    rw [bne, hbracket.1, Bool.not_false]
  rw [List.takeWhile_append_of_pos hplain]
  simp

end Segment

/-! ## Where a path enters the context -/

namespace Value

theorem select_cons (v : Value) (segment : Segment) (rest : Path) :
    v.select (segment :: rest) = (v.follow segment).select rest := rfl

/-- Every path leads somewhere in some value. -/
theorem exists_select_eq (path : Path) (inner : Value) : ∃ v : Value, v.select path = inner := by
  induction path with
  | nil => exact ⟨inner, rfl⟩
  | cons segment rest ih =>
    obtain ⟨v, hv⟩ := ih
    cases segment with
    | named name =>
      refine ⟨.object [(name, v)], ?_⟩
      rw [select_cons, ← hv]
      simp [follow, child, field]
    | indexed name index =>
      -- a list whose last item is the one at the index
      have hitem : (Value.list (List.replicate index .null ++ [v])).item index = v := by
        simp [item]
      by_cases hname : name = ""
      · refine ⟨.list (List.replicate index .null ++ [v]), ?_⟩
        rw [select_cons, ← hv, follow, if_pos hname, hitem]
      · refine ⟨.object [(name, .list (List.replicate index .null ++ [v]))], ?_⟩
        have hchild : (Value.object [(name, .list (List.replicate index .null ++ [v]))]).child name
            = .list (List.replicate index .null ++ [v]) := by
          simp [child, field]
        rw [select_cons, ← hv, follow, if_neg hname, hchild, hitem]

end Value

namespace Context

/-- The first segment of a written path. -/
def firstOf (source : String) : String :=
  String.ofList (source.toList.takeWhile (· != '.'))

/-- The path starts from an entry of the context, but neither the whole path nor its root is
the name of one. -/
structure PassesOver (context : Context) (source : String) : Prop where
  /-- there is no entry of the whole name -/
  named : context.lookup source = none
  /-- there is none of the name before the first bracket -/
  root : context.lookup (rootOf source) = none
  /-- there is one of the name before the first point -/
  first : context.has (firstOf source) = true

variable {context : Context} {source : String}

theorem rootOf_eq (source : String) :
    rootOf source = String.ofList ((firstOf source).toList.takeWhile (· != '[')) := by
  rw [firstOf, String.toList_ofList, List.takeWhile_takeWhile, rootOf]
  congr 2
  funext c
  rw [Bool.and_comm, Bool.decide_and, Bool.decide_eq_true, Bool.decide_eq_true]

theorem ofText_eq_cons (hne : source ≠ "") (hroot : source ≠ "$") :
    ∃ rest, Path.ofText source = Segment.ofChars (firstOf source).toList :: rest := by
  obtain ⟨rest, hrest⟩ := Text.exists_splitOn_eq_cons '.' source.toList
  refine ⟨rest.map Segment.ofChars, ?_⟩
  rw [Path.ofText, if_neg (by simp [hne, hroot]), hrest, firstOf, String.toList_ofList]
  rfl

/-- A segment that is a name leads to the entry of that name. -/
theorem follow_ofChars_of_indexed?_eq_none {segment : String}
    (h : Segment.indexed? segment.toList = none) :
    (Value.object context).follow (Segment.ofChars segment.toList)
      = (context.lookup segment).getD .null := by
  rw [Segment.ofChars, h, String.ofList_toList]
  rfl

/-- A segment that ends in an index leads into the entry of the name before the bracket. -/
theorem follow_ofChars_of_indexed? {segment : String} {name : List Char} {index : Nat}
    (h : Segment.indexed? segment.toList = some (name, index))
    (hnone : context.lookup (String.ofList (segment.toList.takeWhile (· != '['))) = none) :
    (Value.object context).follow (Segment.ofChars segment.toList) = .null := by
  rw [Segment.takeWhile_of_indexed? h] at hnone
  rw [Segment.ofChars, h]
  dsimp only
  rw [Value.follow]
  split
  · rfl
  · simp [Value.child, Value.field, hnone]

/-- A path that leads somewhere though the context has neither its name nor its root enters by
a name with a stray bracket. -/
theorem hasStrayBracket_of_resolve_ne (hne : source ≠ "") (hroot : source ≠ "$")
    (hnamed : context.lookup source = none) (hrootOf : context.lookup (rootOf source) = none)
    (h : context.resolve source ≠ .null) :
    context.has (firstOf source) = true ∧ Segment.HasStrayBracket (firstOf source).toList := by
  obtain ⟨rest, hpath⟩ := ofText_eq_cons hne hroot
  rw [resolve_of_lookup_none hnamed, hpath, Value.select_cons] at h
  rcases hindexed : Segment.indexed? (firstOf source).toList with _ | ⟨name, index⟩
  · rw [follow_ofChars_of_indexed?_eq_none hindexed] at h
    rcases hfirst : context.lookup (firstOf source) with _ | v
    · simp [hfirst] at h
    · refine ⟨by simp [Entries.has, hfirst], ?_, hindexed⟩
      -- without a bracket the first segment would be the root
      by_contra hbracket
      have hall : (firstOf source).toList.takeWhile (· != '[') = (firstOf source).toList :=
        List.takeWhile_eq_self_iff.2 fun c hc => by
          simpa using fun hc' : c = '[' => hbracket (hc' ▸ hc)
      rw [rootOf_eq, hall, String.ofList_toList, hfirst] at hrootOf
      cases hrootOf
  · rw [rootOf_eq] at hrootOf
    rw [follow_ofChars_of_indexed? hindexed hrootOf, Value.select_null] at h
    exact absurd rfl h

/-! ## Mappings beside references -/

/-- What a mapping copies that has this source, beside what a reference to it finds. -/
structure IsCopiedAsFound (source : String) : Prop where
  /-- where a reference finds something, the mapping copies it, unless it passes over the entry
  that the path starts from -/
  same : ∀ context : Context, context.resolve source ≠ .null → ¬ context.PassesOver source →
    context.resolveSource source = context.resolve source
  /-- it then follows the path in the last response -/
  passed : ∀ context : Context, context.PassesOver source →
    context.resolveSource source
      = ((context.lookup responseName).getD .null).select (Path.ofText source)
  /-- there is a context in which the two differ exactly if the path goes on from a name with a
  stray bracket -/
  differs_iff : (∃ context : Context, context.resolve source ≠ .null
      ∧ context.resolveSource source ≠ context.resolve source)
    ↔ '.' ∈ source.toList ∧ Segment.HasStrayBracket (firstOf source).toList

theorem resolveSource_of_lookup_none (hne : source ≠ "") (h : context.lookup source = none) :
    context.resolveSource source
      = if context.has (rootOf source) then (Value.object context).select (Path.ofText source)
        else ((context.lookup responseName).getD .null).select (Path.ofText source) := by
  rw [resolveSource, if_neg hne, h]

theorem resolveSource_of_passesOver (hne : source ≠ "") (h : context.PassesOver source) :
    context.resolveSource source
      = ((context.lookup responseName).getD .null).select (Path.ofText source) := by
  rw [resolveSource_of_lookup_none hne h.named]
  simp [Entries.has, h.root]

/-- Where a reference finds something, the mapping copies it or passes over the entry that the
path starts from, which has a stray bracket then. -/
theorem resolveSource_eq_or_passesOver (hne : source ≠ "") (hroot : source ≠ "$")
    (h : context.resolve source ≠ .null) :
    context.resolveSource source = context.resolve source
      ∨ context.PassesOver source ∧ Segment.HasStrayBracket (firstOf source).toList := by
  rcases hnamed : context.lookup source with _ | v
  · rcases hrootOf : context.lookup (rootOf source) with _ | v
    · obtain ⟨hfirst, hstray⟩ := hasStrayBracket_of_resolve_ne hne hroot hnamed hrootOf h
      exact .inr ⟨⟨hnamed, hrootOf, hfirst⟩, hstray⟩
    · left
      rw [resolveSource_of_lookup_none hne hnamed, resolve_of_lookup_none hnamed]
      simp [Entries.has, hrootOf]
  · left
    rw [resolve_of_lookup hnamed, resolveSource, if_neg hne, hnamed]

/-- An entry with a stray bracket in its name is passed over by any path that goes on from it,
unless another entry helps. -/
theorem exists_resolveSource_ne (hpoint : '.' ∈ source.toList)
    (hstray : Segment.HasStrayBracket (firstOf source).toList) :
    ∃ context : Context, context.resolve source ≠ .null
      ∧ context.resolveSource source ≠ context.resolve source := by
  have hne : source ≠ "" := by
    rintro rfl
    exact absurd hpoint (by decide)
  have hroot : source ≠ "$" := by
    rintro rfl
    exact absurd hpoint (by decide)
  obtain ⟨rest, hpath⟩ := ofText_eq_cons hne hroot
  obtain ⟨v, hv⟩ := Value.exists_select_eq rest (.bool true)
  -- the entry is the only one of the context, and no other name that is asked for is its own
  have hlookup : ∀ name, name ≠ firstOf source →
      List.lookup name [(firstOf source, v)] = none := by
    intro name hname
    rw [Entries.lookup_cons, if_neg hname]
    rfl
  have hnamed : List.lookup source [(firstOf source, v)] = none := by
    refine hlookup source fun heq => ?_
    rw [heq, firstOf, String.toList_ofList] at hpoint
    simpa using List.mem_takeWhile_imp hpoint
  have hrootOf : List.lookup (rootOf source) [(firstOf source, v)] = none := by
    refine hlookup _ fun heq => ?_
    have hbracket := hstray.1
    rw [← heq, rootOf_eq, String.toList_ofList] at hbracket
    simpa using List.mem_takeWhile_imp hbracket
  have hresponse : List.lookup responseName [(firstOf source, v)] = none := by
    refine hlookup _ fun heq => ?_
    rw [← heq] at hstray
    exact absurd hstray.1 (by decide)
  have hfound : resolve [(firstOf source, v)] source = .bool true := by
    rw [resolve_of_lookup_none hnamed, hpath, Value.select_cons,
      follow_ofChars_of_indexed?_eq_none hstray.2, List.lookup_cons_self]
    exact hv
  have hcopied : resolveSource [(firstOf source, v)] source = .null := by
    rw [resolveSource_of_passesOver hne ⟨hnamed, hrootOf, by simp [Entries.has]⟩, hresponse]
    simp
  refine ⟨[(firstOf source, v)], ?_, ?_⟩
  · rw [hfound]
    exact nofun
  · rw [hfound, hcopied]
    exact nofun

/-- A path that is no further than its first segment has the name of that segment. -/
theorem firstOf_eq_self (h : '.' ∉ source.toList) : firstOf source = source := by
  have hall : source.toList.takeWhile (· != '.') = source.toList :=
    List.takeWhile_eq_self_iff.2 fun c hc => by simpa using fun hc' : c = '.' => h (hc' ▸ hc)
  rw [firstOf, hall, String.ofList_toList]

/-- A source that is a path is copied as it is found, but for entries that are passed over. -/
theorem isCopiedAsFound (hne : source ≠ "") (hroot : source ≠ "$") : IsCopiedAsFound source where
  same := by
    intro context hfound hpassed
    rcases resolveSource_eq_or_passesOver hne hroot hfound with h | ⟨h, -⟩
    · exact h
    · exact absurd h hpassed
  passed := fun _ h => resolveSource_of_passesOver hne h
  differs_iff := by
    constructor
    · rintro ⟨context, hfound, hdiffers⟩
      obtain ⟨hpassed, hstray⟩ :=
        (resolveSource_eq_or_passesOver hne hroot hfound).resolve_left hdiffers
      refine ⟨?_, hstray⟩
      by_contra hpoint
      -- the path would be the name of the entry
      have hfirst := hpassed.first
      rw [firstOf_eq_self hpoint, Entries.has, hpassed.named] at hfirst
      cases hfirst
    · rintro ⟨hpoint, hstray⟩
      exact exists_resolveSource_ne hpoint hstray

/-- The guests that were named, and an answer that came back about them. -/
def booked : Context :=
  [("guests", .list [.object [("name", .text "Ann")], .object [("name", .text "Bob")]]),
   ("response", .object [("guests", .list [])])]

/-- A bracket that begins an index is no obstacle. -/
theorem isCopiedAsFound_booked :
    ("guests[1].name" ≠ "" ∧ "guests[1].name" ≠ "$") ∧ IsCopiedAsFound "guests[1].name"
      ∧ booked.resolve "guests[1].name" ≠ .null ∧ ¬ booked.PassesOver "guests[1].name"
      ∧ booked.resolveSource "guests[1].name" = .text "Bob" := by
  have hcopied : IsCopiedAsFound "guests[1].name" := isCopiedAsFound (by decide) (by decide)
  have hfound : booked.resolve "guests[1].name" = .text "Bob" := rfl
  have hsome : booked.resolve "guests[1].name" ≠ .null := by
    rw [hfound]
    exact nofun
  have hpassed : ¬ booked.PassesOver "guests[1].name" := fun h => nomatch h.root
  exact ⟨⟨by decide, by decide⟩, hcopied, hsome, hpassed,
    (hcopied.same booked hsome hpassed).trans hfound⟩

/-- A field that asks for several answers, and an answer that came back about it. -/
def invited : Context :=
  [("guests[]", .object [("count", .int 2)]),
   ("response", .object [("guests[]", .object [("count", .int 5)])])]

/-- What a reference finds under the name of the field is not what a mapping copies. -/
theorem resolveSource_invited_ne_resolve :
    ¬ ∀ (context : Context) (source : String), source ≠ "" → source ≠ "$" →
      context.resolve source ≠ .null →
        context.resolveSource source = context.resolve source := by
  intro h
  have hfound : invited.resolve "guests[].count" = .int 2 := rfl
  have hcopied : invited.resolveSource "guests[].count" = .int 5 := rfl
  have hsame := h invited "guests[].count" (by decide) (by decide) (by
    rw [hfound]
    exact nofun)
  rw [hfound, hcopied] at hsame
  cases hsame

end Context

end FormAutomation
