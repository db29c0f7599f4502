import FormAutomation.Command.Invocation
import Mathlib.Tactic.SplitIfs

/-!
# Values among the arguments

What arguments do does not hang on the texts that the flags before them were given.  So where a
run is asked for and the values of the form are given first, any two texts of them ask for the
same, but for the values themselves.
-/

namespace FormAutomation.Command

/-! ## Arguments after others -/

/-- What was read after the words and these flags. -/
def Given.after (words : List String) (flags : List (String × Option String)) (given : Given) :
    Given :=
  { given with words, flags := given.flags ++ flags }

section

variable {words : List String} {flags : List (String × Option String)} {given : Given}
  {known : List Flag} {places : Nat} {flag : Flag}

/-- Where all words are there, none is taken. -/
theorem take_after (hw : places ≤ words.length) (text : String) :
    take places (given.after words flags) text = (take 0 given text).after words flags := by
  have hnone : take 0 given text = { given with unknown := true } := if_neg (Nat.not_lt_zero _)
  rw [hnone]
  exact if_neg (Nat.not_lt.2 hw)

theorem set_after (value : String) :
    set (given.after words flags) flag value
      = (set given flag value).map (·.after words flags) := by
  unfold set
  split_ifs <;> rfl

theorem act_after :
    act (given.after words flags) flag = (act given flag).map (·.after words flags) := by
  unfold act
  split_ifs <;> rfl

theorem foldlM_act_after (row : List Flag) :
    row.foldlM act (given.after words flags)
      = (row.foldlM act given).map (·.after words flags) := by
  induction row generalizing given with
  | nil => rfl
  | cons flag row ih =>
    rw [List.foldlM_cons, List.foldlM_cons, act_after]
    rcases act given flag with stop | given
    · rfl
    · exact ih

theorem actTogether_after (name value : String) :
    actTogether known (given.after words flags) flag name value
      = (actTogether known given flag name value).map (·.after words flags) := by
  unfold actTogether
  split
  · exact foldlM_act_after _
  · rfl

theorem bind_after {x : Except Stop Given} {read read' : Given → Except Stop Given}
    (h : ∀ given, read (given.after words flags) = (read' given).map (·.after words flags)) :
    x.map (·.after words flags) >>= read = (x >>= read').map (·.after words flags) := by
  rcases x with stop | given
  · rfl
  · exact h given

/-- What is read of arguments does not hang on what was given before. -/
theorem readTokens_after (hw : places ≤ words.length) (tokens : List Token) :
    readTokens known places (given.after words flags) tokens
      = (readTokens known 0 given tokens).map (·.after words flags) := by
  fun_induction readTokens known 0 given tokens with
  | case1 given =>
    rw [readTokens]
    rfl
  | case2 given text =>
    rw [readTokens, take_after hw]
    rfl
  | case3 given text rest hend ih =>
    rw [readTokens, take_after hw, ih]
    exact hend
  | case4 given text rest ih => rw [readTokens, take_after hw, ih]
  | case5 given rest hword ih =>
    rw [readTokens]
    · exact ih
    · exact hword
  | case6 given rest ih =>
    rw [readTokens]
    exact ih
  | case7 given flag name value rest read h ih =>
    rw [readTokens]
    simp only [if_pos h, set_after]
    exact bind_after ih
  | case8 given flag name value rest read h ih =>
    rw [readTokens]
    simp only [if_neg h, actTogether_after]
    exact bind_after ih
  | case9 given flag name h value rest ih =>
    rw [readTokens]
    simp only [if_pos h, set_after]
    exact bind_after ih
  | case10 given flag name rest h hword =>
    rw [readTokens]
    · rw [if_pos h]
      rfl
    · exact hword
  | case11 given flag name rest h ih =>
    rw [readTokens.eq_def]
    simp only [if_neg h, act_after]
    exact bind_after ih

end

/-! ## Words -/

/-- An argument is a word if it does not start with a hyphen. -/
def IsWord (text : String) : Prop :=
  text.toList.head? ≠ some '-'

instance (text : String) : Decidable (IsWord text) :=
  inferInstanceAs (Decidable (_ ≠ _))

section

variable {flags : List Flag} {argument : String} {token : Token}

theorem tell_of_isWord (h : IsWord argument) : tell flags argument = .ok (.word argument) := by
  have hstart : argument.startsWith "-" = false := by
    rw [Bool.eq_false_iff]
    intro hstart
    obtain ⟨rest, hrest⟩ := String.startsWith_string_iff.1 hstart
    exact h (by rw [← hrest]; rfl)
  rw [tell, hstart]
  rfl

theorem IsWord.ne_hyphens (h : IsWord argument) : argument ≠ "--" := by
  rintro rfl
  exact h rfl

theorem tellAll_cons (hne : argument ≠ "--") (h : tell flags argument = .ok token)
    (rest : List String) :
    tellAll flags (argument :: rest) = (tellAll flags rest).map (token :: ·) := by
  rw [tellAll, if_neg hne, h]
  rcases tellAll flags rest with why | tokens <;> rfl

theorem tellAll_word (h : IsWord argument) (rest : List String) :
    tellAll flags (argument :: rest) = (tellAll flags rest).map (.word argument :: ·) :=
  tellAll_cons h.ne_hyphens (tell_of_isWord h) rest

end

theorem tell_valuesFlag :
    tell CommandKind.run.flags valuesFlag.name = .ok (.flag valuesFlag valuesFlag.name none) := by
  have hstart : valuesFlag.name.startsWith "-" = true :=
    String.startsWith_string_iff.2 ⟨['-', 'v', 'a', 'l', 'u', 'e', 's'], rfl⟩
  rw [tell, hstart]
  rfl

/-! ## The arguments of a run -/

/-- The arguments of a run whose values are given first. -/
def runArguments (graph values : String) (options : List String) : List String :=
  CommandKind.run.name :: graph :: valuesFlag.name :: values :: options

variable {graph values : String}

/-- What is read of the arguments behind the values. -/
def readBehind (rest : List String) : Except Stop Given :=
  ((tellAll CommandKind.run.flags rest).mapError .fault).bind
    (readTokens CommandKind.run.flags 0 {})

/-- The values are taken, and the rest is read behind them. -/
theorem readArguments_values (hg : IsWord graph) (hv : IsWord values) (rest : List String) :
    readArguments CommandKind.run.flags CommandKind.run.places
        (graph :: valuesFlag.name :: values :: rest)
      = (readBehind rest).map (·.after [graph] [(valuesFlag.name, some values)]) := by
  have hset : ∀ given, set given valuesFlag values
      = .ok { given with flags := (valuesFlag.name, some values) :: given.flags } := fun given => by
    rw [set, if_neg hv.ne_hyphens]
    rfl
  rw [readArguments, tellAll_word hg, tellAll_cons (by decide) tell_valuesFlag, tellAll_word hv,
    readBehind]
  rcases tellAll CommandKind.run.flags rest with why | tokens
  · rfl
  · simp only [Except.map, Except.mapError, bind, Except.bind]
    rw [readTokens, readTokens, if_pos (by rfl), hset]
    · exact @readTokens_after [graph] _ {} _ 1 (Nat.le_refl 1) tokens
    · intro hend
      cases hend

/-! ## What is asked for -/

section

variable {words : List String} {given : Given} {name : String} {text : Option String}

theorem lookup_after (hn : name ≠ valuesFlag.name) :
    (given.after words [(valuesFlag.name, text)]).flags.lookup name = given.flags.lookup name := by
  have hbeq : (name == valuesFlag.name) = false := beq_eq_false_iff_ne.2 hn
  rw [Given.after, List.lookup_append, List.lookup_cons, hbeq]
  exact Option.or_none

theorem has_after (hn : name ≠ valuesFlag.name) :
    (given.after words [(valuesFlag.name, text)]).has name = given.has name := by
  rw [Given.has, lookup_after hn, Given.has]

theorem text?_after (hn : name ≠ valuesFlag.name) :
    (given.after words [(valuesFlag.name, text)]).text? name = given.text? name := by
  rw [Given.text?, lookup_after hn, Given.text?]

theorem budget_after :
    (given.after words [(valuesFlag.name, text)]).budget = given.budget := by
  rw [Given.budget, Given.budget, has_after (by decide), text?_after (by decide)]

/-- The values are those given, unless others are given behind them. -/
theorem values_after :
    (given.after words [(valuesFlag.name, text)]).text? valuesFlag.name
      = ((given.flags.lookup valuesFlag.name).or (some text)).join := by
  rw [Given.text?, Given.after, List.lookup_append, List.lookup_cons_self]

theorem invocation_after :
    CommandKind.run.invocation (given.after [graph] [(valuesFlag.name, text)])
      = .ok (.run graph ((given.flags.lookup valuesFlag.name).or (some text)).join
        (given.text? eventFlag.name) (given.text? fieldFlag.name) given.budget
        (given.has "--json")) := by
  simp only [CommandKind.invocation, has_after (show "--json" ≠ valuesFlag.name by decide),
    text?_after (show eventFlag.name ≠ valuesFlag.name by decide),
    text?_after (show fieldFlag.name ≠ valuesFlag.name by decide), budget_after, values_after]
  rfl

end

/-- What is asked for with these values, given what was read behind them. -/
def askedWith (graph values : String) : Except Stop Given → Asked
  | .error .help => .help (some .run)
  | .error (.fault why) => .fault why
  | .ok given =>
    if given.unknown then .fault .tooMany
    else .invocation (.run graph ((given.flags.lookup valuesFlag.name).or (some (some values))).join
      (given.text? eventFlag.name) (given.text? fieldFlag.name) given.budget (given.has "--json"))

theorem asked_values (hg : IsWord graph) (hv : IsWord values) (rest : List String) :
    CommandKind.run.asked false (graph :: valuesFlag.name :: values :: rest)
      = askedWith graph values (readBehind rest) := by
  rw [CommandKind.asked, readArguments_values hg hv]
  rcases readBehind rest with stop | given
  · cases stop <;> rfl
  · simp only [Except.map, invocation_after, askedWith]
    rfl

/-- A run on the values is asked for, whatever they are. -/
def AsksFor (graph : String) (ask : String → Asked) : Prop :=
  ∃ event field budget json, ∀ values, IsWord values →
    ask values = .invocation (.run graph (some values) event field budget json)

/-- The values make no difference to what is asked for, or a run on them is asked for. -/
def AsksAlike (graph : String) (ask : String → Asked) : Prop :=
  (∃ answer, ∀ values, IsWord values → ask values = answer) ∨ AsksFor graph ask

theorem AsksAlike.asksFor {ask : String → Asked} (h : AsksAlike graph ask)
    (hne : ask "a" ≠ ask "b") : AsksFor graph ask := by
  rcases h with ⟨answer, h⟩ | h
  · exact absurd ((h _ (by decide)).trans (h _ (by decide)).symm) hne
  · exact h

theorem asksAlike_askedWith (graph : String) (read : Except Stop Given) :
    AsksAlike graph fun values => askedWith graph values read := by
  rcases read with stop | given
  · cases stop with
    | help => exact .inl ⟨.help (some .run), fun _ _ => rfl⟩
    | fault why => exact .inl ⟨.fault why, fun _ _ => rfl⟩
  by_cases hu : given.unknown = true
  · exact .inl ⟨.fault .tooMany, fun _ _ => if_pos hu⟩
  have hknown : ∀ values, askedWith graph values (.ok given)
      = .invocation (.run graph
        ((given.flags.lookup valuesFlag.name).or (some (some values))).join
        (given.text? eventFlag.name) (given.text? fieldFlag.name) given.budget
        (given.has "--json")) := fun values => if_neg hu
  -- of values that are given twice the last ones count
  rcases hlater : given.flags.lookup valuesFlag.name with _ | later
  · rw [hlater] at hknown
    exact .inr ⟨_, _, _, _, fun values _ => hknown values⟩
  · rw [hlater] at hknown
    exact .inl ⟨.invocation (.run graph later _ _ _ _), fun values _ => hknown values⟩

theorem AsksAlike.congr {ask ask' : String → Asked} (h : AsksAlike graph ask')
    (he : ∀ values, IsWord values → ask values = ask' values) : AsksAlike graph ask := by
  rcases h with ⟨answer, h⟩ | ⟨event, field, budget, json, h⟩
  · exact .inl ⟨answer, fun values hv => (he values hv).trans (h values hv)⟩
  · exact .inr ⟨event, field, budget, json, fun values hv => (he values hv).trans (h values hv)⟩

/-- With the values given first, whatever else is given, the same is asked for with any values. -/
theorem asksAlike_runArguments (hg : IsWord graph) (options : List String) :
    AsksAlike graph fun values => asked (runArguments graph values options) := by
  -- the program tells the arguments apart first, with no flag but that for help
  rcases hflag : tell [helpFlag] valuesFlag.name with why | token
  · refine .inl ⟨.fault why, fun values hv => ?_⟩
    have htell : tellAll [helpFlag] (valuesFlag.name :: values :: options) = .error why := by
      rw [tellAll, if_neg (by decide), hflag]
      rfl
    simp only [asked, runArguments, tellAll_word (show IsWord CommandKind.run.name by decide),
      tellAll_word hg, htell, Except.map]
  rcases hoptions : tellAll [helpFlag] options with why | tokens
  · refine .inl ⟨.fault why, fun values hv => ?_⟩
    simp only [asked, runArguments, tellAll_word (show IsWord CommandKind.run.name by decide),
      tellAll_word hg, tellAll_cons (show valuesFlag.name ≠ "--" by decide) hflag,
      tellAll_word hv, hoptions, Except.map]
  · refine (asksAlike_askedWith graph (readBehind ((tokens.zip options).map (·.2)))).congr
      fun values hv => ?_
    rw [← asked_values hg hv]
    simp only [asked, runArguments, tellAll_word (show IsWord CommandKind.run.name by decide),
      tellAll_word hg, tellAll_cons (show valuesFlag.name ≠ "--" by decide) hflag,
      tellAll_word hv, hoptions, Except.map]
    rfl

end FormAutomation.Command
