/-
  The ARGUMENTS of a step — what the fields of its pattern stand for in a sentence.

  1. **Types** — a field without a type hands out the text it takes in; an alias is handed out as it is,
     a list of aliases is cut at its commas and stripped.
  2. **Alias lists** — the sentences with a list of aliases are exactly those that list aliases, and the
     list is what they list (`listing_iff`, `aliasList_read_iff`, `creatingPointers_read_iff`).
  3. **Free fields** — a sentence written from values is read back as these values exactly when each of
     them but the last is settled: the literal behind it does not start inside of it.  Then dispatch and
     reading together recover what was written (`written_sentence_runs_iff`).
-/
import TrainBdd.StepDispatch
import TrainBdd.Lib.Reading
import Mathlib.Data.List.DropRight

namespace TrainBdd.StepPatterns

open Regex Format Text

/-! ## Types -/

/-- `text.strip()`. -/
def strip (cs : List Char) : List Char := (cs.dropWhile isSpace).rdropWhile isSpace

/-- The list a field of type `TrustFrameworkPointerAliases` is converted to. -/
def splitAliases (cs : List Char) : List (List Char) := (cs.splitOn ',').map strip

/-- What a step function is called with. -/
inductive Argument
  | text (s : String)
  | aliases (names : List String)
deriving DecidableEq, Repr

/-- The value of a field, by the type behind the colon. -/
def convert (type : Option (List Char)) (value : List Char) : Argument :=
  if type = some "TrustFrameworkPointerAliases".toList then
    .aliases ((splitAliases value).map String.ofList)
  else .text (String.ofList value)

/-! ## Arguments -/

/-- Every second run of a pattern is the text of a field. -/
def everySecond {α : Type} : List α → List α
  | field :: _ :: runs => field :: everySecond runs
  | _ => []

namespace StepDefinition

/-- The texts between the braces of the pattern. -/
def fieldTexts (step : StepDefinition) : List (List Char) :=
  everySecond (step.pattern.toList.splitOnP fun c => c = '\x7b' || c = '\x7d').tail

/-- The keyword arguments a sentence gives the step function. -/
def arguments (step : StepDefinition) (sentence : String) : Option (List (String × Argument)) :=
  (readValues caseFold step.format sentence.toList).map fun values =>
    (step.fieldTexts.zip values).map fun (field, value) =>
      (String.ofList (cut ':' field).1, convert (cut ':' field).2 value)

/-- A step has arguments for the sentences it runs on. -/
theorem arguments_isSome_iff (step : StepDefinition) (sentence : String) :
    (step.arguments sentence).isSome = step.runsOn sentence := by
  rw [Bool.eq_iff_iff, arguments, Option.isSome_map, readValues_isSome_iff]
  rfl

end StepDefinition

/-! ## Folding the case -/

/-- Folding changes letters only, and makes them small ones. -/
theorem caseFold_cases (c : Char) :
    caseFold c = c ∨ (97 ≤ (caseFold c).toNat ∧ (caseFold c).toNat ≤ 122) ∧ isSpace c = false ∧ c ≠ ',' := by
  have hplain : ∀ d : Char, 65 ≤ d.toNat ∧ d.toNat ≤ 90 ∨ d.toNat = 0x130 ∨ d.toNat = 0x131 ∨
      d.toNat = 0x17f ∨ d.toNat = 0x212a → isSpace d = false ∧ d ≠ ',' := by
    intro d hd
    constructor
    · unfold isSpace
      simp only [List.mem_cons, List.not_mem_nil, or_false, decide_eq_false_iff_not]
      omega
    · rintro rfl
      revert hd
      decide
  unfold caseFold
  split
  · next h =>
    have hlow : 65 ≤ c.toNat := h.1
    have hhigh : c.toNat ≤ 90 := h.2
    have hall : ∀ n < 91, 65 ≤ n → (Char.ofNat (n + 32)).toNat = n + 32 := by decide
    have hnat := hall c.toNat (by omega) hlow
    exact Or.inr ⟨by omega, hplain c (by omega)⟩
  · split
    · exact Or.inr ⟨by decide, hplain c (by omega)⟩
    · split
      · exact Or.inr ⟨by decide, hplain c (by omega)⟩
      · split
        · exact Or.inr ⟨by decide, hplain c (by omega)⟩
        · exact Or.inl rfl

@[simp] theorem isSpace_caseFold (c : Char) : isSpace (caseFold c) = isSpace c := by
  rcases caseFold_cases c with h | ⟨hletter, hspace, -⟩
  · rw [h]
  · rw [hspace]
    unfold isSpace
    simp only [List.mem_cons, List.not_mem_nil, or_false, decide_eq_false_iff_not]
    omega

theorem caseFold_eq_comma_iff (c : Char) : caseFold c = ',' ↔ c = ',' := by
  rcases caseFold_cases c with h | ⟨hletter, -, hcomma⟩
  · rw [h]
  · refine iff_of_false ?_ hcomma
    intro h
    rw [h] at hletter
    revert hletter
    decide

/-! ## Lists of aliases -/

/-- The name of an alias, in any case. -/
def IsAlias (name : List Char) : Prop := name.map caseFold ∈ pointerAlias.language

/-- Names with commas between them, and white space around the commas. -/
inductive Listing : List (List Char) → List Char → Prop
  | last (name : List Char) : Listing [name] name
  | more (name : List Char) {before behind : List Char} {next : List Char} {names : List (List Char)}
      {rest : List Char} (hbefore : ∀ c ∈ before, isSpace c = true)
      (hbehind : ∀ c ∈ behind, isSpace c = true) (hrest : Listing (next :: names) rest) :
      Listing (name :: next :: names) (name ++ (before ++ ',' :: (behind ++ rest)))

/-- An alias is a word without white space and commas. -/
theorem IsAlias.spec {name : List Char} (h : IsAlias name) :
    name ≠ [] ∧ (∀ c ∈ name, isSpace c = false) ∧ ',' ∉ name := by
  have hchars : ∀ c ∈ name, isSpace c = false ∧ c ≠ ',' := by
    intro c hc
    have hfold := not_isSpace_of_isAliasChar (isAliasChar_of_mem h _ (List.mem_map_of_mem hc))
    rw [isSpace_caseFold, ne_eq, caseFold_eq_comma_iff] at hfold
    exact hfold
  refine ⟨?_, fun c hc => (hchars c hc).1, fun hmem => (hchars ',' hmem).2 rfl⟩
  rintro rfl
  obtain ⟨_, _, ⟨c, -, rfl⟩, -, hnil⟩ := mem_seq.1 h
  cases hnil

/-- What stands between white space is what is left of it. -/
theorem strip_padded {before name behind : List Char} (hbefore : ∀ c ∈ before, isSpace c = true)
    (hname : ∀ c ∈ name, isSpace c = false) (hne : name ≠ [])
    (hbehind : ∀ c ∈ behind, isSpace c = true) : strip (before ++ (name ++ behind)) = name := by
  have hfront : (before ++ (name ++ behind)).dropWhile isSpace = name ++ behind := by
    rw [List.dropWhile_append_of_pos hbefore]
    cases name with
    | nil => exact absurd rfl hne
    | cons c cs => exact List.dropWhile_cons_of_neg (by simp [hname c (by simp)])
  rw [strip, hfront, List.rdropWhile, List.reverse_append, List.dropWhile_append_of_pos, ← List.rdropWhile,
    List.rdropWhile_eq_self_iff]
  · intro hne' hlast
    rw [hname _ (List.getLast_mem hne')] at hlast
    cases hlast
  · intro c hc
    exact hbehind c (List.mem_reverse.1 hc)

/-- **A listing is read back**: whatever the white space in front is, the names come out as they went
    in. -/
theorem splitAliases_listing {names : List (List Char)} {text : List Char} (h : Listing names text)
    (hnames : ∀ name ∈ names, IsAlias name) (front : List Char)
    (hfront : ∀ c ∈ front, isSpace c = true) : splitAliases (front ++ text) = names := by
  have hnocomma : ∀ spaces : List Char, (∀ c ∈ spaces, isSpace c = true) → ',' ∉ spaces := by
    intro spaces hspaces hmem
    have hcomma := hspaces ',' hmem
    revert hcomma
    decide
  induction h generalizing front with
  | last name =>
    obtain ⟨hne, hspace, hcomma⟩ := (hnames name (by simp)).spec
    have hnone : ∀ c ∈ ([] : List Char), isSpace c = true := by simp
    have hpadded := strip_padded hfront hspace hne hnone
    rw [List.append_nil] at hpadded
    rw [splitAliases, List.splitOn_eq_singleton, List.map_singleton, hpadded]
    rw [List.mem_append, not_or]
    exact ⟨hnocomma front hfront, hcomma⟩
  | more name hbefore hbehind hrest ih =>
    rename_i before behind next names rest
    rw [List.forall_mem_cons] at hnames
    obtain ⟨hne, hspace, hcomma⟩ := hnames.1.spec
    have hsplit : (front ++ (name ++ (before ++ ',' :: (behind ++ rest)))).splitOn ',' =
        (front ++ (name ++ before)) :: (behind ++ rest).splitOn ',' := by
      have hpiece : ',' ∉ front ++ (name ++ before) := by
        rw [List.mem_append, List.mem_append, not_or, not_or]
        exact ⟨hnocomma front hfront, hcomma, hnocomma before hbefore⟩
      have happend := List.splitOn_append_cons_self (a := ',') (front ++ (name ++ before)) (behind ++ rest)
      rw [List.splitOn_eq_singleton hpiece] at happend
      simpa using happend
    rw [splitAliases, hsplit, List.map_cons, strip_padded hfront hspace hne hbefore]
    exact congrArg (name :: ·) (ih hnames.2 _ hbehind)

/-- **The listings are the alias lists** that the type of the field matches, in any case. -/
theorem listing_iff {text : List Char} :
    text.map caseFold ∈ pointerAliases.language ↔
      ∃ names, Listing names text ∧ ∀ name ∈ names, IsAlias name := by
  constructor
  · intro h
    obtain ⟨first, _, hfirst, ⟨words, rfl, hwords⟩, htext⟩ := mem_seq.1 h
    clear h
    induction words generalizing first text with
    | nil =>
      have hname : IsAlias text := by
        rw [IsAlias, htext]
        simpa using hfirst
      exact ⟨[text], .last text, by simpa using hname⟩
    | cons word words ih =>
      obtain ⟨hword, hothers⟩ := List.forall_mem_cons.1 hwords
      obtain ⟨before', behind', next', hbefore, hbehind, hnext, rfl⟩ := mem_nextAlias.1 hword
      -- the text is cut where its folding is
      have hcut : text.map caseFold =
          first ++ (before' ++ (',' :: (behind' ++ (next' ++ words.flatten)))) := by
        rw [htext]
        simp
      obtain ⟨name, _, rfl, rfl, hpadding⟩ := List.map_eq_append_iff.1 hcut
      obtain ⟨before, _, rfl, rfl, hseparator⟩ := List.map_eq_append_iff.1 hpadding
      obtain ⟨comma, _, rfl, hcomma, hbehindRest⟩ := List.map_eq_cons_iff.1 hseparator
      obtain rfl := (caseFold_eq_comma_iff comma).1 hcomma
      obtain ⟨behind, rest, rfl, rfl, hrest⟩ := List.map_eq_append_iff.1 hbehindRest
      obtain ⟨names, hlisting, hnames⟩ := ih next' hnext hothers hrest
      have hspaces : ∀ spaces : List Char, (∀ c ∈ spaces.map caseFold, isSpace c = true) →
          ∀ c ∈ spaces, isSpace c = true := by
        intro spaces hall c hc
        have hfold := hall (caseFold c) (List.mem_map_of_mem hc)
        rwa [isSpace_caseFold] at hfold
      cases names with
      | nil => cases hlisting
      | cons next names =>
        refine ⟨name :: next :: names, ?_, List.forall_mem_cons.2 ⟨hfirst, hnames⟩⟩
        exact .more name (hspaces before hbefore) (hspaces behind hbehind) hlisting
  · rintro ⟨names, hlisting, hnames⟩
    induction hlisting with
    | last name => exact mem_seq_star.2 (Or.inl (hnames name (by simp)))
    | more name hbefore hbehind hrest ih =>
      rename_i before behind next names rest
      obtain ⟨hname, hnames⟩ := List.forall_mem_cons.1 hnames
      obtain ⟨first, _, hfirst, ⟨words, rfl, hwords⟩, hrest⟩ := mem_seq.1 (ih hnames)
      let word := before.map caseFold ++ ',' :: (behind.map caseFold ++ first)
      have hnext : word ∈ nextAlias.language := by
        refine mem_nextAlias.2 ⟨_, _, first, ?_, ?_, hfirst, rfl⟩
        · intro c hc
          obtain ⟨d, hd, rfl⟩ := List.mem_map.1 hc
          rw [isSpace_caseFold]
          exact hbefore d hd
        · intro c hc
          obtain ⟨d, hd, rfl⟩ := List.mem_map.1 hc
          rw [isSpace_caseFold]
          exact hbehind d hd
      refine mem_seq.2 ⟨name.map caseFold, _, hname, ⟨word :: words, rfl, ?_⟩, ?_⟩
      · exact List.forall_mem_cons.2 ⟨hnext, hwords⟩
      · have hcomma : caseFold ',' = ',' := by decide
        rw [List.map_append, List.map_append, List.map_cons, List.map_append, hrest, hcomma]
        simp [word]

/-- What a listing is converted to, and what is converted to a list of names. -/
theorem listing_iff_splitAliases {names : List (List Char)} {text : List Char} :
    Listing names text ∧ (∀ name ∈ names, IsAlias name) ↔
      text.map caseFold ∈ pointerAliases.language ∧ splitAliases text = names := by
  constructor
  · rintro ⟨hlisting, hnames⟩
    exact ⟨listing_iff.2 ⟨names, hlisting, hnames⟩,
      splitAliases_listing hlisting hnames [] (by simp)⟩
  · rintro ⟨htext, rfl⟩
    obtain ⟨names, hlisting, hnames⟩ := listing_iff.1 htext
    rw [← List.nil_append text, splitAliases_listing hlisting hnames [] (by simp)]
    exact ⟨hlisting, hnames⟩

/-! ## Steps with lists of aliases -/

def creatingPointers : StepDefinition :=
  ⟨"dns_zone_manager_server.py", "creating_pointers",
    "creating pointers: {include_pointers:TrustFrameworkPointerAliases} into {pointer:TrustFrameworkPointerAlias}"⟩

example : creatingPointers ∈ declared .when := by simp [declared, creatingPointers]

theorem format_creatingPointers : creatingPointers.format =
    ⟨"creating pointers: ".toList, [(pointerAliases, " into ".toList), (pointerAlias, [])]⟩ := by
  apply format_eq rfl
  repeat rw [toList_of_ofList rfl]
  rfl

/-- The texts of the fields, from the text of the pattern. -/
theorem fieldTexts_eq {step : StepDefinition} {pattern : List Char} {texts : List (List Char)}
    (h : String.ofList pattern = step.pattern)
    (hread : everySecond (pattern.splitOnP fun c => c = '\x7b' || c = '\x7d').tail = texts) :
    step.fieldTexts = texts := by
  rw [StepDefinition.fieldTexts, toList_of_ofList h, hread]

theorem fieldTexts_creatingPointers : creatingPointers.fieldTexts =
    ["include_pointers:TrustFrameworkPointerAliases".toList, "pointer:TrustFrameworkPointerAlias".toList] := by
  apply fieldTexts_eq rfl
  repeat rw [toList_of_ofList rfl]
  rfl

/-- The two steps on lists of pointers. -/
theorem pointersStep_spec {step : StepDefinition}
    (hstep : step ∈ [checkPointerExists, checkPointerNotExists]) :
    step.format = ⟨step.format.head, [(pointerAliases, [])]⟩ ∧
      step.fieldTexts = ["pointers:TrustFrameworkPointerAliases".toList] := by
  rcases List.mem_pair.1 hstep with rfl | rfl
  · rw [pairFormats.checkPointerExists]
    refine ⟨rfl, ?_⟩
    apply fieldTexts_eq rfl
    repeat rw [toList_of_ofList rfl]
    rfl
  · rw [pairFormats.checkPointerNotExists]
    refine ⟨rfl, ?_⟩
    apply fieldTexts_eq rfl
    repeat rw [toList_of_ofList rfl]
    rfl

/-- The arguments of the three typed fields, whatever they take in. -/
theorem typedArgument_eq (value : List Char) :
    (String.ofList (cut ':' "pointers:TrustFrameworkPointerAliases".toList).1,
        convert (cut ':' "pointers:TrustFrameworkPointerAliases".toList).2 value) =
      ("pointers", .aliases ((splitAliases value).map String.ofList)) ∧
    (String.ofList (cut ':' "include_pointers:TrustFrameworkPointerAliases".toList).1,
        convert (cut ':' "include_pointers:TrustFrameworkPointerAliases".toList).2 value) =
      ("include_pointers", .aliases ((splitAliases value).map String.ofList)) ∧
    (String.ofList (cut ':' "pointer:TrustFrameworkPointerAlias".toList).1,
        convert (cut ':' "pointer:TrustFrameworkPointerAlias".toList).2 value) =
      ("pointer", .text (String.ofList value)) := by
  unfold convert
  repeat rw [toList_of_ofList rfl]
  exact ⟨rfl, rfl, rfl⟩

/-- The names that a text lists. -/
def Lists (names : List String) (text : List Char) : Prop :=
  Listing (names.map String.toList) text ∧ ∀ name ∈ names, IsAlias name.toList

theorem lists_iff {names : List String} {text : List Char} :
    Lists names text ↔ text.map caseFold ∈ pointerAliases.language ∧
      (splitAliases text).map String.ofList = names := by
  have hmap : Lists names text ↔ Listing (names.map String.toList) text ∧
      ∀ name ∈ names.map String.toList, IsAlias name := by
    rw [Lists, List.forall_mem_map]
  rw [hmap, listing_iff_splitAliases]
  refine and_congr_right fun _ => ?_
  constructor
  · intro h
    rw [h, List.map_map]
    simp [Function.comp_def]
  · rintro rfl
    rw [List.map_map]
    simp [Function.comp_def]

/-- **A step on a list of pointers** runs on the sentences that list aliases behind its literal, and is
    given the list that they list. -/
theorem aliasList_read_iff {step : StepDefinition}
    (hstep : step ∈ [checkPointerExists, checkPointerNotExists]) (sentence : String)
    (args : List (String × Argument)) :
    step.arguments sentence = some args ↔
      ∃ front text names, sentence.toList = front ++ text ∧ front.map caseFold = step.format.head ∧
        Lists names text ∧ args = [("pointers", .aliases names)] := by
  obtain ⟨hformat, htexts⟩ := pointersStep_spec hstep
  rw [StepDefinition.arguments, htexts, Option.map_eq_some_iff]
  constructor
  · rintro ⟨values, hvalues, rfl⟩
    rw [hformat] at hvalues
    obtain ⟨front, text, written, hword, hfront, htext, hwritten, rfl⟩ :=
      readValues_field_iff.1 hvalues
    obtain rfl := List.map_eq_nil_iff.1 hwritten
    rw [List.append_nil] at hword
    refine ⟨front, text, _, hword, hfront, lists_iff.2 ⟨htext, rfl⟩, ?_⟩
    exact congrArg (fun arg => [arg]) (typedArgument_eq text).1
  · rintro ⟨front, text, names, hword, hfront, hlists, rfl⟩
    obtain ⟨htext, rfl⟩ := lists_iff.1 hlists
    refine ⟨[text], ?_, congrArg (fun arg => [arg]) (typedArgument_eq text).1⟩
    rw [hformat]
    exact readValues_field_iff.2
      ⟨front, text, [], by rw [hword, List.append_nil], hfront, htext, rfl, rfl⟩

/-- White space around the commas and the case of the names make no difference to what is listed. -/
theorem aliasList_read_america :
    checkPointerNotExists.arguments "Trust Framework Pointers not exists: 1-america, 2-USA ,2-mexico" =
      some [("pointers", .aliases ["1-america", "2-USA", "2-mexico"])] := by
  refine (aliasList_read_iff (by decide) _ _).2
    ⟨"Trust Framework Pointers not exists: ".toList, "1-america, 2-USA ,2-mexico".toList,
      ["1-america", "2-USA", "2-mexico"], by decide, ?_, ?_, rfl⟩
  · rw [pairFormats.checkPointerNotExists]
    decide
  · rw [lists_iff, ← Regex.accepts_iff]
    repeat rw [toList_of_ofList rfl]
    decide +kernel

/-- A folded blank is a blank. -/
theorem caseFold_eq_blank_iff (c : Char) : caseFold c = ' ' ↔ c = ' ' := by
  rcases caseFold_cases c with h | ⟨hletter, hspace, -⟩
  · rw [h]
  · constructor
    · intro h
      rw [h] at hletter
      exact absurd hletter (by decide)
    · rintro rfl
      exact absurd hspace (by decide)

/-- What is folded to " into " ends in a blank. -/
theorem exists_of_into {written : List Char} (h : written.map caseFold = " into ".toList) :
    ∃ front, written = front ++ [' '] ∧ front.length = 5 := by
  have hcut : written.map caseFold = " into".toList ++ [' '] := by
    rw [h]
    decide
  obtain ⟨front, last, rfl, hfront, hlast⟩ := List.map_eq_append_iff.1 hcut
  obtain ⟨c, rfl, hc⟩ := List.map_eq_singleton_iff.1 hlast
  obtain rfl := (caseFold_eq_blank_iff c).1 hc
  refine ⟨front, rfl, ?_⟩
  have hlength := congrArg List.length hfront
  rw [List.length_map] at hlength
  exact hlength

/-- What spells a list of aliases, " into " and an alias. -/
theorem spells_into_iff {word : List Char} {values : List (List Char)} :
    Spells caseFold [(pointerAliases, " into ".toList), (pointerAlias, [])] values word ↔
      ∃ text into name, word = text ++ (into ++ name) ∧
        text.map caseFold ∈ pointerAliases.language ∧ into.map caseFold = " into ".toList ∧
        IsAlias name ∧ values = [text, name] := by
  constructor
  · intro h
    cases values with
    | nil => cases h
    | cons text values =>
      obtain ⟨into, word', rfl, htext, hinto, hrest⟩ := h
      obtain ⟨name, nothing, rfl, hname, hnothing, rfl⟩ := spells_field_iff.1 hrest
      obtain rfl := List.map_eq_nil_iff.1 hnothing
      exact ⟨text, into, name, by rw [List.append_nil], htext, hinto, hname, rfl⟩
  · rintro ⟨text, into, name, rfl, htext, hinto, hname, rfl⟩
    exact ⟨into, name, rfl, htext, hinto,
      spells_field_iff.2 ⟨name, [], by rw [List.append_nil], hname, rfl, rfl⟩⟩

/-- There is one way only to read a list of aliases and an alias behind " into ". -/
theorem spells_into_unique {word : List Char} {values others : List (List Char)}
    (hvalues : Spells caseFold [(pointerAliases, " into ".toList), (pointerAlias, [])] values word)
    (hothers : Spells caseFold [(pointerAliases, " into ".toList), (pointerAlias, [])] others word) :
    others = values := by
  obtain ⟨text, _, name, rfl, -, hwritten, hname, rfl⟩ := spells_into_iff.1 hvalues
  obtain ⟨text', _, name', hword, -, hwritten', hname', rfl⟩ := spells_into_iff.1 hothers
  obtain ⟨into, rfl, hinto⟩ := exists_of_into hwritten
  obtain ⟨into', rfl, hinto'⟩ := exists_of_into hwritten'
  -- the last blank stands in front of the last alias
  have hblank : ∀ name, IsAlias name → ' ' ∉ name := by
    intro name h hmem
    exact absurd (h.spec.2.1 ' ' hmem) (by decide)
  have hsame : ((text ++ into) ++ [' ']) ++ name = (text' ++ into') ++ ' ' :: name' := by
    simpa using hword
  obtain ⟨rfl, hfronts⟩ := lastWord_eq (hblank name hname) (hblank name' hname') hsame
  have htexts := List.append_inj' (List.append_cancel_right hfronts) (hinto.trans hinto'.symm)
  rw [htexts.1]

/-- **"creating pointers: … into …"** can be read in one way only, as the list and the alias that it
    names. -/
theorem creatingPointers_read_iff (sentence : String) (args : List (String × Argument)) :
    creatingPointers.arguments sentence = some args ↔
      ∃ front text into name names, sentence.toList = front ++ (text ++ (into ++ name)) ∧
        front.map caseFold = "creating pointers: ".toList ∧
        into.map caseFold = " into ".toList ∧ Lists names text ∧ IsAlias name ∧
        args = [("include_pointers", .aliases names), ("pointer", .text (String.ofList name))] := by
  have hargs : ∀ text name : List Char,
      (creatingPointers.fieldTexts.zip [text, name]).map (fun (field, value) =>
          (String.ofList (cut ':' field).1, convert (cut ':' field).2 value)) =
        [("include_pointers", .aliases ((splitAliases text).map String.ofList)),
          ("pointer", .text (String.ofList name))] := by
    intro text name
    obtain ⟨-, hlist, -⟩ := typedArgument_eq text
    obtain ⟨-, -, hname⟩ := typedArgument_eq name
    rw [fieldTexts_creatingPointers]
    exact congrArg₂ (fun a b => [a, b]) hlist hname
  have hread : ∀ values, readValues caseFold creatingPointers.format sentence.toList = some values ↔
      ∃ front word, sentence.toList = front ++ word ∧ front.map caseFold = "creating pointers: ".toList ∧
        Spells caseFold [(pointerAliases, " into ".toList), (pointerAlias, [])] values word := by
    intro values
    rw [format_creatingPointers]
    exact readValues_iff_of_unique fun word others others' h h' => spells_into_unique h h'
  rw [StepDefinition.arguments, Option.map_eq_some_iff]
  constructor
  · rintro ⟨values, hvalues, rfl⟩
    obtain ⟨front, word, hword, hfront, hspells⟩ := (hread values).1 hvalues
    obtain ⟨text, into, name, rfl, htext, hinto, hname, rfl⟩ := spells_into_iff.1 hspells
    exact ⟨front, text, into, name, _, hword, hfront, hinto, lists_iff.2 ⟨htext, rfl⟩, hname,
      hargs text name⟩
  · rintro ⟨front, text, into, name, names, hword, hfront, hinto, hlists, hname, rfl⟩
    obtain ⟨htext, rfl⟩ := lists_iff.1 hlists
    have hspells := spells_into_iff.2 ⟨text, into, name, rfl, htext, hinto, hname, rfl⟩
    exact ⟨[text, name], (hread _).2 ⟨front, _, hword, hfront, hspells⟩, hargs text name⟩

/-! ## Steps with free fields -/

/-- Field texts without a colon have no type. -/
def StepDefinition.Free (step : StepDefinition) : Prop := ∀ field ∈ step.fieldTexts, ':' ∉ field

/-- The sentence is the pattern with the values in the places of its fields, in any case. -/
structure StepDefinition.Written (step : StepDefinition) (parts : List (List Char × List Char))
    (sentence : String) : Prop where
  word : ∃ front, sentence.toList = front ++ writeParts parts ∧ front.map caseFold = step.format.head
  literals : (parts.map fun part => part.2.map caseFold) = step.format.rest.map (·.2)
  values_ne_nil : ∀ part ∈ parts, part.1 ≠ []

/-- The values under the names of the fields. -/
def StepDefinition.named (step : StepDefinition) (values : List (List Char)) :
    List (String × Argument) :=
  (step.fieldTexts.zip values).map fun (field, value) =>
    (String.ofList field, .text (String.ofList value))

/-- The runs of a pattern give a field each, and a free one when its text has no colon. -/
theorem ofRuns_free {runs : List (List Char)} (h : ∀ field ∈ everySecond runs, ':' ∉ field) :
    (ofRuns fieldRegex runs).map (fun part => (part.1, part.2.map caseFold)) =
        freeFields (((ofRuns fieldRegex runs).map fun part => (part.1, part.2.map caseFold)).map (·.2)) ∧
      (ofRuns fieldRegex runs).length = (everySecond runs).length := by
  induction runs using everySecond.induct with
  | case1 field literal runs ih =>
    rw [everySecond, List.forall_mem_cons] at h
    obtain ⟨hfields, hlength⟩ := ih h.2
    have hfield : fieldRegex field = anyRun := by
      rw [fieldRegex, cut_of_not_mem h.1]
    constructor
    · rw [ofRuns, List.map_cons, hfields, hfield]
      simp [freeFields]
    · rw [ofRuns, everySecond, List.length_cons, List.length_cons, hlength]
  | case2 runs hshort =>
    cases runs with
    | nil => exact ⟨rfl, rfl⟩
    | cons field runs =>
      cases runs with
      | nil => exact ⟨rfl, rfl⟩
      | cons literal runs => exact absurd rfl (hshort field literal runs)

theorem StepDefinition.Free.format_rest {step : StepDefinition} (h : step.Free) :
    step.format.rest = freeFields (step.format.rest.map (·.2)) ∧
      step.format.rest.length = step.fieldTexts.length := by
  have hrest : step.format.rest =
      (ofRuns fieldRegex (step.pattern.toList.splitOnP fun c => c = '\x7b' || c = '\x7d').tail).map
        fun part => (part.1, part.2.map caseFold) := by
    unfold StepDefinition.format readPattern Format.read Format.mapLiterals
    cases step.pattern.toList.splitOnP fun c => c = '\x7b' || c = '\x7d' with
    | nil => rfl
    | cons head runs => rfl
  obtain ⟨hfields, hlength⟩ := ofRuns_free h
  constructor
  · rw [hrest]
    exact hfields
  · rw [hrest, List.length_map]
    exact hlength

/-- The arguments of a step with free fields are the values as texts. -/
theorem StepDefinition.Free.arguments_eq {step : StepDefinition} (h : step.Free) (sentence : String) :
    step.arguments sentence = (readValues caseFold step.format sentence.toList).map step.named := by
  unfold StepDefinition.arguments
  congr 1
  funext values
  refine List.map_congr_left fun (field, value) hpart => ?_
  have hcut : cut ':' field = (field, none) := cut_of_not_mem (h field (List.of_mem_zip hpart).1)
  show (String.ofList (cut ':' field).1, convert (cut ':' field).2 value) =
    (String.ofList field, Argument.text (String.ofList value))
  rw [hcut]
  exact congrArg (String.ofList field, ·) (if_neg (Option.some_ne_none _).symm)

/-- Values of the right number are told from their arguments. -/
theorem StepDefinition.named_inj {step : StepDefinition} {values others : List (List Char)}
    (hvalues : values.length = step.fieldTexts.length) (hothers : others.length = step.fieldTexts.length)
    (h : step.named values = step.named others) : values = others := by
  have hsnd : ∀ values : List (List Char), values.length = step.fieldTexts.length →
      (step.named values).map (·.2) = values.map fun value => .text (String.ofList value) := by
    intro values hlength
    have hzip : (step.fieldTexts.zip values).map (·.2) = values :=
      List.map_snd_zip (Nat.le_of_eq hlength)
    rw [StepDefinition.named, List.map_map]
    conv_rhs => rw [← hzip, List.map_map]
    rfl
  have htexts := congrArg (List.map (·.2)) h
  rw [hsnd values hvalues, hsnd others hothers] at htexts
  refine List.map_injective_iff.2 ?_ htexts
  intro value other heq
  exact String.ofList_injective (Argument.text.inj heq)

/-- **Reading what was written**: a step is given the values of its sentence exactly when all of them
    but the last are settled. -/
theorem arguments_written_iff {step : StepDefinition} (hfree : step.Free)
    {parts : List (List Char × List Char)} {sentence : String} (hwritten : step.Written parts sentence) :
    step.arguments sentence = some (step.named (parts.map (·.1))) ↔
      ∀ part ∈ parts.dropLast, Settled caseFold part := by
  obtain ⟨front, hword, hfront⟩ := hwritten.word
  obtain ⟨hfields, hlength⟩ := hfree.format_rest
  rw [← hwritten.literals] at hfields
  rw [← restValues_write_iff hwritten.values_ne_nil, hfree.arguments_eq, hword, readValues_append hfront,
    hfields, Option.map_eq_some_iff]
  constructor
  · rintro ⟨values, hvalues, hnamed⟩
    have hcount : (freeFields (parts.map fun part => part.2.map caseFold)).length =
        step.fieldTexts.length := by
      rw [← hfields, hlength]
    have hparts : (parts.map (·.1)).length = step.fieldTexts.length := by
      rw [← hcount]
      simp [freeFields]
    have heq := StepDefinition.named_inj
      ((length_of_spells (restValues_spells hvalues)).trans hcount) hparts hnamed
    rw [hvalues, heq]
  · intro hvalues
    exact ⟨_, hvalues, rfl⟩

/-! ## Dispatch and reading -/

/-- What runs on a sentence: the step, and the arguments it is called with. -/
def findMatch (registered : List StepDefinition) (sentence : String) :
    Option (StepDefinition × List (String × Argument)) := do
  let step ← dispatch registered sentence
  let args ← step.arguments sentence
  return (step, args)

/-- On a sentence that is not ambiguous a step that matches is the first one, in whatever order the steps
    are registered. -/
theorem first_of_not_ambiguous {keyword : Keyword} {step : StepDefinition}
    (hstep : step ∈ declared keyword) {sentence : String} (hruns : step.runsOn sentence = true)
    (hnot : ¬ Ambiguous keyword sentence) {registered : List StepDefinition}
    (hperm : registered.Perm (declared keyword)) : First registered step sentence := by
  intro other hother hother'
  have hone := (unambiguous_iff keyword sentence).2 hnot
  rw [hone other (hperm.subset hother) step hstep hother' hruns]

/-- A step runs on the sentences that are written from its pattern. -/
theorem StepDefinition.Written.runsOn {step : StepDefinition} (hfree : step.Free)
    {parts : List (List Char × List Char)} {sentence : String} (h : step.Written parts sentence) :
    step.runsOn sentence = true := by
  obtain ⟨front, hword, hfront⟩ := h.word
  have hread : (readValues caseFold step.format sentence.toList).isSome = true := by
    rw [hword, readValues_append hfront, hfree.format_rest.1, ← h.literals, Option.isSome_iff_ne_none]
    exact restValues_ne_none (spells_writeParts h.values_ne_nil)
  exact readValues_isSome_iff.1 hread

/-- **From a sentence to a call**: an unambiguous sentence that is written from the pattern of a step
    with free fields calls that step with the values it was written from, in whatever order the steps
    are registered, exactly when all values but the last are settled. -/
theorem written_sentence_runs_iff {keyword : Keyword} {step : StepDefinition}
    (hstep : step ∈ declared keyword) (hfree : step.Free) {parts : List (List Char × List Char)}
    {sentence : String} (hwritten : step.Written parts sentence)
    (hnot : ¬ Ambiguous keyword sentence) {registered : List StepDefinition}
    (hperm : registered.Perm (declared keyword)) :
    findMatch registered sentence = some (step, step.named (parts.map (·.1))) ↔
      ∀ part ∈ parts.dropLast, Settled caseFold part := by
  have hruns := hwritten.runsOn hfree
  have hfirst := first_of_not_ambiguous hstep hruns hnot hperm
  rw [← arguments_written_iff hfree hwritten, findMatch,
    hfirst.dispatch_eq (hperm.symm.subset hstep) hruns]
  show (step.arguments sentence >>= fun args => some (step, args)) = _ ↔ _
  rw [Option.bind_eq_bind, Option.bind_eq_some_iff]
  constructor
  · rintro ⟨args, hargs, heq⟩
    rw [hargs, (Prod.mk.inj (Option.some.inj heq)).2]
  · intro hargs
    exact ⟨_, hargs, rfl⟩

def updateTsp : StepDefinition :=
  ⟨"tspa.py", "update_tsp", "update TSP pointer/tsp_id {pointer}/{tsp_id} with {alias_key}"⟩

theorem format_updateTsp : updateTsp.format =
    ⟨"update tsp pointer/tsp_id ".toList,
      [(anyRun, ['/']), (anyRun, " with ".toList), (anyRun, [])]⟩ := by
  apply format_eq rfl
  repeat rw [toList_of_ofList rfl]
  rfl

theorem fieldTexts_updateTsp :
    updateTsp.fieldTexts = ["pointer".toList, "tsp_id".toList, "alias_key".toList] := by
  apply fieldTexts_eq rfl
  repeat rw [toList_of_ofList rfl]
  rfl

/-- A sentence for the TSP "42". -/
theorem updateTsp_written : updateTsp.Written
    [("alice".toList, ['/']), ("42".toList, " with ".toList), ("TSP-A".toList, [])]
    "Update TSP pointer/tsp_id alice/42 with TSP-A" := by
  refine ⟨⟨"Update TSP pointer/tsp_id ".toList, ?_, ?_⟩, ?_, by decide⟩
  · decide
  · rw [format_updateTsp]
    decide
  · rw [format_updateTsp]
    decide

theorem updateTsp_not_ambiguous :
    ¬ Ambiguous .when "Update TSP pointer/tsp_id alice/42 with TSP-A" := by
  unfold Ambiguous overlaps foldSentence
  repeat rw [toList_of_ofList rfl]
  decide +kernel

/-- It calls `update_tsp` as it was meant. -/
theorem written_sentence_runs_updateTsp :
    findMatch (declared .when) "Update TSP pointer/tsp_id alice/42 with TSP-A" =
      some (updateTsp, [("pointer", .text "alice"), ("tsp_id", .text "42"),
        ("alias_key", .text "TSP-A")]) := by
  have hstep : updateTsp ∈ declared .when := by simp [declared, updateTsp]
  have hfree : updateTsp.Free := by
    rw [StepDefinition.Free, fieldTexts_updateTsp]
    decide
  have hruns := (written_sentence_runs_iff hstep hfree updateTsp_written updateTsp_not_ambiguous
    (List.Perm.refl _)).2 (by decide)
  rw [hruns, StepDefinition.named, fieldTexts_updateTsp]
  decide

end TrainBdd.StepPatterns
