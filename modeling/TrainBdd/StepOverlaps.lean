/-
  Overlaps — the sentences that more than one step pattern matches.

  A free field takes in any text, so it can take in literal text of another pattern.  Six pairs of steps
  have sentences in common.

  1. **Overlaps** — the six pairs, each with the format of the sentences they share.
  2. **The alias pairs** — a list of pointer aliases may end in the word `installed`; it never ends in
     ` configured in TCR` (`last_alias`).
  3. **The other pairs** — a look at heads and tails (`Format.clash`) tells all of them apart
     (`declared_table`).
-/
import TrainBdd.StepPatterns
import TrainBdd.Lib.Python
import Mathlib.Data.List.Pairwise

namespace TrainBdd.StepPatterns

open Regex Format Python Text

/-! ## Overlaps -/

/-- Two steps and the sentences that both match. -/
structure Overlap where
  first : StepDefinition
  second : StepDefinition
  common : Format Char

/-- The word `installed` alone, or behind a list of aliases, a comma and a blank. -/
def installedLast : Regex Char :=
  alt (text "installed".toList)
    (seq pointerAliases (seq (star (cls isSpace)) (seq (text [','])
      (seq (star (cls isSpace)) (text " installed".toList)))))

/-- The pairs of steps that share sentences. -/
def overlaps : Keyword → List Overlap
  | .given => [
    ⟨checkPointerExists, addClient,
      ⟨"trust framework pointers: ".toList, [(installedLast, [])]⟩⟩,
    ⟨checkPointerNotExists, addClient,
      ⟨"trust framework pointers not exists: ".toList, [(installedLast, [])]⟩⟩]
  | .when => [
    ⟨createDidForPointer, readPointersDid,
      readPattern "requests DID for pointer {pointer} creation".toList⟩,
    ⟨readPointersDid, createDidForPointerInTspa,
      readPattern "requests DID for pointer {pointer} creation in TSPA Server".toList⟩,
    ⟨createTrustListAsXmlWithContent, createTrustListAsXmlWithAlias,
      readPattern "create Trust List with XML payload for pointer {pointer} with content".toList⟩,
    ⟨createTrustListAsJsonWithContent, createTrustListAsJsonWithAlias,
      readPattern "create Trust List with JSON payload for pointer {pointer} with content".toList⟩]
  | .«then» => []

/-- The sentence is one of those that two steps of the keyword share. -/
def Ambiguous (keyword : Keyword) (sentence : String) : Prop :=
  ∃ o ∈ overlaps keyword, o.common.accepts (foldSentence sentence) = true

/-- The two steps of the overlap, in either order. -/
def Overlap.Joins (o : Overlap) (x y : StepDefinition) : Prop :=
  x = o.first ∧ y = o.second ∨ x = o.second ∧ y = o.first

/-- The registration check refuses the first step behind the second. -/
def Overlap.Ordered (o : Overlap) : Prop := o.second.runsOn o.first.pattern = true

/-- The sentence is one of those that two steps share which can be registered in either order. -/
def Contested (keyword : Keyword) (sentence : String) : Prop :=
  ∃ o ∈ overlaps keyword, ¬ o.Ordered ∧ o.common.accepts (foldSentence sentence) = true

/-! ## Aliases -/

theorem isAliasChar_of_mem {word : List Char} (h : word ∈ pointerAlias.language) :
    ∀ c ∈ word, isAliasChar c = true := by
  have halnum : ∀ c, isAlnum c = true → isAliasChar c = true := by
    intro c hc
    simp [isAliasChar, hc]
  obtain ⟨_, _, ⟨c, hc, rfl⟩, hrest, rfl⟩ := mem_seq.1 h
  obtain ⟨middle, _, hmiddle, ⟨d, hd, rfl⟩, rfl⟩ := mem_seq.1 hrest
  intro e he
  simp only [List.mem_append, List.mem_singleton] at he
  rcases he with rfl | he | rfl
  · exact halnum _ hc
  · exact (mem_plus_cls.1 hmiddle).2 e he
  · exact halnum _ hd

theorem toNat_of_isAliasChar {c : Char} (h : isAliasChar c = true) :
    c.toNat = 45 ∨ 48 ≤ c.toNat ∧ c.toNat ≤ 57 ∨ 97 ≤ c.toNat ∧ c.toNat ≤ 122 := by
  unfold isAliasChar isAlnum at h
  simp only [Bool.decide_or, Bool.or_eq_true, decide_eq_true_eq] at h
  rcases h with rfl | ⟨h, h'⟩ | ⟨h, h'⟩
  · exact Or.inl rfl
  · exact Or.inr (Or.inl ⟨h, h'⟩)
  · exact Or.inr (Or.inr ⟨h, h'⟩)

/-- An alias has neither white space nor commas in it. -/
theorem not_isSpace_of_isAliasChar {c : Char} (h : isAliasChar c = true) :
    isSpace c = false ∧ c ≠ ',' := by
  have hnat := toNat_of_isAliasChar h
  constructor
  · unfold isSpace
    simp only [List.mem_cons, List.not_mem_nil, or_false, decide_eq_false_iff_not]
    omega
  · rintro rfl
    revert hnat
    decide

/-- A separator is a comma with white space around it. -/
theorem mem_nextAlias {word : List Char} :
    word ∈ nextAlias.language ↔ ∃ before behind name,
      (∀ c ∈ before, isSpace c = true) ∧ (∀ c ∈ behind, isSpace c = true) ∧
      name ∈ pointerAlias.language ∧ word = before ++ ',' :: (behind ++ name) := by
  constructor
  · intro h
    obtain ⟨before, _, hbefore, hcommaRest, rfl⟩ := mem_seq.1 h
    obtain ⟨_, _, hcomma, hrest, rfl⟩ := mem_seq.1 hcommaRest
    obtain ⟨behind, name, hbehind, hname, rfl⟩ := mem_seq.1 hrest
    obtain rfl := mem_text.1 hcomma
    exact ⟨before, behind, name, mem_star_cls.1 hbefore, mem_star_cls.1 hbehind, hname, rfl⟩
  · rintro ⟨before, behind, name, hbefore, hbehind, hname, rfl⟩
    refine mem_seq.2 ⟨before, _, mem_star_cls.2 hbefore, ?_, rfl⟩
    refine mem_seq.2 ⟨[','], _, mem_text.2 rfl, ?_, rfl⟩
    exact mem_seq.2 ⟨behind, name, mem_star_cls.2 hbehind, hname, rfl⟩

/-- **The end of a list of aliases**, read behind a head that ends in a blank: where the text ends in a
    blank and a word of alias characters, the word is the last alias.  It is the only one, or what
    stands before the blank is a list, a comma and white space. -/
theorem last_alias {head front names word : List Char} (hnames : names ∈ pointerAliases.language)
    (hword : ∀ c ∈ word, isAliasChar c = true)
    (h : (head ++ [' ']) ++ names = front ++ ' ' :: word) :
    (names = word ∧ word ∈ pointerAlias.language ∧ front = head) ∨
      ∃ others before behind, others ∈ pointerAliases.language ∧
        (∀ c ∈ before, isSpace c = true) ∧ (∀ c ∈ behind, isSpace c = true) ∧
        word ∈ pointerAlias.language ∧
        names = others ++ (before ++ ',' :: (behind ++ ' ' :: word)) ∧
        front = head ++ ' ' :: (others ++ (before ++ ',' :: behind)) := by
  have hblank : ∀ name ∈ pointerAlias.language, ' ' ∉ name := by
    intro name hname hmem
    have hfalse := (not_isSpace_of_isAliasChar (isAliasChar_of_mem hname ' ' hmem)).1
    revert hfalse
    decide
  rcases mem_seq_star.1 hnames with hname | ⟨others, next, hothers, hnext, rfl⟩
  · left
    have hc : ' ' ∉ word := by
      intro hmem
      have hfalse := (not_isSpace_of_isAliasChar (hword ' ' hmem)).1
      revert hfalse
      decide
    obtain ⟨rfl, hfront⟩ := lastWord_eq (hblank names hname) hc h
    exact ⟨rfl, hname, (List.append_cancel_right hfront).symm⟩
  · right
    obtain ⟨before, behind, name, hbefore, hbehind, hname, rfl⟩ := mem_nextAlias.1 hnext
    -- the letter in front of the last alias is the comma or white space
    rcases List.eq_nil_or_concat behind with rfl | ⟨behind, c, rfl⟩
    · have hc : ',' ∉ word := by
        intro hmem
        exact (not_isSpace_of_isAliasChar (hword ',' hmem)).2 rfl
      have hsplit : (head ++ ' ' :: (others ++ before)) ++ [','] ++ name = front ++ ' ' :: word := by
        rw [← h]
        simp
      obtain ⟨-, hfront⟩ := lastWord_eq (hblank name hname) hc hsplit
      have hcomma := (List.append_inj' hfront rfl).2
      nomatch hcomma
    · rw [List.concat_eq_append] at hbehind h ⊢
      have hspace : isSpace c = true := hbehind c (by simp)
      have hc : c ∉ word := by
        intro hmem
        rw [(not_isSpace_of_isAliasChar (hword c hmem)).1] at hspace
        nomatch hspace
      have hsplit : (head ++ ' ' :: (others ++ (before ++ ',' :: behind))) ++ [c] ++ name =
          front ++ ' ' :: word := by
        rw [← h]
        simp
      obtain ⟨rfl, hfront⟩ := lastWord_eq (hblank name hname) hc hsplit
      obtain ⟨hinit, hlast⟩ := List.append_inj' hfront rfl
      obtain rfl := List.singleton_inj.1 hlast
      refine ⟨others, before, behind, hothers, hbefore, ?_, hname, ?_, hinit.symm⟩
      · intro d hd
        exact hbehind d (List.mem_append_left _ hd)
      · simp

/-! ## The alias pairs -/

theorem installed_mem_pointerAlias : "installed".toList ∈ pointerAlias.language := by
  rw [← Regex.accepts_iff, toList_of_ofList rfl]
  decide

theorem isAliasChar_of_mem_installed : ∀ c ∈ "installed".toList, isAliasChar c = true :=
  isAliasChar_of_mem installed_mem_pointerAlias

theorem mem_installedLast {names : List Char} :
    names ∈ installedLast.language ↔ names = "installed".toList ∨
      ∃ others before behind, others ∈ pointerAliases.language ∧
        (∀ c ∈ before, isSpace c = true) ∧ (∀ c ∈ behind, isSpace c = true) ∧
        names = others ++ (before ++ ',' :: (behind ++ " installed".toList)) := by
  rw [installedLast, mem_alt, mem_text]
  refine or_congr_right ?_
  constructor
  · intro h
    obtain ⟨others, _, hothers, hrest, rfl⟩ := mem_seq.1 h
    obtain ⟨before, _, hbefore, hcommaRest, rfl⟩ := mem_seq.1 hrest
    obtain ⟨_, _, hcomma, hblankRest, rfl⟩ := mem_seq.1 hcommaRest
    obtain ⟨behind, _, hbehind, hinstalled, rfl⟩ := mem_seq.1 hblankRest
    obtain rfl := mem_text.1 hcomma
    obtain rfl := mem_text.1 hinstalled
    exact ⟨others, before, behind, hothers, mem_star_cls.1 hbefore, mem_star_cls.1 hbehind, rfl⟩
  · rintro ⟨others, before, behind, hothers, hbefore, hbehind, rfl⟩
    refine mem_seq.2 ⟨others, _, hothers, ?_, rfl⟩
    refine mem_seq.2 ⟨before, _, mem_star_cls.2 hbefore, ?_, rfl⟩
    refine mem_seq.2 ⟨[','], _, mem_text.2 rfl, ?_, rfl⟩
    exact mem_seq.2 ⟨behind, _, mem_star_cls.2 hbehind, mem_text.2 rfl, rfl⟩

/-- A list that ends in `installed` is a list of aliases. -/
theorem mem_pointerAliases_of_installedLast {names : List Char}
    (h : names ∈ installedLast.language) : names ∈ pointerAliases.language := by
  rcases mem_installedLast.1 h with rfl | ⟨others, before, behind, hothers, hbefore, hbehind, rfl⟩
  · exact mem_seq_star.2 (Or.inl installed_mem_pointerAlias)
  · refine mem_seq_star.2 (Or.inr ⟨others, _, hothers, ?_, rfl⟩)
    refine mem_nextAlias.2
      ⟨before, behind ++ [' '], "installed".toList, hbefore, ?_, installed_mem_pointerAlias, ?_⟩
    · intro c hc
      rcases List.mem_append.1 hc with hc | hc
      · exact hbehind c hc
      · obtain rfl := List.mem_singleton.1 hc
        decide
    · rw [List.append_assoc]
      rfl

/-- A pattern that ends in a list of aliases and "… installed". -/
theorem aliases_installed_iff {head : List Char} (hne : head ≠ []) {word : List Char} :
    (Format.mk (head ++ [' ']) [(pointerAliases, [])]).accepts word = true ∧
        (Format.mk [] [(anyRun, " installed".toList)]).accepts word = true ↔
      (Format.mk (head ++ [' ']) [(installedLast, [])]).accepts word = true := by
  simp only [accepts_field_iff, mem_anyRun, List.append_nil, List.nil_append]
  constructor
  · rintro ⟨⟨names, hnames, rfl⟩, front, -, h⟩
    refine ⟨names, mem_installedLast.2 ?_, rfl⟩
    rcases last_alias hnames isAliasChar_of_mem_installed h with ⟨hname, -, -⟩ |
      ⟨others, before, behind, hothers, hbefore, hbehind, -, hlist, -⟩
    · exact Or.inl hname
    · exact Or.inr ⟨others, before, behind, hothers, hbefore, hbehind, hlist⟩
  · rintro ⟨names, hnames, rfl⟩
    refine ⟨⟨names, mem_pointerAliases_of_installedLast hnames, rfl⟩, ?_⟩
    rcases mem_installedLast.1 hnames with rfl | ⟨others, before, behind, -, -, -, rfl⟩
    · exact ⟨head, hne, by rw [List.append_assoc]; rfl⟩
    · exact ⟨head ++ ' ' :: (others ++ (before ++ ',' :: behind)), by simp, by simp⟩

/-- A pattern that ends in a list of aliases and "… configured in TCR": no alias list has the blank in
    front of `TCR`. -/
theorem not_aliases_configured {head : List Char} {c : Char} (hc : c ≠ 'n') {word : List Char}
    (h : (Format.mk ((head ++ [c]) ++ [' ']) [(pointerAliases, [])]).accepts word = true) :
    ¬ (Format.mk [] [(anyRun, " configured in tcr".toList)]).accepts word = true := by
  intro h'
  obtain ⟨names, hnames, rfl⟩ := accepts_field_iff.1 h
  obtain ⟨value, -, hword⟩ := accepts_field_iff.1 h'
  have hsplit : ((head ++ [c]) ++ [' ']) ++ names =
      ((value ++ " configured i".toList) ++ ['n']) ++ ' ' :: "tcr".toList := by
    rw [List.append_nil, List.nil_append] at hword
    rw [hword]
    simp
  have htcr : ∀ d ∈ "tcr".toList, isAliasChar d = true := by decide
  rcases last_alias hnames htcr hsplit with ⟨-, -, hfront⟩ |
    ⟨others, before, behind, -, -, hbehind, -, -, hfront⟩
  · obtain ⟨-, hlast⟩ := List.append_inj' hfront rfl
    exact hc (List.singleton_inj.1 hlast).symm
  · -- in front of the blank stands the comma or white space
    rcases List.eq_nil_or_concat behind with rfl | ⟨behind, d, rfl⟩
    · have hcomma : (value ++ " configured i".toList) ++ ['n'] =
          ((head ++ [c]) ++ ' ' :: (others ++ before)) ++ [','] := by
        rw [hfront]
        simp
      nomatch (List.append_inj' hcomma rfl).2
    · rw [List.concat_eq_append] at hbehind hfront
      have hspace : (value ++ " configured i".toList) ++ ['n'] =
          ((head ++ [c]) ++ ' ' :: (others ++ (before ++ ',' :: behind))) ++ [d] := by
        rw [hfront]
        simp
      obtain rfl := List.singleton_inj.1 (List.append_inj' hspace rfl).2
      have hn := hbehind 'n' (by simp)
      revert hn
      decide

/-! ## The formats of the pairs -/

/-- The format of a step, from the text of its pattern. -/
theorem format_eq {step : StepDefinition} {pattern : List Char} {format : Format Char}
    (h : String.ofList pattern = step.pattern) (hread : readPattern pattern = format) :
    step.format = format := by
  rw [StepDefinition.format, toList_of_ofList h, hread]

/-- The formats of the steps in the pairs, their literals cut where the pairs need it. -/
structure PairFormats : Prop where
  checkPointerExists : checkPointerExists.format =
    ⟨("trust framework pointers".toList ++ [':']) ++ [' '], [(pointerAliases, [])]⟩
  checkPointerNotExists : checkPointerNotExists.format =
    ⟨("trust framework pointers not exists".toList ++ [':']) ++ [' '], [(pointerAliases, [])]⟩
  addClient : addClient.format = ⟨[], [(anyRun, " installed".toList)]⟩
  checkDnsResolver : checkDnsResolver.format = ⟨[], [(anyRun, " configured in tcr".toList)]⟩
  createDidForPointer : createDidForPointer.format =
    ⟨"requests did ".toList, [(anyRun, ' ' :: "pointer ".toList), (anyRun, " creation".toList)]⟩
  createDidForPointerInTspa : createDidForPointerInTspa.format =
    ⟨"requests did ".toList,
      [(anyRun, ' ' :: "pointer ".toList), (anyRun, " creation in tspa server".toList)]⟩
  readPointersDid : readPointersDid.format =
    ⟨"requests did ".toList ++ ("for".toList ++ ' ' :: "pointer ".toList), [(anyRun, [])]⟩
  createTrustListAsXmlWithContent : createTrustListAsXmlWithContent.format =
    ⟨"create trust list with xml payload for pointer ".toList,
      [(anyRun, " with ".toList ++ "content".toList)]⟩
  createTrustListAsXmlWithAlias : createTrustListAsXmlWithAlias.format =
    ⟨"create trust list with xml payload for pointer ".toList,
      [(anyRun, " with ".toList), (anyRun, [])]⟩
  createTrustListAsJsonWithContent : createTrustListAsJsonWithContent.format =
    ⟨"create trust list with json payload for pointer ".toList,
      [(anyRun, " with ".toList ++ "content".toList)]⟩
  createTrustListAsJsonWithAlias : createTrustListAsJsonWithAlias.format =
    ⟨"create trust list with json payload for pointer ".toList,
      [(anyRun, " with ".toList), (anyRun, [])]⟩

theorem pairFormats : PairFormats := by
  constructor
  all_goals
    apply format_eq rfl
    repeat rw [toList_of_ofList rfl]
    rfl

/-! ## The six pairs -/

/-- The steps that read and create the DID of a pointer. -/
theorem did_overlap (tail : List Char) (word : List Char) :
    (Format.mk "requests did ".toList [(anyRun, ' ' :: "pointer ".toList), (anyRun, tail)]).accepts
          word = true ∧ readPointersDid.format.accepts word = true ↔
      (Format.mk ("requests did ".toList ++ ("for".toList ++ ' ' :: "pointer ".toList))
        [(anyRun, tail)]).accepts word = true := by
  rw [pairFormats.readPointersDid]
  exact accepts_both_iff_of_word (by decide) (by decide)

/-- The steps that create a Trust List, from the content and from an alias. -/
theorem content_overlap (head : List Char) (word : List Char) :
    (Format.mk head [(anyRun, " with ".toList ++ "content".toList)]).accepts word = true ∧
        (Format.mk head [(anyRun, " with ".toList), (anyRun, [])]).accepts word = true ↔
      (Format.mk head [(anyRun, " with ".toList ++ "content".toList)]).accepts word = true := by
  constructor
  · intro h
    exact h.1
  · intro h
    exact ⟨h, accepts_absorb (by decide) h⟩

/-- **The overlaps are exact**: two steps of the table match what their common format matches. -/
theorem overlap_exact {keyword : Keyword} {o : Overlap} (ho : o ∈ overlaps keyword)
    (word : List Char) :
    o.first.format.accepts word = true ∧ o.second.format.accepts word = true ↔
      o.common.accepts word = true := by
  cases keyword with
  | given =>
    rcases List.mem_cons.1 ho with rfl | ho
    · have hcommon : ("trust framework pointers".toList ++ [':']) ++ [' '] =
          "trust framework pointers: ".toList := by
        repeat rw [toList_of_ofList rfl]
        rfl
      show checkPointerExists.format.accepts word = true ∧ addClient.format.accepts word = true ↔ _
      rw [pairFormats.checkPointerExists, pairFormats.addClient, aliases_installed_iff (by simp), hcommon]
    · obtain rfl := List.mem_singleton.1 ho
      have hcommon : ("trust framework pointers not exists".toList ++ [':']) ++ [' '] =
          "trust framework pointers not exists: ".toList := by
        repeat rw [toList_of_ofList rfl]
        rfl
      show checkPointerNotExists.format.accepts word = true ∧
        addClient.format.accepts word = true ↔ _
      rw [pairFormats.checkPointerNotExists, pairFormats.addClient, aliases_installed_iff (by simp), hcommon]
  | when =>
    simp only [overlaps, List.mem_cons, List.not_mem_nil, or_false] at ho
    rcases ho with rfl | rfl | rfl | rfl
    · have hcommon : readPattern "requests DID for pointer {pointer} creation".toList =
          ⟨"requests did ".toList ++ ("for".toList ++ ' ' :: "pointer ".toList),
            [(anyRun, " creation".toList)]⟩ := by
        repeat rw [toList_of_ofList rfl]
        rfl
      show createDidForPointer.format.accepts word = true ∧ _ ↔ _
      rw [pairFormats.createDidForPointer, did_overlap, hcommon]
    · have hcommon : readPattern "requests DID for pointer {pointer} creation in TSPA Server".toList =
          ⟨"requests did ".toList ++ ("for".toList ++ ' ' :: "pointer ".toList),
            [(anyRun, " creation in tspa server".toList)]⟩ := by
        repeat rw [toList_of_ofList rfl]
        rfl
      show _ ∧ createDidForPointerInTspa.format.accepts word = true ↔ _
      rw [pairFormats.createDidForPointerInTspa, and_comm, did_overlap, hcommon]
    · show _ ↔ createTrustListAsXmlWithContent.format.accepts word = true
      rw [pairFormats.createTrustListAsXmlWithContent, pairFormats.createTrustListAsXmlWithAlias]
      exact content_overlap _ word
    · show _ ↔ createTrustListAsJsonWithContent.format.accepts word = true
      rw [pairFormats.createTrustListAsJsonWithContent, pairFormats.createTrustListAsJsonWithAlias]
      exact content_overlap _ word
  | «then» => nomatch ho

/-! ## The other pairs -/

/-- The alias patterns and the one they are told apart from by `not_aliases_configured`. -/
def configuredPairs : List (StepDefinition × StepDefinition) :=
  [(checkPointerExists, checkDnsResolver), (checkPointerNotExists, checkDnsResolver)]

/-- The pairs that the registration check orders. -/
def orderedPairs : Keyword → List (StepDefinition × StepDefinition)
  | .given => []
  | .when => [
    (createTrustListAsXmlWithContent, createTrustListAsXmlWithAlias),
    (createTrustListAsJsonWithContent, createTrustListAsJsonWithAlias)]
  | .«then» => []

/-- The patterns of the two steps clash, or the pair is one of the known ones. -/
def ToldApart (keyword : Keyword) (x y : StepDefinition × List Char) : Prop :=
  (readPattern x.2).clash (readPattern y.2) = true ∨ (x.1, y.1) ∈ configuredPairs ∨
    (x.1, y.1) ∈ (overlaps keyword).map fun o => (o.first, o.second)

instance (keyword : Keyword) (x y : StepDefinition × List Char) :
    Decidable (ToldApart keyword x y) := inferInstanceAs (Decidable (_ ∨ _ ∨ _))

/-- The steps are two, the text of the second pattern does not look like the first, and that of the first
    like the second only where the check orders them. -/
def ReadApart (keyword : Keyword) (x y : StepDefinition × List Char) : Prop :=
  x.1 ≠ y.1 ∧ (readPattern x.2).frames (y.2.map caseFold) = false ∧
    ((readPattern y.2).frames (x.2.map caseFold) = true → (x.1, y.1) ∈ orderedPairs keyword)

instance (keyword : Keyword) (x y : StepDefinition × List Char) :
    Decidable (ReadApart keyword x y) := inferInstanceAs (Decidable (_ ∧ _ ∧ (_ → _)))

/-- The steps of a keyword with the texts of their patterns. -/
def texts (keyword : Keyword) : List (StepDefinition × List Char) :=
  (declared keyword).map fun step => (step, step.pattern.toList)

theorem texts_table (keyword : Keyword) :
    (texts keyword).Pairwise fun x y => ToldApart keyword x y ∧ ReadApart keyword x y := by
  unfold texts
  -- the literals are read off before the table is evaluated
  cases keyword with
  | given =>
    simp only [declared, checkPointerExists, checkPointerNotExists, checkDnsResolver, addClient,
      List.map_cons, List.map_nil]
    repeat rw [toList_of_ofList rfl]
    decide +kernel
  | when =>
    simp only [declared, createDidForPointer, readPointersDid, createDidForPointerInTspa,
      createTrustListAsXmlWithContent, createTrustListAsXmlWithAlias,
      createTrustListAsJsonWithContent, createTrustListAsJsonWithAlias, List.map_cons, List.map_nil]
    repeat rw [toList_of_ofList rfl]
    decide +kernel
  | «then» =>
    simp only [declared, List.map_cons, List.map_nil]
    repeat rw [toList_of_ofList rfl]
    decide +kernel

/-- **The table of patterns**: of two steps of a keyword, the patterns clash or are known. -/
theorem declared_table (keyword : Keyword) :
    (declared keyword).Pairwise fun x y => x.format.clash y.format = true ∨
      (x, y) ∈ configuredPairs ∨ (x, y) ∈ (overlaps keyword).map fun o => (o.first, o.second) :=
  (List.pairwise_map.1 (texts_table keyword)).imp And.left

theorem not_configured {x y : StepDefinition} (h : (x, y) ∈ configuredPairs) {word : List Char}
    (hx : x.format.accepts word = true) : ¬ y.format.accepts word = true := by
  simp only [configuredPairs, List.mem_cons, List.not_mem_nil, or_false, Prod.mk.injEq] at h
  rcases h with ⟨rfl, rfl⟩ | ⟨rfl, rfl⟩
  · rw [pairFormats.checkPointerExists] at hx
    rw [pairFormats.checkDnsResolver]
    exact not_aliases_configured (by decide) hx
  · rw [pairFormats.checkPointerNotExists] at hx
    rw [pairFormats.checkDnsResolver]
    exact not_aliases_configured (by decide) hx

end TrainBdd.StepPatterns
