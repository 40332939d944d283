/-
  FORMATS — texts with fields, `literal {field} literal … {field} literal` — and when two of them have
  no text in common.

  1. **Format** — a literal, then fields, each with the literal behind it; a field is a regular
     expression.  `Fills` is what the fields and their literals spell.
  2. **Reading** — `read` takes a format from its text with braces.
  3. **Heads and tails** — a text that matches starts with the first literal and ends with the last one,
     so formats whose heads or tails clash match no text in common (`not_accepts_both`).
  4. **Overlaps** — what two formats have in common where a field takes in literal text of the other:
     the end of a literal (`accepts_absorb`), a word before a literal (`accepts_both_iff_of_word`).
-/
import TrainBdd.Lib.Regex

namespace TrainBdd

/-! ## Formats -/

structure Format (α : Type) where
  head : List α
  rest : List (Regex α × List α)

namespace Format

variable {α : Type}

/-- The word is spelt by the fields and the literals behind them. -/
def Fills : List (Regex α × List α) → List α → Prop
  | [], word => word = []
  | (field, literal) :: rest, word =>
    ∃ value word', word = value ++ (literal ++ word') ∧ value ∈ field.language ∧ Fills rest word'

/-- The last literal. -/
def lastLiteral : List α → List (Regex α × List α) → List α
  | literal, [] => literal
  | _, (_, literal) :: rest => lastLiteral literal rest

def tail (format : Format α) : List α := lastLiteral format.head format.rest

/-- The format with its literals rewritten, letter by letter. -/
def mapLiterals (f : α → α) (format : Format α) : Format α :=
  ⟨format.head.map f, format.rest.map fun part => (part.1, part.2.map f)⟩

/-! ## Reading -/

/-- The runs behind the first literal: the names of fields and literals take turns. -/
def ofRuns (field : List α → Regex α) : List (List α) → List (Regex α × List α)
  | name :: literal :: runs => (field name, literal) :: ofRuns field runs
  | _ => []

/-- A format from its text; `field` tells what a field stands for. -/
def read (isBrace : α → Bool) (field : List α → Regex α) (text : List α) : Format α :=
  match text.splitOnP isBrace with
  | head :: runs => ⟨head, ofRuns field runs⟩
  | [] => ⟨[], []⟩

/-! ## Matching -/

section Matching

variable [DecidableEq α]

def regexRest : List (Regex α × List α) → Regex α
  | [] => .one
  | (field, literal) :: rest => .seq field (.seq (.text literal) (regexRest rest))

/-- The regular expression of a format. -/
def regex (format : Format α) : Regex α := .seq (.text format.head) (regexRest format.rest)

/-- The whole word matches the format. -/
def accepts (format : Format α) (word : List α) : Bool := format.regex.accepts word

theorem mem_regexRest {rest : List (Regex α × List α)} {word : List α} :
    word ∈ (regexRest rest).language ↔ Fills rest word := by
  induction rest generalizing word with
  | nil => exact Iff.rfl
  | cons part rest ih =>
    rw [regexRest, Regex.mem_seq]
    constructor
    · rintro ⟨value, behind, hvalue, hbehind, rfl⟩
      obtain ⟨literal, word', hliteral, hword', rfl⟩ := Regex.mem_seq.1 hbehind
      obtain rfl := Regex.mem_text.1 hliteral
      exact ⟨value, word', rfl, hvalue, ih.1 hword'⟩
    · rintro ⟨value, word', rfl, hvalue, hword'⟩
      refine ⟨value, part.2 ++ word', hvalue, ?_, rfl⟩
      exact Regex.mem_seq.2 ⟨part.2, word', Regex.mem_text.2 rfl, ih.2 hword', rfl⟩

/-- A word that matches is the head and what the rest spells. -/
theorem accepts_iff {format : Format α} {word : List α} :
    format.accepts word = true ↔ ∃ word', word = format.head ++ word' ∧ Fills format.rest word' := by
  rw [accepts, Regex.accepts_iff, regex, Regex.mem_seq]
  constructor
  · rintro ⟨literal, word', hliteral, hword', rfl⟩
    obtain rfl := Regex.mem_text.1 hliteral
    exact ⟨word', rfl, mem_regexRest.1 hword'⟩
  · rintro ⟨word', rfl, hword'⟩
    exact ⟨format.head, word', Regex.mem_text.2 rfl, mem_regexRest.2 hword', rfl⟩

/-! ## Heads and tails -/

theorem head_of_accepts {format : Format α} {word : List α} (h : format.accepts word = true) :
    format.head <+: word := by
  obtain ⟨word', rfl, -⟩ := accepts_iff.1 h
  exact List.prefix_append _ _

omit [DecidableEq α] in
theorem lastLiteral_suffix {rest : List (Regex α × List α)} {word : List α} (h : Fills rest word)
    (literal : List α) : lastLiteral literal rest <:+ literal ++ word := by
  induction rest generalizing word literal with
  | nil =>
    obtain rfl : word = [] := h
    rw [List.append_nil]
    exact List.suffix_refl _
  | cons part rest ih =>
    obtain ⟨value, word', rfl, -, hword'⟩ := h
    refine (ih hword' part.2).trans ?_
    rw [← List.append_assoc]
    exact List.suffix_append _ _

theorem tail_of_accepts {format : Format α} {word : List α} (h : format.accepts word = true) :
    format.tail <:+ word := by
  obtain ⟨word', rfl, hword'⟩ := accepts_iff.1 h
  exact lastLiteral_suffix hword' _

/-- The word starts with the first literal and ends with the last one. -/
def frames (format : Format α) (word : List α) : Bool :=
  format.head.isPrefixOf word && format.tail.isSuffixOf word

theorem frames_of_accepts {format : Format α} {word : List α} (h : format.accepts word = true) :
    format.frames word = true := by
  rw [frames, Bool.and_eq_true, List.isPrefixOf_iff_prefix, List.isSuffixOf_iff_suffix]
  exact ⟨head_of_accepts h, tail_of_accepts h⟩

/-- Neither head starts the other, or neither tail ends the other. -/
def clash (format format' : Format α) : Bool :=
  !(format.head.isPrefixOf format'.head || format'.head.isPrefixOf format.head) ||
    !(format.tail.isSuffixOf format'.tail || format'.tail.isSuffixOf format.tail)

/-- **Formats that clash** match no word in common. -/
theorem not_accepts_both {format format' : Format α} (h : clash format format' = true)
    {word : List α} (hword : format.accepts word = true) : ¬ format'.accepts word = true := by
  intro hword'
  unfold clash at h
  rw [Bool.or_eq_true, Bool.not_eq_true', Bool.not_eq_true', Bool.or_eq_false_iff,
    Bool.or_eq_false_iff] at h
  rcases h with ⟨hne, hne'⟩ | ⟨hne, hne'⟩
  · rcases List.prefix_or_prefix_of_prefix (head_of_accepts hword) (head_of_accepts hword') with hp | hp
    · rw [ List.isPrefixOf_iff_prefix.2 hp] at hne
      nomatch hne
    · rw [ List.isPrefixOf_iff_prefix.2 hp] at hne'
      nomatch hne'
  · rcases List.suffix_or_suffix_of_suffix (tail_of_accepts hword) (tail_of_accepts hword') with hs | hs
    · rw [List.isSuffixOf_iff_suffix.2 hs] at hne
      nomatch hne
    · rw [List.isSuffixOf_iff_suffix.2 hs] at hne'
      nomatch hne'

/-! ## Overlaps -/

theorem accepts_field_iff {head tail : List α} {field : Regex α} {word : List α} :
    (Format.mk head [(field, tail)]).accepts word = true ↔
      ∃ value ∈ field.language, word = head ++ (value ++ tail) := by
  rw [accepts_iff]
  constructor
  · rintro ⟨word', rfl, value, behind, rfl, hvalue, hnil⟩
    obtain rfl : behind = [] := hnil
    exact ⟨value, hvalue, by rw [List.append_nil]⟩
  · rintro ⟨value, hvalue, rfl⟩
    exact ⟨value ++ tail, rfl, value, [], by rw [List.append_nil], hvalue, rfl⟩

theorem accepts_two_fields_iff {head middle tail : List α} {field field' : Regex α} {word : List α} :
    (Format.mk head [(field, middle), (field', tail)]).accepts word = true ↔
      ∃ value ∈ field.language, ∃ value' ∈ field'.language,
        word = head ++ (value ++ (middle ++ (value' ++ tail))) := by
  rw [accepts_iff]
  constructor
  · rintro ⟨word', rfl, value, behind, rfl, hvalue, value', behind', rfl, hvalue', hnil⟩
    obtain rfl : behind' = [] := hnil
    exact ⟨value, hvalue, value', hvalue', by rw [List.append_nil]⟩
  · rintro ⟨value, hvalue, value', hvalue', rfl⟩
    exact ⟨_, rfl, value, _, rfl, hvalue, value', [], by rw [List.append_nil], hvalue', rfl⟩

/-- A free field at the end takes in the end of a literal. -/
theorem accepts_absorb {head middle extra : List α} (hextra : extra ≠ []) {word : List α}
    (h : (Format.mk head [(.anyRun, middle ++ extra)]).accepts word = true) :
    (Format.mk head [(.anyRun, middle), (.anyRun, [])]).accepts word = true := by
  obtain ⟨value, hvalue, rfl⟩ := accepts_field_iff.1 h
  refine accepts_two_fields_iff.2 ⟨value, hvalue, extra, Regex.mem_anyRun.2 hextra, ?_⟩
  rw [List.append_nil]

/-- **A free field takes in a word before a literal**: `head {x} middle {y} tail` and
    `head word middle {z}` have in common what `head word middle {y} tail` matches.  The middle literal
    starts with a letter that the word does not have. -/
theorem accepts_both_iff_of_word {head fixed middle tail : List α} {a : α} (hne : fixed ≠ [])
    (ha : a ∉ fixed) {word : List α} :
    (Format.mk head [(.anyRun, a :: middle), (.anyRun, tail)]).accepts word = true ∧
        (Format.mk (head ++ (fixed ++ a :: middle)) [(.anyRun, [])]).accepts word = true ↔
      (Format.mk (head ++ (fixed ++ a :: middle)) [(.anyRun, tail)]).accepts word = true := by
  simp only [accepts_two_fields_iff, accepts_field_iff, Regex.mem_anyRun, List.append_nil]
  constructor
  · rintro ⟨⟨x, hx, y, hy, hword⟩, z, -, hword'⟩
    have hrest : x ++ (a :: middle ++ (y ++ tail)) = fixed ++ (a :: middle ++ z) := by
      rw [hword, List.append_assoc, List.append_assoc] at hword'
      exact List.append_cancel_left hword'
    -- the first field is the word, or goes on behind it
    obtain ⟨more, rfl, hmore⟩ : ∃ more, x = fixed ++ more ∧
        a :: middle ++ z = more ++ (a :: middle ++ (y ++ tail)) := by
      rcases List.append_eq_append_iff.1 hrest with ⟨more, hfixed, hmiddle⟩ | ⟨more, hx', hmiddle⟩
      · cases more with
        | nil => exact ⟨[], by rw [hfixed]; simp, hmiddle.symm⟩
        | cons b more =>
          obtain ⟨rfl, -⟩ := List.cons.inj hmiddle
          refine absurd ?_ ha
          rw [hfixed]
          simp
      · exact ⟨more, hx', hmiddle⟩
    -- so the last field takes in what the first one has behind the word
    obtain ⟨behind, hz⟩ : ∃ behind, z = behind ++ (y ++ tail) := by
      rw [← List.append_assoc more] at hmore
      rcases List.append_eq_append_iff.1 hmore with ⟨behind, -, hz⟩ | ⟨behind, hlong, hz⟩
      · exact ⟨behind, hz⟩
      · have hlen := congrArg List.length hlong
        simp only [List.length_append] at hlen
        obtain rfl : behind = [] := List.eq_nil_of_length_eq_zero (by omega)
        exact ⟨[], hz.symm⟩
    refine ⟨behind ++ y, ?_, ?_⟩
    · intro hnil
      exact hy (List.append_eq_nil_iff.1 hnil).2
    · rw [hword', hz, List.append_assoc behind]
  · rintro ⟨y, hy, rfl⟩
    refine ⟨⟨fixed, hne, y, hy, ?_⟩, y ++ tail, ?_, rfl⟩
    · simp only [List.append_assoc]
    · intro hnil
      exact hy (List.append_eq_nil_iff.1 hnil).1

end Matching

end Format

end TrainBdd
