/-
  `str.splitlines` — a text cut at every LINE BOUNDARY, of which Python knows eleven.

  1. **Program** — `\r\n` is one boundary, a boundary at the end begins no line, so the empty text has no
     line.
  2. **Round trip** — lines that are joined by `\n` are split back exactly when none of them has a
     boundary in it and the last one is not empty (`splitLines_intercalate`).  As a SET the lines survive
     an empty last line, too, if another line is empty (`toFinset_splitLines_iff`).
-/
import Mathlib.Data.List.Basic
import Mathlib.Data.Finset.Dedup
import Mathlib.Data.Finset.Basic

namespace TrainBdd.Lines

/-! ## The program -/

/-- `\n \v \f \r`, the file, group and record separators, next line, line and paragraph separator. -/
def isBoundary (c : Char) : Bool :=
  c.toNat ∈ [0x0a, 0x0b, 0x0c, 0x0d, 0x1c, 0x1d, 0x1e, 0x85, 0x2028, 0x2029]

/-- `text.splitlines()`. -/
def splitLines : List Char → List (List Char)
  | [] => []
  | '\r' :: '\n' :: cs => [] :: splitLines cs
  | c :: cs =>
    if isBoundary c then [] :: splitLines cs
    else
      match splitLines cs with
      | [] => [[c]]
      | line :: lines => (c :: line) :: lines

/-! ## Lines have no boundary -/

/-- A text without line boundaries. -/
def OneLine (line : List Char) : Prop := ∀ c ∈ line, isBoundary c = false

instance (line : List Char) : Decidable (OneLine line) := List.decidableBAll _ line

theorem splitLines_cons {c : Char} (h : isBoundary c = false) (cs : List Char) :
    splitLines (c :: cs) =
      match splitLines cs with
      | [] => [[c]]
      | line :: lines => (c :: line) :: lines := by
  have hcr : c ≠ '\r' := by
    rintro rfl
    exact absurd h (by decide)
  rw [splitLines]
  · rw [if_neg (by simp [h])]
  · intro cs' hc
    exact absurd hc hcr

theorem oneLine_of_mem_splitLines {text line : List Char} (h : line ∈ splitLines text) :
    OneLine line := by
  induction text using splitLines.induct generalizing line with
  | case1 => cases h
  | case2 cs ih =>
    rw [splitLines] at h
    rcases List.mem_cons.1 h with rfl | h
    · intro c hc
      cases hc
    · exact ih h
  | case3 c cs hcrlf hboundary ih =>
    rw [splitLines, if_pos hboundary] at h
    · rcases List.mem_cons.1 h with rfl | h
      · intro c hc
        cases hc
      · exact ih h
    · exact hcrlf
  | case4 c cs hcrlf hplain hnil ih =>
    rw [splitLines_cons (by simpa using hplain), hnil] at h
    rw [List.mem_singleton.1 h]
    simpa [OneLine] using hplain
  | case5 c cs hcrlf hplain line' lines hcons ih =>
    rw [splitLines_cons (by simpa using hplain), hcons] at h
    rcases List.mem_cons.1 h with rfl | h
    · intro d hd
      rcases List.mem_cons.1 hd with rfl | hd
      · simpa using hplain
      · exact ih (by rw [hcons]; simp) d hd
    · exact ih (by rw [hcons]; simp [h])

/-! ## The round trip -/

theorem splitLines_newline (cs : List Char) : splitLines ('\n' :: cs) = [] :: splitLines cs := by
  rw [splitLines]
  · rfl
  · intro cs' hc
    cases hc

/-- A line in front of a newline comes out as it is. -/
theorem splitLines_append_newline {line : List Char} (h : OneLine line) (cs : List Char) :
    splitLines (line ++ '\n' :: cs) = line :: splitLines cs := by
  induction line with
  | nil => exact splitLines_newline cs
  | cons c line ih =>
    obtain ⟨hc, hline⟩ := List.forall_mem_cons.1 h
    rw [List.cons_append, splitLines_cons hc, ih hline]

/-- And so does the last one, unless it is empty. -/
theorem splitLines_oneLine {line : List Char} (h : OneLine line) :
    splitLines line = if line = [] then [] else [line] := by
  induction line with
  | nil => rfl
  | cons c line ih =>
    obtain ⟨hc, hline⟩ := List.forall_mem_cons.1 h
    rw [splitLines_cons hc, ih hline, if_neg (List.cons_ne_nil _ _)]
    by_cases hnil : line = []
    · rw [if_pos hnil, hnil]
    · rw [if_neg hnil]

/-- **The round trip**: joined lines are split back, but for an empty last one. -/
theorem splitLines_intercalate {lines : List (List Char)} (h : ∀ line ∈ lines, OneLine line) :
    splitLines (['\n'].intercalate lines) =
      if lines.getLast? = some [] then lines.dropLast else lines := by
  induction lines with
  | nil => rfl
  | cons line lines ih =>
    obtain ⟨hline, hlines⟩ := List.forall_mem_cons.1 h
    cases lines with
    | nil =>
      rw [List.intercalate_singleton, splitLines_oneLine hline]
      by_cases hnil : line = []
      · simp [hnil]
      · simp [hnil]
    | cons next lines =>
      rw [List.intercalate_cons_cons, List.append_assoc, List.singleton_append,
        splitLines_append_newline hline, ih hlines, List.getLast?_cons_cons]
      split
      · rfl
      · rfl

/-- None of the lines has a boundary, and an empty last one is not the only empty line. -/
def Kept (lines : List (List Char)) : Prop :=
  (∀ line ∈ lines, OneLine line) ∧ (lines.getLast? = some [] → [] ∈ lines.dropLast)

instance (lines : List (List Char)) : Decidable (Kept lines) := inferInstanceAs (Decidable (_ ∧ _))

/-- **As a set** the lines are split back exactly when they are kept. -/
theorem toFinset_splitLines_iff (lines : List (List Char)) :
    (splitLines (['\n'].intercalate lines)).toFinset = lines.toFinset ↔ Kept lines := by
  constructor
  · intro h
    have hone : ∀ line ∈ lines, OneLine line := by
      intro line hline
      rw [← List.mem_toFinset, ← h, List.mem_toFinset] at hline
      exact oneLine_of_mem_splitLines hline
    refine ⟨hone, fun hlast => ?_⟩
    rw [splitLines_intercalate hone, if_pos hlast] at h
    have hmem : [] ∈ lines := List.mem_of_getLast? hlast
    rwa [← List.mem_toFinset, ← h, List.mem_toFinset] at hmem
  · rintro ⟨hone, hlast⟩
    rw [splitLines_intercalate hone]
    split
    · next hnil =>
      -- the dropped line is empty, and another one is
      obtain ⟨front, rfl⟩ := List.getLast?_eq_some_iff.1 hnil
      have hmem := hlast hnil
      rw [List.dropLast_concat] at hmem ⊢
      ext line
      simp only [List.mem_toFinset, List.mem_append, List.mem_singleton]
      constructor
      · exact Or.inl
      · rintro (hline | rfl)
        · exact hline
        · exact hmem
    · rfl

end TrainBdd.Lines
