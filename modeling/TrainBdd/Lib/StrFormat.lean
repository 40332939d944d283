/-
  `str.format` — a text with REPLACEMENT FIELDS, filled from keyword arguments.

  1. **Program** — the interpreter's markup iterator, as an automaton on the characters: a doubled brace
     is a brace, a single one begins or ends a field, a `[` in a field's name hides everything up to the
     `]`, and the text behind a `:` is balanced in braces.  A field is filled when its brace is closed,
     so its error comes before any error behind it.

  2. **Plain fields** — `Field.Plain`: a name that is a key and nothing more.  What the other fields
     stand for (positions, attributes, items, conversions, specifications) is a parameter.

  3. **Templates** — literals and fields with a `Key`, which carries that it can be written.  `write`
     spells a template as a text, and `format_write` is the round trip: formatting the text fills the
     template, line by line where it is made of lines (`Template.fill_lines`).
-/
import Mathlib.Data.List.Basic

namespace TrainBdd.StrFormat

/-! ## The program -/

/-- A replacement field: `name!conversion:spec`. -/
structure Field where
  name : List Char
  conversion : Option Char
  spec : List Char
deriving DecidableEq, Repr

inductive FormatError
  | valueError (text : String)
  | keyError (key : String)
  | other (text : String)
deriving DecidableEq, Repr

/-- Where the iterator is in the text; what has been read of a name or a specification is reversed. -/
inductive Mode
  | text
  | opened
  | closed
  | name (read : List Char)
  | bracket (read : List Char)
  | conversion (key : List Char)
  | converted (key : List Char) (sort : Char)
  | spec (key : List Char) (sort : Option Char) (depth : Nat) (read : List Char)
deriving DecidableEq, Repr

/-- What a character completes. -/
inductive Event
  | quiet
  | literal (c : Char)
  | field (field : Field)

def nameStep (read : List Char) (c : Char) : Except String (Event × Mode) :=
  if c = '\x7b' then .error "unexpected '\x7b' in field name"
  else if c = '[' then .ok (.quiet, .bracket (c :: read))
  else if c = '\x7d' then .ok (.field ⟨read.reverse, none, []⟩, .text)
  else if c = ':' then .ok (.quiet, .spec read.reverse none 1 [])
  else if c = '!' then .ok (.quiet, .conversion read.reverse)
  else .ok (.quiet, .name (c :: read))

def Mode.step : Mode → Char → Except String (Event × Mode)
  | text, c =>
    if c = '\x7b' then .ok (.quiet, opened)
    else if c = '\x7d' then .ok (.quiet, closed)
    else .ok (.literal c, text)
  | opened, c => if c = '\x7b' then .ok (.literal c, text) else nameStep [] c
  | closed, c =>
    if c = '\x7d' then .ok (.literal c, text)
    else .error "Single '\x7d' encountered in format string"
  | name read, c => nameStep read c
  | bracket read, c =>
    if c = ']' then .ok (.quiet, name (c :: read)) else .ok (.quiet, bracket (c :: read))
  | conversion key, c => .ok (.quiet, converted key c)
  | converted key sort, c =>
    if c = '\x7d' then .ok (.field ⟨key, some sort, []⟩, text)
    else if c = ':' then .ok (.quiet, spec key (some sort) 1 [])
    else .error "expected ':' after conversion specifier"
  | spec key sort depth read, c =>
    if c = '\x7b' then .ok (.quiet, spec key sort (depth + 1) (c :: read))
    else if c = '\x7d' then
      if depth = 1 then .ok (.field ⟨key, sort, read.reverse⟩, text)
      else .ok (.quiet, spec key sort (depth - 1) (c :: read))
    else .ok (.quiet, spec key sort depth (c :: read))

/-- The end of the text. -/
def Mode.finish : Mode → Except String Unit
  | text => .ok ()
  | opened => .error "Single '\x7b' encountered in format string"
  | closed => .error "Single '\x7d' encountered in format string"
  | name _ | bracket _ => .error "expected '\x7d' before end of string"
  | conversion _ => .error "end of string while looking for conversion specifier"
  | converted .. | spec .. => .error "unmatched '\x7b' in format spec"

/-- A field that is one key: no conversion, no specification, no attribute or item, and no position (a
    name with an ASCII character that is not a digit is not a number). -/
def Field.Plain (field : Field) : Prop :=
  field.conversion = none ∧ field.spec = [] ∧ '.' ∉ field.name ∧ '[' ∉ field.name ∧
    ∃ c ∈ field.name, c.toNat < 128 ∧ c.isDigit = false

instance (field : Field) : Decidable field.Plain :=
  have : Decidable (∃ c ∈ field.name, c.toNat < 128 ∧ c.isDigit = false) := List.decidableBEx _ _
  inferInstanceAs (Decidable (_ ∧ _))

section Program

variable (complex : Field → Except FormatError (List Char)) (kwargs : String → Option String)

/-- What a field is filled with. -/
def Field.value (field : Field) : Except FormatError (List Char) :=
  if field.Plain then
    match kwargs (String.ofList field.name) with
    | some value => .ok value.toList
    | none => .error (.keyError (String.ofList field.name))
  else complex field

def Event.text : Event → Except FormatError (List Char)
  | quiet => .ok []
  | literal c => .ok [c]
  | field f => f.value complex kwargs

def run : Mode → List Char → Except FormatError (List Char)
  | mode, [] => (mode.finish.mapError .valueError).map fun _ => []
  | mode, c :: cs => do
    let (event, next) ← (mode.step c).mapError .valueError
    let out ← event.text complex kwargs
    return out ++ (← run next cs)

/-- `text.format(**kwargs)`. -/
def format (text : List Char) : Except FormatError (List Char) := run complex kwargs .text text

end Program

/-! ## Templates -/

/-- A key that can be written between braces: a plain name without the characters that end one. -/
structure Key where
  name : List Char
  plain : Field.Plain ⟨name, none, []⟩
  unmarked : ∀ c ∈ name, c ≠ '\x7b' ∧ c ≠ '\x7d' ∧ c ≠ ':' ∧ c ≠ '!'

/-- A literal character or a field. -/
inductive Piece
  | literal (c : Char)
  | field (key : Key)

def Piece.write : Piece → List Char
  | literal c => if c = '\x7b' ∨ c = '\x7d' then [c, c] else [c]
  | field key => '\x7b' :: (key.name ++ ['\x7d'])

abbrev Template := List Piece

/-- The text of a template, braces in literals doubled. -/
def Template.write (template : Template) : List Char := template.flatMap Piece.write

def Piece.value (kwargs : String → Option String) : Piece → Except FormatError (List Char)
  | literal c => .ok [c]
  | field key =>
    match kwargs (String.ofList key.name) with
    | some value => .ok value.toList
    | none => .error (.keyError (String.ofList key.name))

/-- The template filled, or the first key that is missing. -/
def Template.fill (kwargs : String → Option String) : Template → Except FormatError (List Char)
  | [] => .ok []
  | piece :: pieces => do
    let out ← piece.value kwargs
    return out ++ (← fill kwargs pieces)

theorem Template.fill_cons {kwargs : String → Option String} (piece : Piece) (pieces : Template) :
    Template.fill kwargs (piece :: pieces) = (do
      let out ← piece.value kwargs
      return out ++ (← Template.fill kwargs pieces)) := rfl

theorem Template.fill_append {kwargs : String → Option String} (first second : Template) :
    (first ++ second).fill kwargs = (do
      let out ← first.fill kwargs
      return out ++ (← second.fill kwargs)) := by
  induction first with
  | nil =>
    show second.fill kwargs = (do return [] ++ (← second.fill kwargs))
    cases second.fill kwargs with
    | ok out => rfl
    | error e => rfl
  | cons piece first ih =>
    rw [List.cons_append, fill_cons, fill_cons, ih]
    cases piece.value kwargs with
    | error e => rfl
    | ok out =>
      cases Template.fill kwargs first with
      | error e => rfl
      | ok out' =>
        cases Template.fill kwargs second with
        | error e => rfl
        | ok out'' => exact congrArg Except.ok (List.append_assoc out out' out'').symm

/-- The keys of the fields, in order. -/
def Template.keys : Template → List String
  | [] => []
  | .literal _ :: pieces => keys pieces
  | .field key :: pieces => String.ofList key.name :: keys pieces

/-- **Filling fails for the first key that is missing**, and for nothing else. -/
theorem Template.fill_eq_error_iff {kwargs : String → Option String} {template : Template}
    {e : FormatError} :
    template.fill kwargs = .error e ↔
      ∃ key, e = .keyError key ∧ template.keys.find? (fun key => (kwargs key).isNone) = some key := by
  induction template with
  | nil =>
    refine iff_of_false (fun h => by cases h) ?_
    rintro ⟨key, -, h⟩
    cases h
  | cons piece pieces ih =>
    -- behind a piece that has a value the rest decides
    have hrest : ∀ out, piece.value kwargs = .ok out →
        (Template.fill kwargs (piece :: pieces) = .error e ↔ Template.fill kwargs pieces = .error e) := by
      intro out hout
      rw [fill_cons, hout]
      show (do return out ++ (← Template.fill kwargs pieces)) = _ ↔ _
      cases Template.fill kwargs pieces with
      | ok out' => exact iff_of_false (fun h => by cases h) (fun h => by cases h)
      | error e' => rfl
    cases piece with
    | literal c => exact (hrest [c] rfl).trans ih
    | field key =>
      rw [keys]
      cases hvalue : kwargs (String.ofList key.name) with
      | some value =>
        have hout : (Piece.field key).value kwargs = .ok value.toList := by
          rw [Piece.value, hvalue]
        rw [List.find?_cons_of_neg (by simp [hvalue])]
        exact (hrest _ hout).trans ih
      | none =>
        have hout : (Piece.field key).value kwargs = .error (.keyError (String.ofList key.name)) := by
          rw [Piece.value, hvalue]
        rw [List.find?_cons_of_pos (by simp [hvalue]), fill_cons, hout]
        constructor
        · intro h
          cases h
          exact ⟨_, rfl, rfl⟩
        · rintro ⟨_, rfl, h⟩
          cases h
          rfl

theorem Template.keys_append (first second : Template) :
    (first ++ second).keys = first.keys ++ second.keys := by
  induction first with
  | nil => rfl
  | cons piece first ih =>
    cases piece with
    | literal c => exact ih
    | field key => exact congrArg (String.ofList key.name :: ·) ih

/-- Lines joined by newlines. -/
def Template.lines (lines : List Template) : Template := [Piece.literal '\n'].intercalate lines

/-- **The lines of a template are filled line by line.** -/
theorem Template.fill_lines {kwargs : String → Option String} (lines : List Template) :
    (Template.lines lines).fill kwargs = (do
      return ['\n'].intercalate (← lines.mapM (Template.fill kwargs))) := by
  induction lines with
  | nil => rfl
  | cons line lines ih =>
    cases lines with
    | nil =>
      rw [Template.lines, List.intercalate_singleton, List.mapM_cons]
      cases line.fill kwargs with
      | error e => rfl
      | ok out => exact congrArg Except.ok List.intercalate_singleton.symm
    | cons next lines =>
      have hlines : Template.lines (line :: next :: lines) =
          line ++ ([Piece.literal '\n'] ++ Template.lines (next :: lines)) := by
        rw [Template.lines, List.intercalate_cons_cons, List.append_assoc]
        rfl
      have hnewline : Template.fill kwargs [Piece.literal '\n'] = .ok ['\n'] := rfl
      rw [hlines, fill_append, fill_append, ih, hnewline, List.mapM_cons, List.mapM_cons, List.mapM_cons]
      cases Template.fill kwargs line with
      | error e => rfl
      | ok out =>
        cases Template.fill kwargs next with
        | error e => rfl
        | ok out' =>
          cases lines.mapM (Template.fill kwargs) with
          | error e => rfl
          | ok outs =>
            refine congrArg Except.ok ?_
            rw [List.intercalate_cons_cons, List.append_assoc]

theorem Template.keys_lines (lines : List Template) :
    (Template.lines lines).keys = lines.flatMap Template.keys := by
  induction lines with
  | nil => rfl
  | cons line lines ih =>
    cases lines with
    | nil => rw [Template.lines, List.intercalate_singleton, List.flatMap_singleton]
    | cons next lines =>
      rw [List.flatMap_cons, ← ih, Template.lines, List.intercalate_cons_cons, keys_append, keys_append]
      simp [keys, Template.lines]

/-! ## The round trip -/

section RoundTrip

variable {complex : Field → Except FormatError (List Char)} {kwargs : String → Option String}

theorem run_cons_quiet {mode next : Mode} {c : Char} (h : mode.step c = .ok (.quiet, next))
    (cs : List Char) : run complex kwargs mode (c :: cs) = run complex kwargs next cs := by
  rw [run, h]
  show (do return [] ++ (← run complex kwargs next cs) : Except FormatError (List Char)) = _
  cases run complex kwargs next cs with
  | ok out => rfl
  | error e => rfl

theorem run_cons {mode next : Mode} {event : Event} {c : Char} (h : mode.step c = .ok (event, next))
    (cs : List Char) : run complex kwargs mode (c :: cs) = (do
      let out ← event.text complex kwargs
      return out ++ (← run complex kwargs next cs)) := by
  rw [run, h]
  rfl

/-- The characters of a writable name are read one by one. -/
theorem run_name {name : List Char}
    (hname : ∀ c ∈ name, c ≠ '[' ∧ c ≠ '\x7b' ∧ c ≠ '\x7d' ∧ c ≠ ':' ∧ c ≠ '!') (read cs : List Char) :
    run complex kwargs (.name read) (name ++ '\x7d' :: cs) = (do
      let out ← Field.value complex kwargs ⟨read.reverse ++ name, none, []⟩
      return out ++ (← run complex kwargs .text cs)) := by
  induction name generalizing read with
  | nil =>
    have hstep : (Mode.name read).step '\x7d' = .ok (.field ⟨read.reverse, none, []⟩, .text) := rfl
    rw [List.nil_append, List.append_nil]
    exact run_cons hstep cs
  | cons c name ih =>
    rw [List.forall_mem_cons] at hname
    obtain ⟨⟨hbracket, hopen, hclose, hcolon, hbang⟩, hrest⟩ := hname
    have hstep : (Mode.name read).step c = .ok (.quiet, .name (c :: read)) := by
      show nameStep read c = _
      rw [nameStep, if_neg hopen, if_neg hbracket, if_neg hclose, if_neg hcolon, if_neg hbang]
    rw [List.cons_append, run_cons_quiet hstep, ih hrest, List.reverse_cons, List.append_assoc]
    rfl

theorem run_field (key : Key) (cs : List Char) :
    run complex kwargs .text ((Piece.field key).write ++ cs) = (do
      let out ← (Piece.field key).value kwargs
      return out ++ (← run complex kwargs .text cs)) := by
  obtain ⟨name, hplain, hchars⟩ := key
  show run complex kwargs .text ('\x7b' :: (name ++ ['\x7d']) ++ cs) = _
  have hvalue : Field.value complex kwargs ⟨name, none, []⟩ =
      (Piece.field ⟨name, hplain, hchars⟩).value kwargs := if_pos hplain
  rw [← hvalue]
  cases name with
  | nil =>
    obtain ⟨-, -, -, -, c, hc, -⟩ := hplain
    cases hc
  | cons c name =>
    have hall : ∀ d ∈ c :: name, d ≠ '[' ∧ d ≠ '\x7b' ∧ d ≠ '\x7d' ∧ d ≠ ':' ∧ d ≠ '!' := by
      intro d hd
      refine ⟨?_, hchars d hd⟩
      rintro rfl
      exact hplain.2.2.2.1 hd
    rw [List.forall_mem_cons] at hall
    obtain ⟨⟨hbracket, hopen, hclose, hcolon, hbang⟩, hrest⟩ := hall
    -- the first character of the name tells the field from a doubled brace
    have hstep : Mode.opened.step c = .ok (.quiet, .name [c]) := by
      show (if c = '\x7b' then _ else nameStep [] c) = _
      rw [if_neg hopen, nameStep, if_neg hopen, if_neg hbracket, if_neg hclose, if_neg hcolon,
        if_neg hbang]
    have hwrite : '\x7b' :: (c :: name ++ ['\x7d']) ++ cs = '\x7b' :: c :: (name ++ '\x7d' :: cs) := by
      simp
    rw [hwrite, run_cons_quiet rfl, run_cons_quiet hstep, run_name hrest]
    rfl

theorem run_literal (c : Char) (cs : List Char) :
    run complex kwargs .text ((Piece.literal c).write ++ cs) = (do
      return [c] ++ (← run complex kwargs .text cs)) := by
  by_cases hopen : c = '\x7b'
  · subst hopen
    have hstep : Mode.opened.step '\x7b' = .ok (.literal '\x7b', .text) := rfl
    show run complex kwargs .text ('\x7b' :: '\x7b' :: cs) = _
    rw [run_cons_quiet rfl]
    exact run_cons hstep cs
  · by_cases hclose : c = '\x7d'
    · subst hclose
      have hstep : Mode.closed.step '\x7d' = .ok (.literal '\x7d', .text) := rfl
      show run complex kwargs .text ('\x7d' :: '\x7d' :: cs) = _
      rw [run_cons_quiet rfl]
      exact run_cons hstep cs
    · have hstep : Mode.text.step c = .ok (.literal c, .text) := by
        show (if c = '\x7b' then _ else if c = '\x7d' then _ else _) = _
        rw [if_neg hopen, if_neg hclose]
      have hwrite : (Piece.literal c).write = [c] := by
        rw [Piece.write, if_neg (by simp [hopen, hclose])]
      rw [hwrite]
      exact run_cons hstep cs

/-- **Formatting the text of a template fills it**: doubled braces come out single, every field as its
    value, and the error is that of the first missing key. -/
theorem format_write (template : Template) :
    format complex kwargs template.write = template.fill kwargs := by
  rw [format]
  induction template with
  | nil => rfl
  | cons piece pieces ih =>
    rw [Template.write, List.flatMap_cons, Template.fill_cons, ← ih]
    cases piece with
    | literal c => exact run_literal c _
    | field key => exact run_field key _

end RoundTrip

end TrainBdd.StrFormat
