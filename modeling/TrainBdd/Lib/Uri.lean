/-
  URIs after RFC 3986, read the lenient way every text has a reading, and the PATH TEMPLATES from
  which clients build them.

  1. **Templates** — `Template ν`: a list of path segments, each a literal or a variable; `format`
     fills in the values AS THEY ARE and joins the segments by slashes.

  2. **Percent-decoding** — `decode`: a `%HH` triple is a byte, every other character its UTF-8 bytes.

  3. **Dot segments** — `removeDots`: `.` and `..` removed as a path is resolved.

  4. **Parser** — `parse`: fragment, query, scheme, authority, then the path's segments without dot
     segments, each decoded.

  5. **Accounting** — nothing the parser does to a path adds bytes: a slash inside a value, a triple, a
     dot segment each LOSE some (`bytes_splitOn_lt`, `bytes_removeDotsFrom_lt`).  So a path whose segments
     decode to all the bytes of its values has met none of them — the exact condition for an unescaped
     value to survive, without a case analysis of what a bad value turns into.
-/
import TrainBdd.Lib.Text
import Mathlib.Algebra.BigOperators.Group.List.Basic
import Mathlib.Algebra.GroupWithZero.Nat

namespace TrainBdd.Uri

open Text

/-! ## Templates -/

/-- One segment of a path template. -/
inductive Piece (ν : Type)
  | lit (text : String)
  | var (x : ν)
deriving DecidableEq, Repr

abbrev Template (ν : Type) := List (Piece ν)

variable {ν : Type}

/-- The text of a segment: a variable's value is inserted unchanged. -/
def Piece.fill (values : ν → String) : Piece ν → String
  | .lit text => text
  | .var x => values x

/-- The filled segments. -/
def Template.fill (values : ν → String) (t : Template ν) : List String := t.map (Piece.fill values)

/-- The filled template, as a relative path. -/
def Template.format (values : ν → String) (t : Template ν) : String := "/".intercalate (t.fill values)

/-- The literal segments of a template. -/
def Template.literals (t : Template ν) : List String :=
  t.filterMap fun
    | .lit text => some text
    | .var _ => none

/-- The variables of a template. -/
def Template.vars (t : Template ν) : List ν :=
  t.filterMap fun
    | .lit _ => none
    | .var x => some x

@[simp] theorem Template.mem_literals {t : Template ν} {text : String} :
    text ∈ t.literals ↔ Piece.lit text ∈ t := by
  unfold literals
  rw [List.mem_filterMap]
  constructor
  · rintro ⟨piece, hpiece, heq⟩
    cases piece with
    | lit s => exact Option.some.inj heq ▸ hpiece
    | var x => nomatch heq
  · intro h
    exact ⟨.lit text, h, rfl⟩

@[simp] theorem Template.mem_vars {t : Template ν} {x : ν} : x ∈ t.vars ↔ Piece.var x ∈ t := by
  unfold vars
  rw [List.mem_filterMap]
  constructor
  · rintro ⟨piece, hpiece, heq⟩
    cases piece with
    | lit s => nomatch heq
    | var y => exact Option.some.inj heq ▸ hpiece
  · intro h
    exact ⟨.var x, h, rfl⟩

/-- What holds of the literals and of the variables' values holds of every filled segment. -/
theorem Template.forall_mem_fill {P : String → Prop} {t : Template ν} {values : ν → String} :
    (∀ s ∈ t.fill values, P s) ↔ (∀ text ∈ t.literals, P text) ∧ ∀ x ∈ t.vars, P (values x) := by
  unfold fill
  rw [List.forall_mem_map]
  constructor
  · intro h
    exact ⟨fun text htext => h (.lit text) (mem_literals.mp htext),
      fun x hx => h (.var x) (mem_vars.mp hx)⟩
  · rintro ⟨hlit, hvar⟩ piece hpiece
    cases piece with
    | lit text => exact hlit text (mem_literals.mpr hpiece)
    | var x => exact hvar x (mem_vars.mpr hpiece)

theorem Template.toList_format (values : ν → String) (t : Template ν) :
    (t.format values).toList = ['/'].intercalate ((t.fill values).map String.toList) :=
  String.toList_intercalate

/-- **Filled templates are told apart by their segments** when no segment has a slash. -/
theorem Template.format_eq_iff {t u : Template ν} {values others : ν → String}
    (ht : ∀ s ∈ t.fill values, '/' ∉ s.toList) (hu : ∀ s ∈ u.fill others, '/' ∉ s.toList)
    (htne : t ≠ []) (hune : u ≠ []) :
    t.format values = u.format others ↔ t.fill values = u.fill others := by
  constructor
  · intro h
    have hlist := congrArg String.toList h
    rw [toList_format, toList_format] at hlist
    have hsegs := intercalate_inj (List.forall_mem_map.mpr ht) (by simpa [fill] using htne)
      (List.forall_mem_map.mpr hu) (by simpa [fill] using hune) hlist
    exact List.map_injective_iff.mpr (fun _ _ => String.toList_injective) hsegs
  · intro h
    rw [format, h, format]

/-- One template with two fillings: the variables decide. -/
theorem Template.fill_eq_iff {t : Template ν} {values others : ν → String} :
    t.fill values = t.fill others ↔ ∀ x ∈ t.vars, values x = others x := by
  unfold fill
  rw [List.map_inj_left]
  constructor
  · intro h x hx
    exact h (.var x) (mem_vars.mp hx)
  · intro h piece hpiece
    cases piece with
    | lit text => rfl
    | var x => exact h x (mem_vars.mpr hpiece)

/-! ## Percent-decoding -/

/-- A hexadecimal digit, in either case. -/
def hexValue (c : Char) : Option Nat := "0123456789abcdef".toList.idxOf? c.toLower

/-- The byte of a triple, after its `%`. -/
def triple (h l : Char) : Option UInt8 := do
  let hi ← hexValue h
  let lo ← hexValue l
  return UInt8.ofNat (hi * 16 + lo)

/-- The bytes of a text. -/
def utf8 (cs : List Char) : List UInt8 := cs.flatMap String.utf8EncodeChar

/-- The bytes of a text in which triples stand for bytes. -/
def decode : List Char → List UInt8
  | '%' :: h :: l :: cs =>
    match triple h l with
    | some byte => byte :: decode cs
    | none => String.utf8EncodeChar '%' ++ decode (h :: l :: cs)
  | c :: cs => String.utf8EncodeChar c ++ decode cs
  | [] => []

/-- Somewhere the text has a `%` followed by two hexadecimal digits. -/
def hasTriple : List Char → Bool
  | '%' :: h :: l :: cs => (triple h l).isSome || hasTriple (h :: l :: cs)
  | _ :: cs => hasTriple cs
  | [] => false

theorem utf8_append (cs ds : List Char) : utf8 (cs ++ ds) = utf8 cs ++ utf8 ds := List.flatMap_append

theorem utf8_cons (c : Char) (cs : List Char) : utf8 (c :: cs) = String.utf8EncodeChar c ++ utf8 cs :=
  rfl

/-- Texts are told apart by their bytes. -/
theorem utf8_injective : Function.Injective utf8 := by
  intro cs ds h
  have hbytes : cs.utf8Encode = ds.utf8Encode := congrArg List.toByteArray h
  apply String.ofList_injective
  rw [← String.toByteArray_inj, String.toByteArray_ofList, String.toByteArray_ofList, hbytes]

theorem length_utf8EncodeChar_pos (c : Char) : 0 < (String.utf8EncodeChar c).length :=
  List.length_pos_of_ne_nil String.utf8EncodeChar_ne_nil

/-- Without a triple nothing is decoded. -/
theorem decode_eq_utf8 {cs : List Char} (h : hasTriple cs = false) : decode cs = utf8 cs := by
  fun_induction decode cs with
  | case1 a b ds byte htriple ih =>
    rw [hasTriple, htriple] at h
    nomatch h
  | case2 a b ds htriple ih =>
    rw [hasTriple, htriple] at h
    rw [ih h, utf8_cons '%']
  | case3 c ds hne ih =>
    have hds : hasTriple ds = false := by
      rw [hasTriple] at h
      · exact h
      · exact hne
    rw [ih hds, utf8_cons]
  | case4 => rfl

/-- Decoding never adds bytes. -/
theorem length_decode_le (cs : List Char) : (decode cs).length ≤ (utf8 cs).length := by
  fun_induction decode cs with
  | case1 a b ds byte htriple ih =>
    have ha := length_utf8EncodeChar_pos a
    rw [utf8_cons, utf8_cons, utf8_cons]
    simp only [List.length_cons, List.length_append]
    have hpercent : (String.utf8EncodeChar '%').length = 1 := rfl
    omega
  | case2 a b ds htriple ih =>
    rw [utf8_cons '%', List.length_append, List.length_append]
    omega
  | case3 c ds hne ih =>
    rw [utf8_cons, List.length_append, List.length_append]
    omega
  | case4 => exact Nat.le_refl 0

/-- A triple loses bytes. -/
theorem length_decode_lt {cs : List Char} (h : hasTriple cs = true) :
    (decode cs).length < (utf8 cs).length := by
  fun_induction decode cs with
  | case1 a b ds byte htriple ih =>
    have ha := length_utf8EncodeChar_pos a
    have hds := length_decode_le ds
    have hpercent : (String.utf8EncodeChar '%').length = 1 := rfl
    rw [utf8_cons, utf8_cons, utf8_cons]
    simp only [List.length_cons, List.length_append]
    omega
  | case2 a b ds htriple ih =>
    rw [hasTriple, htriple] at h
    have hds := ih h
    rw [utf8_cons '%', List.length_append, List.length_append]
    omega
  | case3 c ds hne ih =>
    have hds : hasTriple ds = true := by
      rw [hasTriple] at h
      · exact h
      · exact hne
    have hlt := ih hds
    rw [utf8_cons, List.length_append, List.length_append]
    omega
  | case4 => nomatch h

/-- A `%` is no digit. -/
theorem ne_percent_of_triple {h l : Char} {byte : UInt8} (htriple : triple h l = some byte) :
    h ≠ '%' ∧ l ≠ '%' := by
  obtain ⟨hi, hhi, hrest⟩ := Option.bind_eq_some_iff.mp htriple
  obtain ⟨lo, hlo, -⟩ := Option.bind_eq_some_iff.mp hrest
  constructor
  · rintro rfl
    nomatch hhi
  · rintro rfl
    nomatch hlo

theorem decode_cons_of_ne {c : Char} (h : c ≠ '%') (cs : List Char) :
    decode (c :: cs) = String.utf8EncodeChar c ++ decode cs := by
  rw [decode]
  intro a b ds hc
  exact absurd hc h

theorem length_decode_cons_le (c : Char) (cs : List Char) :
    (decode (c :: cs)).length ≤ (String.utf8EncodeChar c).length + (decode cs).length := by
  by_cases hc : c = '%'
  · subst hc
    have hpercent : (String.utf8EncodeChar '%').length = 1 := rfl
    match cs with
    | [] => exact Nat.le_refl 1
    | [a] =>
      have heq : decode ['%', a] = String.utf8EncodeChar '%' ++ decode [a] := by
        rw [decode]
        intro b d ds _ hds
        nomatch hds
      exact Nat.le_of_eq (by rw [heq, List.length_append])
    | a :: b :: ds =>
      cases htriple : triple a b with
      | none =>
        rw [decode, htriple]
        simp only [List.length_append]
        omega
      | some byte =>
        obtain ⟨ha, hb⟩ := ne_percent_of_triple htriple
        rw [decode, htriple, decode_cons_of_ne ha, decode_cons_of_ne hb]
        simp only [List.length_cons, List.length_append]
        omega
  · exact Nat.le_of_eq (by rw [decode_cons_of_ne hc, List.length_append])

/-- Joining two texts can only complete a triple. -/
theorem length_decode_append_le (cs ds : List Char) :
    (decode (cs ++ ds)).length ≤ (decode cs).length + (decode ds).length := by
  fun_induction decode cs with
  | case1 a b rest byte htriple ih =>
    simp only [List.cons_append, decode, htriple, List.length_cons]
    omega
  | case2 a b rest htriple ih =>
    simp only [List.cons_append] at ih
    simp only [List.cons_append, decode, htriple, List.length_append]
    omega
  | case3 c rest hne ih =>
    have hcons := length_decode_cons_le c (rest ++ ds)
    rw [List.cons_append, List.length_append]
    omega
  | case4 =>
    show (decode ds).length ≤ 0 + (decode ds).length
    omega

/-! ## Counting the bytes of a path -/

/-- The bytes a list of raw segments decodes to. -/
def bytes (segs : List (List Char)) : Nat := (segs.map fun s => (decode s).length).sum

/-- They are the bytes of the decoded segments. -/
theorem bytes_eq_sum (segs : List (List Char)) :
    bytes segs = ((segs.map decode).map List.length).sum := by
  rw [List.map_map]
  rfl

@[simp] theorem bytes_nil : bytes [] = 0 := rfl

@[simp] theorem bytes_cons (s : List Char) (segs : List (List Char)) :
    bytes (s :: segs) = (decode s).length + bytes segs := List.sum_cons

@[simp] theorem bytes_append (segs more : List (List Char)) :
    bytes (segs ++ more) = bytes segs + bytes more := by
  rw [bytes, List.map_append, List.sum_append]
  rfl

theorem bytes_reverse (segs : List (List Char)) : bytes segs.reverse = bytes segs := by
  rw [bytes, List.map_reverse, List.sum_reverse]
  rfl

theorem bytes_tail_le (segs : List (List Char)) : bytes segs.tail ≤ bytes segs := by
  cases segs with
  | nil => exact Nat.le_refl 0
  | cons s segs =>
    rw [List.tail_cons, bytes_cons]
    omega

/-! ## Dot segments -/

/-- `.` or `..`. -/
def IsDot (s : List Char) : Prop := s = ['.'] ∨ s = ['.', '.']

instance (s : List Char) : Decidable (IsDot s) := inferInstanceAs (Decidable (_ ∨ _))

/-- What a dot segment leaves behind: when it is the final one, the empty segment after its slash. -/
def afterDot (rest done : List (List Char)) : List (List Char) :=
  if rest = [] then [] :: done else done

/-- The remaining segments resolved against the ones already done, the last one first. -/
def removeDotsFrom (done : List (List Char)) : List (List Char) → List (List Char)
  | [] => done.reverse
  | s :: rest =>
    if s = ['.'] then removeDotsFrom (afterDot rest done) rest
    else if s = ['.', '.'] then removeDotsFrom (afterDot rest done.tail) rest
    else removeDotsFrom (s :: done) rest

def removeDots (segs : List (List Char)) : List (List Char) := removeDotsFrom [] segs

theorem removeDotsFrom_eq {segs : List (List Char)} (h : ∀ s ∈ segs, ¬ IsDot s) :
    ∀ done, removeDotsFrom done segs = done.reverse ++ segs := by
  induction segs with
  | nil =>
    intro done
    exact (List.append_nil _).symm
  | cons s segs ih =>
    intro done
    obtain ⟨hdot, hdots⟩ := not_or.mp (h s List.mem_cons_self)
    rw [removeDotsFrom, if_neg hdot, if_neg hdots, ih fun t ht => h t (List.mem_cons_of_mem s ht),
      List.reverse_cons, List.append_assoc]
    rfl

/-- Without dot segments a path is its own resolution. -/
theorem removeDots_eq {segs : List (List Char)} (h : ∀ s ∈ segs, ¬ IsDot s) : removeDots segs = segs :=
  removeDotsFrom_eq h []

theorem bytes_afterDot (rest done : List (List Char)) : bytes (afterDot rest done) = bytes done := by
  unfold afterDot
  split
  · rw [bytes_cons]
    exact Nat.zero_add _
  · rfl

theorem bytes_removeDotsFrom_le (segs : List (List Char)) :
    ∀ done, bytes (removeDotsFrom done segs) ≤ bytes done + bytes segs := by
  induction segs with
  | nil =>
    intro done
    rw [removeDotsFrom, bytes_reverse]
    exact Nat.le_add_right _ _
  | cons s segs ih =>
    intro done
    have htail := bytes_tail_le done
    rw [removeDotsFrom, bytes_cons]
    split
    · have hrest := ih (afterDot segs done)
      rw [bytes_afterDot] at hrest
      omega
    split
    · have hrest := ih (afterDot segs done.tail)
      rw [bytes_afterDot] at hrest
      omega
    · have hrest := ih (s :: done)
      rw [bytes_cons] at hrest
      omega

/-- A dot segment loses bytes: its own, and those of the segment it removes. -/
theorem bytes_removeDotsFrom_lt {segs : List (List Char)} (h : ∃ s ∈ segs, IsDot s) :
    ∀ done, bytes (removeDotsFrom done segs) < bytes done + bytes segs := by
  induction segs with
  | nil =>
    obtain ⟨s, hs, -⟩ := h
    nomatch hs
  | cons s segs ih =>
    intro done
    have htail := bytes_tail_le done
    rw [removeDotsFrom, bytes_cons]
    split
    · next hdot =>
      have hlen : (decode s).length = 1 := by rw [hdot]; rfl
      have hrest := bytes_removeDotsFrom_le segs (afterDot segs done)
      rw [bytes_afterDot] at hrest
      omega
    split
    · next hdots =>
      have hlen : (decode s).length = 2 := by rw [hdots]; rfl
      have hrest := bytes_removeDotsFrom_le segs (afterDot segs done.tail)
      rw [bytes_afterDot] at hrest
      omega
    · next hdot hdots =>
      -- this segment is kept, so the dot segment comes later
      have hlater : ∃ t ∈ segs, IsDot t := by
        obtain ⟨t, ht, htdot⟩ := h
        rcases List.mem_cons.mp ht with rfl | ht
        · rcases htdot with heq | heq
          · exact absurd heq hdot
          · exact absurd heq hdots
        · exact ⟨t, ht, htdot⟩
      have hrest := ih hlater (s :: done)
      rw [bytes_cons] at hrest
      omega

/-! ## Values with slashes -/

/-- The bytes of joined texts are those of the texts and one for each slash between them. -/
theorem length_utf8_intercalate {xs : List (List Char)} (hne : xs ≠ []) :
    (utf8 (['/'].intercalate xs)).length + 1 =
      (xs.map fun x => (utf8 x).length).sum + xs.length := by
  induction xs with
  | nil => exact absurd rfl hne
  | cons x xs ih =>
    cases xs with
    | nil => simp
    | cons y ys =>
      have hrest := ih (List.cons_ne_nil y ys)
      have hslash : (utf8 ['/']).length = 1 := rfl
      rw [List.intercalate_cons_of_ne_nil (List.cons_ne_nil y ys), utf8_append, utf8_append,
        List.map_cons, List.sum_cons, List.length_append, List.length_append,
        List.length_cons (a := x)]
      omega

theorem bytes_le (xs : List (List Char)) : bytes xs ≤ (xs.map fun x => (utf8 x).length).sum := by
  induction xs with
  | nil => exact Nat.le_refl 0
  | cons x xs ih =>
    have hx := length_decode_le x
    rw [bytes_cons, List.map_cons, List.sum_cons]
    omega

/-- A value spread over path segments keeps at most its bytes. -/
theorem bytes_splitOn_le (value : List Char) : bytes (value.splitOn '/') ≤ (utf8 value).length := by
  have hne := List.splitOn_ne_nil '/' value
  have hlen := length_utf8_intercalate hne
  have hle := bytes_le (value.splitOn '/')
  have hpos := List.length_pos_of_ne_nil hne
  rw [List.intercalate_splitOn] at hlen
  omega

/-- It loses some when it has a slash or a triple. -/
theorem bytes_splitOn_lt {value : List Char} (h : '/' ∈ value ∨ hasTriple value = true) :
    bytes (value.splitOn '/') < (utf8 value).length := by
  by_cases hslash : '/' ∈ value
  · have hne := List.splitOn_ne_nil '/' value
    have hlen := length_utf8_intercalate hne
    have hle := bytes_le (value.splitOn '/')
    -- at least two pieces, and the slash between them is gone
    have htwo : 2 ≤ (value.splitOn '/').length := by
      obtain ⟨pre, post, hvalue, -⟩ := List.eq_append_cons_of_mem hslash
      have hpre := List.length_pos_of_ne_nil (List.splitOn_ne_nil '/' pre)
      have hpost := List.length_pos_of_ne_nil (List.splitOn_ne_nil '/' post)
      rw [hvalue, List.splitOn_append_cons_self, List.length_append]
      omega
    rw [List.intercalate_splitOn] at hlen
    omega
  · have htriple : hasTriple value = true := h.resolve_left hslash
    rw [List.splitOn_eq_singleton hslash, bytes_cons, bytes_nil]
    exact length_decode_lt htriple

/-- The bytes of several values. -/
def size (values : List (List Char)) : Nat := (values.map fun v => (utf8 v).length).sum

theorem bytes_flatMap_splitOn_le (values : List (List Char)) :
    bytes (values.flatMap fun v => v.splitOn '/') ≤ size values := by
  induction values with
  | nil => exact Nat.le_refl 0
  | cons v vs ih =>
    have hv := bytes_splitOn_le v
    rw [List.flatMap_cons, bytes_append, size, List.map_cons, List.sum_cons]
    unfold size at ih
    omega

/-- Values that keep all their bytes have neither a slash nor a triple. -/
theorem intact_of_size_le {values : List (List Char)}
    (h : size values ≤ bytes (values.flatMap fun v => v.splitOn '/')) :
    ∀ v ∈ values, '/' ∉ v ∧ hasTriple v = false := by
  induction values with
  | nil =>
    intro v hv
    nomatch hv
  | cons v vs ih =>
    have hv := bytes_splitOn_le v
    have hvs := bytes_flatMap_splitOn_le vs
    have hsize : size (v :: vs) = (utf8 v).length + size vs := List.sum_cons
    rw [List.flatMap_cons, bytes_append, hsize] at h
    intro u hu
    rcases List.mem_cons.mp hu with rfl | hu
    · by_contra hbad
      have hlt : bytes (u.splitOn '/') < (utf8 u).length := by
        apply bytes_splitOn_lt
        by_contra hnone
        obtain ⟨hslash, htriple⟩ := not_or.mp hnone
        exact hbad ⟨hslash, Bool.eq_false_iff.mpr htriple⟩
      omega
    · exact ih (by omega) u hu

/-- **A path that resolves to all its bytes** is its own resolution: behind the leading segments
    every value stands in one segment, as it is, and no segment is a dot segment. -/
theorem intact_of_size_le_removeDots {lead values : List (List Char)}
    (h : bytes lead + size values ≤
      bytes (removeDots (lead ++ values.flatMap fun v => v.splitOn '/'))) :
    (∀ v ∈ values, '/' ∉ v ∧ hasTriple v = false ∧ ¬ IsDot v) ∧
      removeDots (lead ++ values.flatMap fun v => v.splitOn '/') = lead ++ values := by
  -- a dot segment would lose bytes that the splitting cannot make up for
  have hdots : ∀ s ∈ lead ++ values.flatMap fun v => v.splitOn '/', ¬ IsDot s := by
    intro s hs hdot
    have hlt := bytes_removeDotsFrom_lt ⟨s, hs, hdot⟩ []
    have hle := bytes_flatMap_splitOn_le values
    rw [bytes_nil, bytes_append] at hlt
    unfold removeDots at h
    omega
  rw [removeDots_eq hdots, bytes_append] at h
  have hintact := intact_of_size_le (Nat.le_of_add_le_add_left h)
  have hflat : (values.flatMap fun v => v.splitOn '/') = values :=
    flatMap_splitOn_of_not_mem fun v hv => (hintact v hv).1
  rw [removeDots_eq hdots, hflat]
  rw [hflat] at hdots
  exact ⟨fun v hv => ⟨(hintact v hv).1, (hintact v hv).2, hdots v (List.mem_append_right lead hv)⟩, rfl⟩

/-! ## The parser -/

/-- The parts of a URI; the path by its segments, in bytes. -/
structure Parsed where
  scheme : Option (List Char)
  authority : Option (List Char)
  path : List (List UInt8)
  query : Option (List Char)
  fragment : Option (List Char)
deriving DecidableEq

/-- A scheme ends at the first colon, which no slash precedes. -/
def takeScheme (cs : List Char) : Option (List Char) × List Char :=
  match cut ':' cs with
  | (_, none) => (none, cs)
  | (scheme, some rest) => if scheme = [] ∨ '/' ∈ scheme then (none, cs) else (some scheme, rest)

/-- An authority stands between two slashes and the next one. -/
def takeAuthority : List Char → Option (List Char) × List Char
  | '/' :: '/' :: cs =>
    match cut '/' cs with
    | (authority, none) => (some authority, [])
    | (authority, some rest) => (some authority, '/' :: rest)
  | cs => (none, cs)

/-- The raw segments of a path, the leading slash aside. -/
def segments : List Char → List (List Char)
  | [] => []
  | '/' :: cs => cs.splitOn '/'
  | cs => cs.splitOn '/'

/-- The resolved and decoded segments of a path. -/
def readPath (path : List Char) : List (List UInt8) := (removeDots (segments path)).map decode

def parse (uri : List Char) : Parsed :=
  let (rest, fragment) := cut '#' uri
  let (rest, query) := cut '?' rest
  let (scheme, rest) := takeScheme rest
  let (authority, path) := takeAuthority rest
  ⟨scheme, authority, readPath path, query, fragment⟩

/-- A URI without fragment and query has neither delimiter. -/
theorem not_mem_of_parse {uri : List Char} (hfragment : (parse uri).fragment = none)
    (hquery : (parse uri).query = none) : '#' ∉ uri ∧ '?' ∉ uri := by
  have hhash : '#' ∉ uri := cut_eq_none_iff.mp hfragment
  have hrest : (cut '?' (cut '#' uri).1).2 = none := hquery
  rw [cut_of_not_mem hhash] at hrest
  exact ⟨hhash, cut_eq_none_iff.mp hrest⟩

/-- **The parts of an absolute URI** are the parts it was put together from. -/
theorem parse_absolute {scheme authority path : List Char} (hscheme : scheme ≠ [])
    (hs : ∀ c ∈ [':', '/', '?', '#'], c ∉ scheme) (ha : ∀ c ∈ ['/', '?', '#'], c ∉ authority)
    (hp : ∀ c ∈ ['?', '#'], c ∉ path) :
    parse (scheme ++ ':' :: '/' :: '/' :: authority ++ '/' :: path) =
      ⟨some scheme, some authority, (removeDots (path.splitOn '/')).map decode, none, none⟩ := by
  have hdelim : ∀ c ∈ ['?', '#'], c ∉ scheme ++ ':' :: '/' :: '/' :: authority ++ '/' :: path := by
    intro c hc
    have hcs : c ∉ scheme := by
      rcases List.mem_pair.mp hc with rfl | rfl
      · exact hs _ (by decide)
      · exact hs _ (by decide)
    have hca : c ∉ authority := by
      rcases List.mem_pair.mp hc with rfl | rfl
      · exact ha _ (by decide)
      · exact ha _ (by decide)
    have hcp := hp c hc
    have hne : c ≠ ':' ∧ c ≠ '/' := by
      rcases List.mem_pair.mp hc with rfl | rfl
      · decide
      · decide
    simp [hcs, hca, hcp, hne.1, hne.2]
  have htake : takeScheme (scheme ++ ':' :: '/' :: '/' :: authority ++ '/' :: path) =
      (some scheme, '/' :: '/' :: authority ++ '/' :: path) := by
    rw [takeScheme, List.append_assoc, List.cons_append, cut_append (hs ':' (by decide))]
    exact if_neg (not_or.mpr ⟨hscheme, hs '/' (by decide)⟩)
  have hauth : takeAuthority ('/' :: '/' :: authority ++ '/' :: path) =
      (some authority, '/' :: path) := by
    rw [List.cons_append, List.cons_append, takeAuthority, cut_append (ha '/' (by decide))]
  simp only [parse, cut_of_not_mem (hdelim '#' (by decide)), cut_of_not_mem (hdelim '?' (by decide)),
    htake, hauth]
  rfl

end TrainBdd.Uri
