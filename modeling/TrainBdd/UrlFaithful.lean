/-
  WHICH RESOURCE a URL of the wrappers addresses, once a server has parsed it.

  1. **`Faithful`** — the URL parses to the host's own scheme, authority and base path, followed by
     the template's segments with every variable's value in one segment of its own, without query and
     fragment.

  2. **Exact condition** — `faithful_iff`: faithful EXACTLY when the host ends in a slash and every
     value is `Intact`: no `/`, `?`, `#`, no percent triple, not a dot segment.  Empty values, blanks
     and letters beyond ASCII do no harm.
     - "if" reads the segments off the joined text;
     - "only if" counts: the parsed path has all the bytes of base path and values (`size_le_of_faithful`),
       and whatever a bad value turns into, it has fewer.  What is left is the number of segments, and
       a host without the final slash has one too few.

  3. **The wrappers** — every TSPA and ZM method formats one of eleven templates, so `faithful_iff` is
     the exact condition for each (`urls_faithful_iff`).
-/
import TrainBdd.TspaServer
import TrainBdd.ZoneManager

namespace TrainBdd

open Uri Text

/-! ## Faithful URLs -/

namespace HttpUrl

/-- The last segment, empty behind a final slash. -/
def last (self : HttpUrl) : String := self.segments.getLast self.segments_ne_nil

/-- The path ends in a slash. -/
def EndsInSlash (self : HttpUrl) : Prop := self.last = ""

instance (self : HttpUrl) : Decidable self.EndsInSlash := inferInstanceAs (Decidable (_ = _))

/-- The base path's own segments: a final slash adds none. -/
def base (self : HttpUrl) : List String :=
  if self.EndsInSlash then self.segments.dropLast else self.segments

end HttpUrl

/-- The URL addresses what the template says, under the host. -/
def Faithful {ν : Type} (host : HttpUrl) (url : String) (t : Template ν) (values : ν → String) : Prop :=
  parse url.toList =
    ⟨some host.scheme.toList, some host.authority.toList,
      host.base.map (fun s => decode s.toList) ++ (t.fill values).map fun s => utf8 s.toList,
      none, none⟩

instance {ν : Type} (host : HttpUrl) (url : String) (t : Template ν) (values : ν → String) :
    Decidable (Faithful host url t values) := inferInstanceAs (Decidable (_ = _))

/-- The value survives in a path segment of its own. -/
def Intact (value : String) : Prop :=
  (∀ c ∈ ['/', '?', '#'], c ∉ value.toList) ∧ hasTriple value.toList = false ∧ ¬ IsDot value.toList

instance (value : String) : Decidable (Intact value) := inferInstanceAs (Decidable (_ ∧ _ ∧ _))

/-- The template starts with a literal and its literals survive. -/
def Rooted {ν : Type} (t : Template ν) : Prop :=
  (∃ text ∈ t.literals, t.head? = some (.lit text)) ∧ ∀ text ∈ t.literals, Intact text

instance {ν : Type} [DecidableEq ν] (t : Template ν) : Decidable (Rooted t) :=
  inferInstanceAs (Decidable ((∃ text ∈ t.literals, _) ∧ ∀ text ∈ t.literals, _))

/-! ## The text of a URL behind a host -/

/-- The raw segments behind the authority: those of the host, the last one fused with the template's
    first literal, and the other filled segments. -/
def pieces (host : HttpUrl) (text : String) (filled : List String) : List (List Char) :=
  host.segments.dropLast.map String.toList ++
    (host.last.toList ++ text.toList) :: filled.map String.toList

/-- The raw segments in front of the filled ones. -/
def front (host : HttpUrl) (text : String) : List (List Char) :=
  host.segments.dropLast.map String.toList ++ [host.last.toList ++ text.toList]

theorem pieces_eq (host : HttpUrl) (text : String) (filled : List String) :
    pieces host text filled = front host text ++ filled.map String.toList := by
  rw [front, List.append_assoc, pieces, List.singleton_append]

theorem segments_eq (host : HttpUrl) : host.segments = host.segments.dropLast ++ [host.last] :=
  (List.dropLast_append_getLast host.segments_ne_nil).symm

/-- What a template that starts with a literal is, and what it is filled to. -/
theorem exists_of_rooted {ν : Type} {t : Template ν} (h : Rooted t) :
    ∃ text rest, t = .lit text :: rest ∧ Intact text := by
  obtain ⟨⟨text, htext, hhead⟩, hintact⟩ := h
  obtain ⟨rest, rfl⟩ := List.head?_eq_some_iff.mp hhead
  exact ⟨text, rest, rfl, hintact text htext⟩

theorem toList_url {ν : Type} (host : HttpUrl) (hquery : host.query = none)
    (hfragment : host.fragment = none) (text : String) (rest : Template ν) (values : ν → String) :
    (host.str ++ Template.format values (.lit text :: rest)).toList =
      host.scheme.toList ++ ':' :: '/' :: '/' :: host.authority.toList ++
        '/' :: ['/'].intercalate (pieces host text (rest.fill values)) := by
  have hpath : host.path.toList ++ (Template.format values (.lit text :: rest)).toList =
      '/' :: ['/'].intercalate (pieces host text (rest.fill values)) := by
    have hfill : (Template.fill values (.lit text :: rest)).map String.toList =
        text.toList :: (rest.fill values).map String.toList := rfl
    rw [HttpUrl.path, String.toList_append, String.toList_intercalate, segments_eq host,
      List.map_append, Template.toList_format, hfill, List.append_assoc]
    exact congrArg ('/' :: ·) (intercalate_fuse '/' _ _ _ _)
  rw [String.toList_append, HttpUrl.str, hquery, hfragment, Option.elim_none, Option.elim_none,
    String.append_empty, String.append_empty, String.toList_append, List.append_assoc, hpath]
  simp

/-- The delimiters of a URI occur in no part of a host. -/
theorem not_mem_host (host : HttpUrl) :
    (∀ c ∈ [':', '/', '?', '#'], c ∉ host.scheme.toList) ∧
      (∀ c ∈ ['/', '?', '#'], c ∉ host.authority.toList) ∧
      ∀ s ∈ host.segments, ∀ c ∈ ['/', '?', '#'], c ∉ s.toList := by
  refine ⟨?_, ?_, ?_⟩
  · rcases host.scheme_http with h | h
    · rw [h]
      decide
    · rw [h]
      decide
  · intro c hc hmem
    exact (host.authority_ok c hmem).2 hc
  · intro s hs c hc hmem
    exact ((host.segments_ok s hs).1 c hmem).2 hc

theorem scheme_ne_nil (host : HttpUrl) : host.scheme.toList ≠ [] := by
  rcases host.scheme_http with h | h
  · rw [h]
    decide
  · rw [h]
    decide

theorem not_mem_front (host : HttpUrl) {text : String} (htext : '/' ∉ text.toList) :
    ∀ x ∈ front host text, '/' ∉ x := by
  have hsegs : ∀ s ∈ host.segments, '/' ∉ s.toList := fun s hs =>
    (not_mem_host host).2.2 s hs '/' (by decide)
  intro x hx
  rcases List.mem_append.mp hx with hx | hx
  · obtain ⟨s, hs, rfl⟩ := List.mem_map.mp hx
    exact hsegs s (List.dropLast_subset _ hs)
  · obtain rfl := List.mem_singleton.mp hx
    rw [List.mem_append, not_or]
    exact ⟨hsegs _ (List.getLast_mem host.segments_ne_nil), htext⟩

/-- The first raw segments have no slash, so only the values can be split any further. -/
theorem splitOn_pieces (host : HttpUrl) {text : String} (htext : '/' ∉ text.toList)
    (filled : List String) :
    (['/'].intercalate (pieces host text filled)).splitOn '/' =
      front host text ++ (filled.map String.toList).flatMap fun v => v.splitOn '/' := by
  rw [pieces_eq, splitOn_intercalate_flatMap '/' (by simp [front]), List.flatMap_append,
    flatMap_splitOn_of_not_mem (not_mem_front host htext)]

/-! ## The exact condition -/

/-- The bytes and the number of the base path's segments, by the host's own segments. -/
theorem base_spec (host : HttpUrl) :
    (host.base.map fun s => (decode s.toList).length).sum =
        bytes (host.segments.dropLast.map String.toList) + (decode host.last.toList).length ∧
      (host.base.length = host.segments.dropLast.length ↔ host.EndsInSlash) := by
  have hbytes : bytes (host.segments.dropLast.map String.toList) =
      (host.segments.dropLast.map fun s => (decode s.toList).length).sum := by
    rw [bytes, List.map_map]
    rfl
  unfold HttpUrl.base
  by_cases hslash : host.EndsInSlash
  · have hempty : host.last = "" := hslash
    rw [if_pos hslash, hbytes, hempty]
    exact ⟨rfl, fun _ => hslash, fun _ => rfl⟩
  · rw [if_neg hslash]
    constructor
    · have hsegs := congrArg (fun segs => (segs.map fun s : String => (decode s.toList).length).sum)
        (segments_eq host)
      simp only [List.map_append, List.sum_append, List.map_cons, List.map_nil, List.sum_cons,
        List.sum_nil, Nat.add_zero] at hsegs
      rw [hsegs, hbytes]
    · have hlength : host.segments.length = host.segments.dropLast.length + 1 := by
        have hsegs := congrArg List.length (segments_eq host)
        rwa [List.length_append, List.length_singleton] at hsegs
      constructor
      · intro h
        omega
      · intro h
        exact absurd h hslash

/-- A host has no dot segments. -/
theorem not_isDot_of_mem {host : HttpUrl} {s : String} (h : s ∈ host.segments) : ¬ IsDot s.toList := by
  obtain ⟨-, hdot, hdots⟩ := host.segments_ok s h
  rintro (heq | heq)
  · exact hdot (String.toList_injective heq)
  · exact hdots (String.toList_injective heq)

/-- **If**: behind a final slash, intact segments are read off as they were put in. -/
theorem faithful_of_intact {ν : Type} {host : HttpUrl} (hquery : host.query = none)
    (hfragment : host.fragment = none) (hslash : host.EndsInSlash) {text : String} {rest : Template ν}
    {values : ν → String} (htext : Intact text) (hrest : ∀ s ∈ rest.fill values, Intact s) :
    Faithful host (host.str ++ Template.format values (.lit text :: rest)) (.lit text :: rest) values := by
  obtain ⟨hscheme, hauthority, hsegs⟩ := not_mem_host host
  have hlast : host.last = "" := hslash
  have hinit : ∀ s ∈ host.segments.dropLast, s ∈ host.segments := fun s hs => List.dropLast_subset _ hs
  have hpieces : pieces host text (rest.fill values) =
      (host.segments.dropLast ++ text :: rest.fill values).map String.toList := by
    rw [pieces, hlast, List.map_append]
    rfl
  have hok : ∀ s ∈ host.segments.dropLast ++ text :: rest.fill values,
      (∀ c ∈ ['/', '?', '#'], c ∉ s.toList) ∧ ¬ IsDot s.toList := by
    intro s hs
    rcases List.mem_append.mp hs with hs | hs
    · exact ⟨hsegs s (hinit s hs), not_isDot_of_mem (hinit s hs)⟩
    · rcases List.mem_cons.mp hs with rfl | hs
      · exact ⟨htext.1, htext.2.2⟩
      · exact ⟨(hrest s hs).1, (hrest s hs).2.2⟩
  -- no delimiter in the path, so the parser takes all of it, and splits it where it was joined
  have hpath : ∀ c ∈ ['?', '#'], c ∉ ['/'].intercalate (pieces host text (rest.fill values)) := by
    intro c hc hmem
    have hc' : c ∈ ['/', '?', '#'] := List.mem_cons_of_mem _ hc
    rw [hpieces] at hmem
    rcases mem_intercalate hmem with ⟨x, hx, hcx⟩ | hsep
    · obtain ⟨s, hs, rfl⟩ := List.mem_map.mp hx
      exact (hok s hs).1 c hc' hcx
    · rcases List.mem_pair.mp hc with rfl | rfl
      · nomatch hsep
      · nomatch hsep
  have hsplit : (['/'].intercalate (pieces host text (rest.fill values))).splitOn '/' =
      (host.segments.dropLast ++ text :: rest.fill values).map String.toList := by
    rw [hpieces]
    refine List.splitOn_intercalate '/' ?_ (by simp)
    exact List.forall_mem_map.mpr fun s hs => (hok s hs).1 '/' (by decide)
  unfold Faithful
  rw [toList_url host hquery hfragment, parse_absolute (scheme_ne_nil host) hscheme hauthority hpath,
    hsplit, removeDots_eq (List.forall_mem_map.mpr fun s hs => (hok s hs).2), List.map_map,
    List.map_append]
  -- behind the host's own segments nothing is there to be decoded
  have hbase : host.base = host.segments.dropLast := if_pos hslash
  have hfilled : (text :: rest.fill values).map (decode ∘ String.toList) =
      (Template.fill values (.lit text :: rest)).map fun s => utf8 s.toList := by
    refine List.map_congr_left fun s hs => decode_eq_utf8 ?_
    rcases List.mem_cons.mp hs with rfl | hs
    · exact htext.2.1
    · exact (hrest s hs).2.1
  rw [hbase, hfilled]
  rfl

/-- A text put into a joined one occurs in it. -/
theorem mem_url_of_mem_fill {ν : Type} {host : HttpUrl} {t : Template ν} {values : ν → String}
    {s : String} (hs : s ∈ t.fill values) {c : Char} (hc : c ∈ s.toList) :
    c ∈ (host.str ++ t.format values).toList := by
  rw [String.toList_append, List.mem_append, Template.toList_format]
  exact Or.inr (mem_intercalate_of_mem (List.mem_map.mpr ⟨s, hs, rfl⟩) hc)

/-- Without query and fragment neither delimiter occurs in the URL. -/
theorem not_mem_url_of_faithful {ν : Type} {host : HttpUrl} {url : String} {t : Template ν}
    {values : ν → String} (h : Faithful host url t values) : ∀ c ∈ ['?', '#'], c ∉ url.toList := by
  obtain ⟨hhash, hquestion⟩ := not_mem_of_parse (congrArg Parsed.fragment h) (congrArg Parsed.query h)
  intro c hc
  rcases List.mem_pair.mp hc with rfl | rfl
  · exact hquestion
  · exact hhash

/-- The resolved segments of a faithful URL decode to the wanted ones. -/
theorem path_of_faithful {ν : Type} {host : HttpUrl} (hquery : host.query = none)
    (hfragment : host.fragment = none) {text : String} {rest : Template ν}
    {values : ν → String} (htext : Intact text)
    (h : Faithful host (host.str ++ Template.format values (.lit text :: rest))
      (.lit text :: rest) values) :
    (removeDots (front host text ++
        ((rest.fill values).map String.toList).flatMap fun v => v.splitOn '/')).map decode =
      host.base.map (fun s => decode s.toList) ++
        utf8 text.toList :: (rest.fill values).map fun s => utf8 s.toList := by
  obtain ⟨hscheme, hauthority, -⟩ := not_mem_host host
  have hpath : ∀ c ∈ ['?', '#'], c ∉ ['/'].intercalate (pieces host text (rest.fill values)) := by
    intro c hc hmem
    refine not_mem_url_of_faithful h c hc ?_
    rw [toList_url host hquery hfragment]
    exact List.mem_append_right _ (List.mem_cons_of_mem _ hmem)
  have hparse := h
  unfold Faithful at hparse
  rw [toList_url host hquery hfragment, parse_absolute (scheme_ne_nil host) hscheme hauthority hpath,
    splitOn_pieces host (htext.1 '/' (by decide))] at hparse
  exact congrArg Parsed.path hparse

/-- Fusing the host's last segment with the first literal adds no bytes. -/
theorem bytes_front_le (host : HttpUrl) (text : String) :
    bytes (front host text) ≤
      (host.base.map fun s => (decode s.toList).length).sum + (utf8 text.toList).length := by
  have hfused := length_decode_append_le host.last.toList text.toList
  have htext := length_decode_le text.toList
  rw [(base_spec host).1, front, bytes_append, bytes_cons, bytes_nil]
  omega

/-- So nothing was lost on the way: the resolved path has all the bytes of its front and the values. -/
theorem size_le_of_faithful {ν : Type} {host : HttpUrl} (hquery : host.query = none)
    (hfragment : host.fragment = none) {text : String} {rest : Template ν}
    {values : ν → String} (htext : Intact text)
    (h : Faithful host (host.str ++ Template.format values (.lit text :: rest))
      (.lit text :: rest) values) :
    bytes (front host text) + size ((rest.fill values).map String.toList) ≤
      bytes (removeDots (front host text ++
        ((rest.fill values).map String.toList).flatMap fun v => v.splitOn '/')) := by
  have hfront := bytes_front_le host text
  have hsize : size ((rest.fill values).map String.toList) =
      (((rest.fill values).map fun s => utf8 s.toList).map List.length).sum := by
    rw [size, List.map_map, List.map_map]
    rfl
  have hbase : ((host.base.map fun s => decode s.toList).map List.length).sum =
      (host.base.map fun s => (decode s.toList).length).sum := by
    rw [List.map_map]
    rfl
  rw [bytes_eq_sum (removeDots _), path_of_faithful hquery hfragment htext h, List.map_append,
    List.sum_append, hbase, List.map_cons, List.sum_cons, ← hsize]
  omega

/-- **Only if**: a URL that has kept every byte has met no bad value, and the number of its segments
    is right only behind a final slash. -/
theorem intact_of_faithful {ν : Type} {host : HttpUrl} (hquery : host.query = none)
    (hfragment : host.fragment = none) {text : String} {rest : Template ν}
    {values : ν → String} (htext : Intact text)
    (h : Faithful host (host.str ++ Template.format values (.lit text :: rest))
      (.lit text :: rest) values) :
    host.EndsInSlash ∧ ∀ s ∈ rest.fill values, Intact s := by
  obtain ⟨hintact, hresolved⟩ :=
    intact_of_size_le_removeDots (size_le_of_faithful hquery hfragment htext h)
  constructor
  · have hlength := congrArg List.length (path_of_faithful hquery hfragment htext h)
    rw [hresolved] at hlength
    simp only [front, List.length_map, List.length_append, List.length_nil, List.length_cons]
      at hlength
    exact (base_spec host).2.mp (by omega)
  · intro s hs
    obtain ⟨hslash, htriple, hdot⟩ := hintact s.toList (List.mem_map.mpr ⟨s, hs, rfl⟩)
    refine ⟨fun c hc => ?_, htriple, hdot⟩
    rcases List.mem_cons.mp hc with rfl | hc
    · exact hslash
    · -- the other two delimiters would have cut the URL
      have hfill : s ∈ Template.fill values (.lit text :: rest) := List.mem_cons_of_mem text hs
      exact fun hmem => not_mem_url_of_faithful h c hc (mem_url_of_mem_fill hfill hmem)

/-- **When a URL addresses what it should**: behind a host without query and fragment, exactly when
    the host ends in a slash and every value is intact. -/
theorem faithful_iff {ν : Type} {host : HttpUrl} (hquery : host.query = none)
    (hfragment : host.fragment = none) {t : Template ν} (ht : Rooted t) (values : ν → String) :
    Faithful host (host.str ++ t.format values) t values ↔
      host.EndsInSlash ∧ ∀ x ∈ t.vars, Intact (values x) := by
  obtain ⟨text, rest, rfl, htext⟩ := exists_of_rooted ht
  have hlits : ∀ lit ∈ Template.literals rest, Intact lit := fun lit hlit =>
    ht.2 lit (Template.mem_literals.mpr (List.mem_cons_of_mem _ (Template.mem_literals.mp hlit)))
  have hvars : Template.vars (.lit text :: rest) = Template.vars rest := rfl
  rw [hvars]
  constructor
  · intro h
    obtain ⟨hslash, hall⟩ := intact_of_faithful hquery hfragment htext h
    exact ⟨hslash, (Template.forall_mem_fill.mp hall).2⟩
  · rintro ⟨hslash, hall⟩
    exact faithful_of_intact hquery hfragment hslash htext (Template.forall_mem_fill.mpr ⟨hlits, hall⟩)

/-! ## The wrappers' URLs -/

/-- The templates of the wrappers start with a literal and have harmless literals. -/
theorem rooted_route (o : Tspa.Operation) : Rooted o.route.2 := by
  have hall : ∀ o ∈ Tspa.Operation.all, Rooted o.route.2 := by decide
  exact hall o o.mem_all

theorem rooted_others :
    Rooted Tspa.DidConfigurationEndpoint.path ∧ Rooted ZoneManager.pointerPath ∧
      Rooted ZoneManager.didPath := by
  decide

/-- The variables of a call's template are its name and its id. -/
theorem forall_vars_iff {J : Type} (call : Tspa.Call J) :
    (∀ x ∈ call.resource.operation.route.2.vars, Intact (call.resource.values x)) ↔
      Intact call.resource.frameworkName ∧ ∀ id ∈ call.resource.tspId, Intact id := by
  have hname := (Tspa.route_spec call.resource.operation).1
  have hid := Tspa.tspId_isSome call
  constructor
  · intro h
    refine ⟨h .frameworkName hname, fun id hsome => ?_⟩
    rw [hsome] at hid
    have hintact := h .id (of_decide_eq_true hid.symm)
    rwa [Tspa.Resource.values, hsome] at hintact
  · rintro ⟨hintact, hids⟩ x hx
    cases x with
    | frameworkName => exact hintact
    | id =>
      rw [decide_eq_true hx] at hid
      obtain ⟨id, hsome⟩ := Option.isSome_iff_exists.mp hid
      rw [Tspa.Resource.values, hsome]
      exact hids id hsome

/-- **Every URL of the TSPA endpoints and of the Zone Manager** addresses the resource it was built
    for exactly when the host ends in a slash and the names in it are intact. -/
theorem urls_faithful_iff {J : Type} (host : HttpUrl) (hquery : host.query = none)
    (hfragment : host.fragment = none) :
    (∀ call : Tspa.Call J,
      Faithful host ((⟨host⟩ : Tspa.Server).request call).url call.resource.operation.route.2
          call.resource.values ↔
        host.EndsInSlash ∧ Intact call.resource.frameworkName ∧
          ∀ id ∈ call.resource.tspId, Intact id) ∧
    (Faithful host (Tspa.DidConfigurationEndpoint.get host : HttpRequest J).url
        Tspa.DidConfigurationEndpoint.path (Tspa.fields "") ↔ host.EndsInSlash) ∧
    (∀ (tspId frameworkName : String) (jsonData : J),
      Faithful host (Tspa.DidConfigurationEndpoint.patch host tspId frameworkName jsonData).url
          Tspa.DidConfigurationEndpoint.path (Tspa.fields frameworkName tspId) ↔
        host.EndsInSlash) ∧
    ∀ pointer : String,
      (Faithful host ((⟨host⟩ : ZoneManager.Server).pointerUrl pointer) ZoneManager.pointerPath
          (fun _ => pointer) ↔ host.EndsInSlash ∧ Intact pointer) ∧
      (Faithful host ((⟨host⟩ : ZoneManager.Server).didUrl pointer) ZoneManager.didPath
          (fun _ => pointer) ↔ host.EndsInSlash ∧ Intact pointer) := by
  obtain ⟨hconfiguration, hpointer, hdid⟩ := rooted_others
  have hnovars : ∀ values : Tspa.Field → String,
      ∀ x ∈ Tspa.DidConfigurationEndpoint.path.vars, Intact (values x) := fun _ x hx => nomatch hx
  have honevar : ∀ (before after pointer : String),
      (∀ x ∈ Template.vars [Piece.lit before, .var (), .lit after], Intact ((fun _ => pointer) x)) ↔
        Intact pointer := by
    intro before after pointer
    exact List.forall_mem_singleton
  refine ⟨fun call => ?_, ?_, fun tspId frameworkName jsonData => ?_, fun pointer => ⟨?_, ?_⟩⟩
  · rw [(Tspa.request_eq_route _ call).2, faithful_iff hquery hfragment (rooted_route _),
      forall_vars_iff]
  · rw [Tspa.DidConfigurationEndpoint.get, Tspa.send, faithful_iff hquery hfragment hconfiguration]
    exact and_iff_left (hnovars _)
  · rw [Tspa.DidConfigurationEndpoint.patch, Tspa.send,
      faithful_iff hquery hfragment hconfiguration]
    exact and_iff_left (hnovars _)
  · rw [ZoneManager.pointerUrl_eq_format, faithful_iff hquery hfragment hpointer]
    exact and_congr_right fun _ => honevar "names" "schemes" pointer
  · rw [ZoneManager.didUrl_eq_format, faithful_iff hquery hfragment hdid]
    exact and_congr_right fun _ => honevar "names" "trust-list" pointer

/-- Under a base path with a final slash, a TSP and a pointer with a blank and an umlaut are addressed. -/
theorem urls_faithful_iff_underPath :
    let host : HttpUrl := .http "localhost:16003" ["train", ""]
    let call : Tspa.Call Unit := .deleteTsp "alice.trust.train1.xfsc.dev" "T\u00dcV S\u00fcd"
    Faithful host ((⟨host⟩ : Tspa.Server).request call).url Tspa.TrustListTspItemEndpoint.path
        call.resource.values ∧
      Faithful host ((⟨host⟩ : ZoneManager.Server).didUrl "alice~1") ZoneManager.didPath
        (fun _ => "alice~1") := by
  intro host call
  have hfaithful := @urls_faithful_iff Unit host rfl rfl
  exact ⟨(hfaithful.1 call).mpr (by decide), (hfaithful.2.2.2 "alice~1").2.mpr (by decide)⟩

/-- Each kind of bad value, and the base path without a final slash.  Deleting the TSP ".." deletes
    what stands above all TSPs. -/
theorem urls_unfaithful :
    let host : HttpUrl := .http "localhost:16003" [""]
    let unslashed : HttpUrl := .http "localhost:16001" ["zm"]
    let delete (id : String) : String :=
      ((⟨host⟩ : Tspa.Server).request (.deleteTsp "alice" id : Tspa.Call Unit)).url
    (∀ id ∈ ["..", ".", "a/b", "a?b", "a#b", "%2e"],
      ¬ Faithful host (delete id) Tspa.TrustListTspItemEndpoint.path (Tspa.fields "alice" id)) ∧
    parse (delete "..").toList =
      parse "http://localhost:16003/tspa-service/tspa/v1/alice/trust-list/".toList ∧
    ¬ Faithful unslashed ((⟨unslashed⟩ : ZoneManager.Server).didUrl "alice") ZoneManager.didPath
      (fun _ => "alice") := by
  intro host unslashed delete
  have hdid : Rooted ZoneManager.didPath := rooted_others.2.2
  have htsp : Rooted Tspa.TrustListTspItemEndpoint.path := rooted_route .deleteTsp
  refine ⟨fun id hid h => ?_, ?_, fun h => ?_⟩
  · have hbad : ∀ id ∈ ["..", ".", "a/b", "a?b", "a#b", "%2e"], ¬ Intact id := by decide
    have hurl : delete id =
        host.str ++ Tspa.TrustListTspItemEndpoint.path.format (Tspa.fields "alice" id) :=
      (Tspa.request_eq_route ⟨host⟩ (.deleteTsp "alice" id : Tspa.Call Unit)).2
    rw [hurl, faithful_iff rfl rfl htsp] at h
    exact hbad id hid (h.2 .id (by decide))
  · have hdelete : delete ".." =
        "http://localhost:16003/tspa-service/tspa/v1/alice/trust-list/tsp/.." := rfl
    rw [hdelete]
    repeat rw [toList_of_ofList rfl]
    decide +kernel
  · rw [ZoneManager.didUrl_eq_format, faithful_iff rfl rfl hdid] at h
    exact absurd h.1 (by decide)

end TrainBdd
