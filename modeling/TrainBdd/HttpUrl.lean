/-
  `pydantic.HttpUrl` — the validated base URLs the wrappers are configured with — and the requests
  they send.

  The validator is a third-party package; what the wrappers rely on is the shape of the string that an
  accepted URL prints as.  `HttpUrl` carries that shape by construction: a scheme, an authority, a path
  with at least one segment and without dot segments, possibly a query and a fragment, each written in
  printable ASCII only (blanks and everything beyond ASCII are percent-encoded by the validator).

  A `Request` is what a call of the `requests` session is given; the session's headers (the token and
  the content type, set by the unseen core package) are left out.
-/
import TrainBdd.Lib.Json

namespace TrainBdd

/-- Printable ASCII without the blank. -/
def UrlChar (c : Char) : Prop := '!' ≤ c ∧ c ≤ '~'

instance (c : Char) : Decidable (UrlChar c) := inferInstanceAs (Decidable (_ ∧ _))

/-- Every character of the text is a URL character and none of the given delimiters. -/
def Component (delimiters : List Char) (text : String) : Prop :=
  ∀ c ∈ text.toList, UrlChar c ∧ c ∉ delimiters

instance (delimiters : List Char) (text : String) : Decidable (Component delimiters text) :=
  inferInstanceAs (Decidable (∀ c ∈ text.toList, _))

/-- The text is what the component's delimiters leave: a path segment, and no dot segment. -/
def PathSegment (text : String) : Prop :=
  Component ['/', '?', '#'] text ∧ text ≠ "." ∧ text ≠ ".."

instance (text : String) : Decidable (PathSegment text) := inferInstanceAs (Decidable (_ ∧ _))

/-- An accepted URL, in the parts of its text: `scheme://authority/segment/…/segment?query#fragment`.
    A trailing slash is an empty last segment. -/
structure HttpUrl where
  scheme : String
  authority : String
  segments : List String
  query : Option String := none
  fragment : Option String := none
  scheme_http : scheme = "http" ∨ scheme = "https"
  authority_ok : Component ['/', '?', '#'] authority
  segments_ok : ∀ s ∈ segments, PathSegment s
  segments_ne_nil : segments ≠ []
  query_ok : ∀ q ∈ query, Component ['#'] q
  fragment_ok : ∀ f ∈ fragment, Component [] f

namespace HttpUrl

/-- The path, from its leading slash on. -/
def path (self : HttpUrl) : String := "/" ++ "/".intercalate self.segments

/-- `str(url)`. -/
def str (self : HttpUrl) : String :=
  self.scheme ++ "://" ++ self.authority ++ self.path ++
    (self.query.elim "" ("?" ++ ·)) ++ self.fragment.elim "" ("#" ++ ·)

/-- `http://authority/segment/…/segment`, checked where it is written. -/
def http (authority : String) (segments : List String)
    (hauthority : Component ['/', '?', '#'] authority := by decide)
    (hsegments : ∀ s ∈ segments, PathSegment s := by decide)
    (hne : segments ≠ [] := by decide) : HttpUrl where
  scheme := "http"
  authority := authority
  segments := segments
  scheme_http := Or.inl rfl
  authority_ok := hauthority
  segments_ok := hsegments
  segments_ne_nil := hne
  query_ok := by decide
  fragment_ok := by decide

/-- `http://authority/`. -/
def root (authority : String) (hauthority : Component ['/', '?', '#'] authority := by decide) :
    HttpUrl :=
  .http authority [""] hauthority

/-- Every character of the path is a URL character. -/
theorem urlChar_of_mem_path (self : HttpUrl) {c : Char} (h : c ∈ self.path.toList) : UrlChar c := by
  rw [path, String.toList_append, List.mem_append] at h
  rcases h with h | h
  · obtain rfl : c = '/' := List.mem_singleton.mp h
    decide
  · rw [String.toList_intercalate] at h
    rcases Text.mem_intercalate h with ⟨text, htext, hc⟩ | rfl
    · obtain ⟨segment, hsegment, rfl⟩ := List.mem_map.mp htext
      exact ((self.segments_ok segment hsegment).1 c hc).1
    · decide

/-- An optional component behind its mark, the query or the fragment. -/
theorem urlChar_of_mem_elim {mark : String} {delimiters : List Char} {component : Option String}
    (hmark : ∀ c ∈ mark.toList, UrlChar c) (hok : ∀ t ∈ component, Component delimiters t) {c : Char}
    (h : c ∈ (component.elim "" (mark ++ ·)).toList) : UrlChar c := by
  cases component with
  | none => nomatch h
  | some t =>
    rw [Option.elim_some, String.toList_append, List.mem_append] at h
    rcases h with h | h
    · exact hmark c h
    · exact (hok t rfl c h).1

/-- An accepted URL prints as URL characters only. -/
theorem urlChar_of_mem_str (self : HttpUrl) {c : Char} (h : c ∈ self.str.toList) : UrlChar c := by
  simp only [str, String.toList_append, List.mem_append] at h
  rcases h with ((((h | h) | h) | h) | h) | h
  · rcases self.scheme_http with hs | hs
    · rw [hs] at h
      revert c
      decide
    · rw [hs] at h
      revert c
      decide
  · revert c
    decide
  · exact (self.authority_ok c h).1
  · exact self.urlChar_of_mem_path h
  · exact urlChar_of_mem_elim (by decide) self.query_ok h
  · exact urlChar_of_mem_elim (by decide) self.fragment_ok h

end HttpUrl

/-! ## Requests -/

inductive HttpMethod
  | get
  | put
  | patch
  | delete
deriving DecidableEq, Repr

/-- The body of a request: a dictionary the wrapper builds, a payload `J` it hands through as JSON, text,
    or a payload where text is expected, which `requests` encodes as a form. -/
inductive Body (J : Type)
  | empty
  | dict (members : Json.Value)
  | json (payload : J)
  | data (text : String)
  | form (payload : J)

structure HttpRequest (J : Type) where
  method : HttpMethod
  url : String
  body : Body J

end TrainBdd
