import HttpInterface.ExpandedRequest
import HttpInterface.Proofs.List
import HttpInterface.Proofs.Text.Split
import HttpInterface.Url.Component
import Mathlib.Data.List.DropRight

/-!
# `HttpInterface.Proofs.Url.Parts`: what stands where in a URL

The text of a URL with a scheme and an authority is `scheme://authority` and a rest that begins
where the authority ends. `Anchored` is a text taken apart so, and its lemmas say what becomes of
the authority when the text is changed at its end: dropping slashes changes the rest only
(`Anchored.trimmed`), and so does what is appended to a rest (`Anchored.append`). Where there is no
rest yet, the authority goes on (`Anchored.goOn`).

Scheme, host and port of a URL depend on the first two parts alone: `origin_eq` is the reason why
two texts with the same scheme and the same authority have the same origin.
-/

set_option autoImplicit false

namespace HttpInterface

namespace Url

/-- A character that ends an authority. -/
def endsAuthority (c : Char) : Bool :=
  c == '/' || c == '?' || c == '#'

/-! ### Splitting -/

theorem not_mem_of_isScheme {s : List Char} (h : isScheme s = true) : ':' ∉ s := by
  cases s with
  | nil => exact List.not_mem_nil
  | cons c rest =>
    rw [isScheme, Bool.and_eq_true] at h
    rw [List.mem_cons, not_or]
    refine ⟨?_, fun hmem => ?_⟩
    · rintro rfl
      exact absurd h.1 (by decide)
    · exact absurd (List.all_eq_true.1 h.2 ':' hmem) (by decide)

theorem splitScheme_append {s : List Char} (hs : isScheme s = true) (rest : List Char) :
    splitScheme (s ++ ':' :: rest) = (s, rest) := by
  rw [splitScheme, Text.cut_append (not_mem_of_isScheme hs)]
  exact if_pos hs

/-- A scheme that was split off stands in front of a colon. -/
theorem splitScheme_ne_nil {cs : List Char} (h : (splitScheme cs).1 ≠ []) :
    ∃ s rest, cs = s ++ ':' :: rest ∧ isScheme s = true ∧ splitScheme cs = (s, rest) := by
  rcases Text.cut_cases ':' cs with ⟨-, hcut⟩ | ⟨s, rest, hcs, -, hcut⟩
  · rw [splitScheme, hcut] at h
    exact absurd rfl h
  · rw [splitScheme, hcut] at h ⊢
    by_cases hs : isScheme s = true
    · exact ⟨s, rest, hcs, hs, if_pos hs⟩
    · simp [hs] at h

/-- An authority that was split off stands behind two slashes. -/
theorem splitAuthority_ne_nil {cs : List Char} (h : (splitAuthority cs).1 ≠ []) :
    ∃ rest, cs = '/' :: '/' :: rest := by
  unfold splitAuthority at h
  split at h
  · next rest => exact ⟨rest, rfl⟩
  · exact absurd rfl h

/-- The parts of a text behind its authority. -/
def behind (rest : List Char) : List Char × Option (List Char) × Option (List Char) :=
  let front := Text.cut '#' rest
  let path := Text.cut '?' front.1
  (path.1, path.2, front.2)

/-- Without query and fragment all that stands behind an authority is the path. -/
theorem behind_of_none {rest : List Char} (hquery : (behind rest).2.1 = none)
    (hfragment : (behind rest).2.2 = none) :
    (behind rest).1 = rest ∧ '?' ∉ rest ∧ '#' ∉ rest := by
  simp only [behind] at hquery hfragment ⊢
  rcases Text.cut_cases '#' rest with ⟨hhash, heq⟩ | ⟨a, b, -, -, heq⟩
  · rw [heq] at hquery ⊢
    rcases Text.cut_cases '?' rest with ⟨hmark, heq'⟩ | ⟨a, b, -, -, heq'⟩
    · rw [heq']
      exact ⟨rfl, hmark, hhash⟩
    · rw [heq'] at hquery
      exact nomatch hquery
  · rw [heq] at hfragment
    exact nomatch hfragment

/-- Nothing stands behind an authority exactly if all parts behind it are empty. -/
theorem behind_eq_iff {rest : List Char} :
    ((behind rest).1 = [] ∧ (behind rest).2.1 = none ∧ (behind rest).2.2 = none) ↔ rest = [] := by
  constructor
  · rintro ⟨hpath, hquery, hfragment⟩
    rw [← (behind_of_none hquery hfragment).1, hpath]
  · rintro rfl
    exact ⟨rfl, rfl, rfl⟩

/-- A path that holds no character that ends it is all that stands behind an authority. -/
theorem behind_path {path : List Char} (hmark : '?' ∉ path) (hhash : '#' ∉ path) :
    behind path = (path, none, none) := by
  simp only [behind]
  rw [Text.cut_of_not_mem hhash, Text.cut_of_not_mem hmark]

/-- Such a path goes up to the query, and the query up to the fragment. -/
theorem behind_query {path : List Char} (hmark : '?' ∉ path) (hhash : '#' ∉ path)
    (query : List Char) :
    behind (path ++ '?' :: query) =
      (path, some (Text.cut '#' query).1, (Text.cut '#' query).2) := by
  simp only [behind]
  rw [Text.cut_append_of_not_mem hhash, Text.cut, if_neg (by decide)]
  show ((Text.cut '?' (path ++ '?' :: (Text.cut '#' query).1)).1, _, _) = _
  rw [Text.cut_append hmark]

/-- A text taken apart behind its authority. -/
structure Anchored (scheme authority rest text : List Char) : Prop where
  eq : text = scheme ++ ':' :: '/' :: '/' :: (authority ++ rest)
  isScheme : isScheme scheme = true
  scheme_ne : scheme ≠ []
  isAuthority : ∀ c ∈ authority, endsAuthority c = false
  authority_ne : authority ≠ []
  /-- The rest begins where the authority ends. -/
  isRest : ∀ c, rest.head? = some c → endsAuthority c = true

/-- A text with a scheme and an authority is taken apart behind them. -/
theorem exists_anchored {cs : List Char} (hs : (split cs).scheme ≠ [])
    (ha : (split cs).authority ≠ []) : ∃ s a rest, Anchored s a rest cs := by
  have hne : (splitScheme cs).1 ≠ [] := hs
  obtain ⟨s, after, rfl, hscheme, hsplit⟩ := splitScheme_ne_nil hne
  have hauthority : (splitAuthority after).1 ≠ [] := by
    rw [split, hsplit] at ha
    exact ha
  obtain ⟨rest, rfl⟩ := splitAuthority_ne_nil hauthority
  refine ⟨s, rest.takeWhile (!endsAuthority ·), rest.dropWhile (!endsAuthority ·), ?_⟩
  exact {
    eq := by rw [List.takeWhile_append_dropWhile]
    isScheme := hscheme
    scheme_ne := by
      rw [split, hsplit] at hs
      exact hs
    isAuthority := fun c hc => by simpa using List.all_eq_true.1 List.all_takeWhile c hc
    authority_ne := hauthority
    isRest := by
      intro c hc
      have hnot := List.head?_dropWhile_not (!endsAuthority ·) rest
      rw [hc] at hnot
      simpa using hnot }

namespace Anchored

variable {s a rest cs : List Char}

theorem split_eq (h : Anchored s a rest cs) :
    split cs = ⟨s, a, (behind rest).1, (behind rest).2.1, (behind rest).2.2⟩ := by
  have hscheme : splitScheme cs = (s, '/' :: '/' :: (a ++ rest)) := by
    rw [h.eq]
    exact splitScheme_append h.isScheme _
  have hauthority : splitAuthority ('/' :: '/' :: (a ++ rest)) = (a, rest) := by
    show ((a ++ rest).takeWhile (!endsAuthority ·), (a ++ rest).dropWhile (!endsAuthority ·)) = _
    have hall : ∀ c ∈ a, (!endsAuthority c) = true := fun c hc => by simp [h.isAuthority c hc]
    rw [List.takeWhile_append_of_pos hall, List.dropWhile_append_of_pos hall]
    cases rest with
    | nil => simp
    | cons c rest => simp [h.isRest c rfl]
  rw [split, hscheme]
  simp only [hauthority]
  rfl

/-- What follows belongs to the rest, if the rest has begun or now begins. -/
theorem append (h : Anchored s a rest cs) {more : List Char}
    (hmore : rest = [] → ∀ c, more.head? = some c → endsAuthority c = true) :
    Anchored s a (rest ++ more) (cs ++ more) where
  eq := by simp [h.eq]
  isScheme := h.isScheme
  scheme_ne := h.scheme_ne
  isAuthority := h.isAuthority
  authority_ne := h.authority_ne
  isRest := by
    cases rest with
    | nil => exact hmore rfl
    | cons d rest => exact fun c hc => h.isRest c hc

/-- Where no rest has begun the authority goes on up to the first character that ends it. -/
theorem goOn (h : Anchored s a [] cs) (more : List Char) :
    Anchored s (a ++ more.takeWhile (!endsAuthority ·)) (more.dropWhile (!endsAuthority ·))
      (cs ++ more) where
  eq := by simp [h.eq, List.takeWhile_append_dropWhile]
  isScheme := h.isScheme
  scheme_ne := h.scheme_ne
  isAuthority := by
    intro c hc
    rcases List.mem_append.1 hc with hc | hc
    · exact h.isAuthority c hc
    · simpa using List.all_eq_true.1 List.all_takeWhile c hc
  authority_ne := by simp [h.authority_ne]
  isRest := by
    intro c hc
    have hnot := List.head?_dropWhile_not (!endsAuthority ·) more
    rw [hc] at hnot
    simpa using hnot

end Anchored

/-! ### Slashes at the end -/

/-- A text without the slashes at its end. -/
def trimmed (cs : List Char) : List Char :=
  cs.rdropWhile (· == '/')

theorem toList_trimSlashes (s : String) :
    (ExpandedRequest.trimSlashes s).toList = trimmed s.toList := by
  rw [ExpandedRequest.trimSlashes, String.toList_ofList]
  rfl

/-- Behind a text that ends otherwise all slashes are dropped, and nothing of the text itself. -/
theorem trimmed_append {a : List Char} (ha : trimmed a = a) (b : List Char) :
    trimmed (a ++ b) = a ++ trimmed b := by
  induction b using List.reverseRecOn with
  | nil => rw [List.append_nil, ha, show trimmed [] = [] from rfl, List.append_nil]
  | append_singleton b c ih =>
    rw [trimmed, trimmed, ← List.append_assoc, List.rdropWhile_concat, List.rdropWhile_concat]
    split
    · exact ih
    · exact List.append_assoc a b [c]

/-- The slashes at the end of a query are its own. -/
theorem trimmed_query (path query : List Char) :
    trimmed (path ++ '?' :: query) = path ++ '?' :: trimmed query := by
  have hmark : trimmed (path ++ ['?']) = path ++ ['?'] :=
    List.rdropWhile_concat_neg _ _ _ (by decide)
  have happend := trimmed_append hmark query
  simpa using happend

/-- The slashes at the end belong to the rest: an authority holds none. -/
theorem Anchored.trimmed {s a rest cs : List Char} (h : Anchored s a rest cs) :
    Anchored s a (trimmed rest) (trimmed cs) where
  eq := by
    have hlast : a.getLast h.authority_ne ≠ '/' := by
      intro hslash
      have hends := h.isAuthority _ (List.getLast_mem h.authority_ne)
      rw [hslash] at hends
      exact absurd hends (by decide)
    have hfront : Url.trimmed (s ++ [':', '/', '/'] ++ a) = s ++ [':', '/', '/'] ++ a := by
      rw [← List.dropLast_concat_getLast h.authority_ne, ← List.append_assoc]
      exact List.rdropWhile_concat_neg _ _ _ (by simpa using hlast)
    have htext : cs = s ++ [':', '/', '/'] ++ a ++ rest := by simp [h.eq]
    rw [htext, trimmed_append hfront]
    simp
  isScheme := h.isScheme
  scheme_ne := h.scheme_ne
  isAuthority := h.isAuthority
  authority_ne := h.authority_ne
  isRest := by
    intro c hc
    obtain ⟨dropped, hdropped⟩ : Url.trimmed rest <+: rest := List.rdropWhile_prefix _ _
    refine h.isRest c ?_
    rw [← hdropped, List.head?_append, hc]
    rfl

/-! ### Scheme, host and port -/

/-- What a URL says about where it leads, without the path. -/
def origin (u : Url) : String × String × Option Int :=
  (u.scheme, u.host, u.port)

/-- Each part of a URL comes from its own part of the text, but for the port, which the scheme may
imply. -/
structure IsOf (u : Url) (p : Parts) : Prop where
  scheme : u.scheme = String.ofList (p.scheme.map Char.toLower)
  host : normalHost (splitAuthorityParts p.authority).host = .ok u.host.toList
  port : normalPort p.scheme (splitAuthorityParts p.authority).port = .ok u.port
  path : p.scheme ≠ [] → u.path = String.ofList (escape unsafeInPath (resolveDots p.path))
  query : u.query = p.query.map fun q => String.ofList (escape unsafeInQuery q)
  fragment : u.fragment = p.fragment.map fun f => String.ofList (escape unsafeInFragment f)

theorem isOf_of_ofParts {p : Parts} {u : Url}
    (h : ofParts p (splitAuthorityParts p.authority) = .ok u) : u.IsOf p := by
  simp only [ofParts, bind_eq_ok, mapError_eq_ok] at h
  obtain ⟨host, hhost, port, hport, h⟩ := h
  rw [← String.toList_ofList (l := host)] at hhost
  split at h
  · exact nomatch h
  split at h
  · next hrelative =>
    -- A path that stands alone is taken as it is.
    obtain ⟨-, -, h⟩ := bind_eq_ok.1 h
    obtain rfl := Except.ok.inj h
    rw [Bool.and_eq_true, List.isEmpty_iff] at hrelative
    exact ⟨rfl, hhost, hport, fun hscheme => absurd hrelative.1 hscheme, rfl, rfl⟩
  · obtain rfl := Except.ok.inj h
    exact ⟨rfl, hhost, hport, fun _ => rfl, rfl, rfl⟩

theorem isOf_of_parse {text : String} {u : Url} (h : parse text = .ok u) :
    u.IsOf (split text.toList) := by
  simp only [parse] at h
  split at h
  · exact nomatch h
  split at h
  · exact nomatch h
  · exact isOf_of_ofParts h

/-- Texts with one scheme and one authority have one origin. -/
theorem origin_eq {a b : String} {u v : Url} (ha : parse a = .ok u) (hb : parse b = .ok v)
    (hscheme : (split a.toList).scheme = (split b.toList).scheme)
    (hauthority : (split a.toList).authority = (split b.toList).authority) :
    u.origin = v.origin := by
  have hu := isOf_of_parse ha
  have hv := isOf_of_parse hb
  have hhost : u.host = v.host := by
    have h := hu.host
    rw [hauthority, hv.host] at h
    exact (String.toList_inj.1 (Except.ok.inj h)).symm
  have hport : u.port = v.port := by
    have h := hu.port
    rw [hscheme, hauthority, hv.port] at h
    exact (Except.ok.inj h).symm
  rw [origin, origin, hu.scheme, hv.scheme, hscheme, hhost, hport]

/-- A URL that says where it leads on its own has a scheme and an authority in its text. -/
theorem anchored_of_isAbsolute {text : String} {u : Url} (h : parse text = .ok u)
    (habsolute : u.isAbsolute = true) : ∃ s a rest, Anchored s a rest text.toList := by
  have hof := isOf_of_parse h
  rw [isAbsolute, Bool.and_eq_true, Bool.not_eq_true', Bool.not_eq_true'] at habsolute
  refine exists_anchored ?_ ?_
  · intro hnil
    rw [hof.scheme, hnil] at habsolute
    exact absurd habsolute.1 (by decide)
  · intro hnil
    have hhost := hof.host
    rw [hnil, show (splitAuthorityParts []).host = [] from rfl,
      show normalHost [] = .ok [] from rfl] at hhost
    have hempty : u.host = "" := String.toList_eq_nil_iff.1 (Except.ok.inj hhost).symm
    rw [hempty] at habsolute
    exact absurd habsolute.2 (by decide)

end Url

end HttpInterface
