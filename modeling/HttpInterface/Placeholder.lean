/-!
# `HttpInterface.Placeholder`: named gaps in a text

A placeholder is a name between braces, `{name}`, where a name is one or more
of the ASCII letters, the digits, `_`, `.` and `-`. Braces around anything else
are plain text, so a literal JSON object may stand beside placeholders.

A text is read as a list of pieces, each a plain character or a placeholder. No
name holds a brace, so two placeholders never overlap and the pieces can be
found from the end of the text backwards: a brace that opens either meets a
name and the brace that closes it at once, or is plain.
-/

set_option autoImplicit false

namespace HttpInterface.Placeholder

/-- One piece of a text. -/
inductive Piece where
  /-- A character that stands for itself. -/
  | char (c : Char)
  /-- A placeholder, by its name. -/
  | slot (name : String)
  deriving DecidableEq, Repr

/-- A character that may stand in a name. -/
def isNameChar (c : Char) : Bool :=
  c.isAlphanum || c == '_' || c == '.' || c == '-'

/-- The run of name characters in front, and what follows the closing brace
behind it. -/
def closeName : List Piece → Option (List Char × List Piece)
  | .char c :: rest =>
    if c = '}' then some ([], rest)
    else if isNameChar c then (closeName rest).map fun p => (c :: p.1, p.2)
    else none
  | _ => none

/-- Puts one more character in front of pieces already found. -/
def attach (c : Char) (pieces : List Piece) : List Piece :=
  if c = '{' then
    match closeName pieces with
    | some (n :: name, rest) => .slot (String.ofList (n :: name)) :: rest
    | _ => .char c :: pieces
  else .char c :: pieces

/-- The pieces of a text given by its characters. -/
def scan (cs : List Char) : List Piece :=
  cs.foldr attach []

/-- The pieces of a text. -/
def pieces (text : String) : List Piece :=
  scan text.toList

/-- The characters that a piece was read from. -/
def Piece.chars : Piece → List Char
  | .char c => [c]
  | .slot name => '{' :: name.toList ++ ['}']

/-- What `closeName` found, put back together. -/
theorem flatMap_chars_of_closeName {pieces rest : List Piece} {name : List Char}
    (h : closeName pieces = some (name, rest)) :
    pieces.flatMap Piece.chars = name ++ '}' :: rest.flatMap Piece.chars := by
  induction pieces generalizing name with
  | nil => simp [closeName] at h
  | cons p ps ih =>
    cases p with
    | slot n => simp [closeName] at h
    | char c =>
      unfold closeName at h
      split at h
      · next hc =>
        obtain ⟨rfl, rfl⟩ := Prod.mk.inj (Option.some.inj h)
        rw [hc]
        rfl
      · split at h
        · obtain ⟨found, hfound, heq⟩ := Option.map_eq_some_iff.1 h
          obtain ⟨rfl, rfl⟩ := Prod.mk.inj heq
          rw [List.flatMap_cons, ih hfound]
          rfl
        · exact nomatch h

/-- Reading a character into pieces loses nothing. -/
theorem flatMap_chars_attach (c : Char) (pieces : List Piece) :
    (attach c pieces).flatMap Piece.chars = c :: pieces.flatMap Piece.chars := by
  unfold attach
  split
  · next hc =>
    split
    · next n name rest hclose =>
      rw [flatMap_chars_of_closeName hclose, hc, List.flatMap_cons]
      simp [Piece.chars]
    · rfl
  · rfl

/-- The pieces of a text hold all its characters. -/
theorem flatMap_chars_scan (cs : List Char) : (scan cs).flatMap Piece.chars = cs := by
  induction cs with
  | nil => rfl
  | cons c r ih =>
    rw [show scan (c :: r) = attach c (scan r) from rfl, flatMap_chars_attach, ih]

/-- The name, if the piece is a placeholder. -/
def Piece.name? : Piece → Option String
  | .char _ => none
  | .slot name => some name

/-- The placeholders of a text in order, each as often as it occurs. -/
def occurrences (text : String) : List String :=
  (pieces text).filterMap Piece.name?

/-- The names in a text, each once, in the order of their first occurrence. -/
def names (text : String) : List String :=
  (occurrences text).eraseDups

/-- The names in several texts, each once, in the order of their first
occurrence. -/
def namesIn (texts : List String) : List String :=
  (texts.flatMap occurrences).eraseDups

/-- The text holds a placeholder. -/
def occursIn (text : String) : Bool :=
  !(occurrences text).isEmpty

/-- The name, if the text is one placeholder and nothing else. -/
def only? (text : String) : Option String :=
  match pieces text with
  | [.slot name] => some name
  | _ => none

/-- Puts `f name` in place of every `{name}`. What `f` gives is not read
again. -/
def substitute (f : String → String) (text : String) : String :=
  String.ofList ((pieces text).flatMap fun
    | .char c => [c]
    | .slot name => (f name).toList)

/-- `substitute` for replacements that may fail: the first failure wins. -/
def substituteM {m : Type → Type} [Monad m] (f : String → m String)
    (text : String) : m String := do
  let parts ← (pieces text).mapM fun
    | .char c => pure [c]
    | .slot name => String.toList <$> f name
  pure (String.ofList parts.flatten)

end HttpInterface.Placeholder
