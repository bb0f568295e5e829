import HttpInterface.Expression
import HttpInterface.Expression.Literal

/-!
# `HttpInterface.Expression.Formatted`: texts with gaps

In a formatted text an expression between braces stands for its value. Behind the
expression may stand `=`, which writes the expression itself in front of its value, a
mark that says how the value is turned into a text, and a layout behind a colon. A
layout may have gaps of its own, and the layouts of these have none. A brace that is
written twice stands for itself, except in a layout.
-/

set_option autoImplicit false

namespace HttpInterface.Expression

/-- A piece of a formatted text, where layouts are given in some way. -/
inductive FormatPiece (layout : Type) where
  | text (s : String)
  /-- The text of an expression, the form of its value, and its layout. -/
  | gap (source : String) (form : Option TextForm) (layout : Option layout)
  deriving DecidableEq

/-- The pieces of a layout, whose gaps have layouts without gaps. -/
abbrev LayoutPieces := List (FormatPiece String)

/-- The pieces of a formatted text. -/
abbrev FormatPieces := List (FormatPiece LayoutPieces)

/-- The characters that close and open brackets in the text of an expression. -/
def closes (opening closing : Char) : Bool :=
  (opening, closing) ∈ [('(', ')'), ('[', ']'), ('\x7b', '\x7d')]

/-- Takes the text between braces up to the next brace that stands alone. At the `top`
a brace that is written twice stands for itself. `raw` says that backslashes do. The
rest starts with a brace, unless the text ends. -/
def takeText? (raw top : Bool) : List Char → Option (List Char × List Char)
  | [] => some ([], [])
  | '\\' :: 'N' :: '\x7b' :: rest =>
    if raw then
      if top && rest.head? = some '\x7b' then
        (takeText? raw top rest.tail).map fun (cs, r) => ('\\' :: 'N' :: '\x7b' :: cs, r)
      else some (['\\', 'N'], '\x7b' :: rest)
    else (takeName rest).map fun (cs, r) => ('\\' :: 'N' :: '\x7b' :: cs, r)
  | '\\' :: c :: rest =>
    if raw then (takeText? raw top (c :: rest)).map fun (cs, r) => ('\\' :: cs, r)
    else if c = '\x7b' || c = '\x7d' then
      -- The backslash stands for itself in front of a brace.
      (takeText? raw top (c :: rest)).map fun (cs, r) => ('\\' :: '\\' :: cs, r)
    else (takeText? raw top rest).map fun (cs, r) => ('\\' :: c :: cs, r)
  | c :: rest =>
    if c = '\x7b' || c = '\x7d' then
      if top && rest.head? = some c then
        (takeText? raw top rest.tail).map fun (cs, r) => (c :: cs, r)
      else if top && c = '\x7d' then none
      else some ([], c :: rest)
    else (takeText? raw top rest).map fun (cs, r) => (c :: cs, r)
termination_by cs => cs.length
decreasing_by
  all_goals
    simp only [List.length_cons, List.length_tail]
    omega
where
  /-- The name of a character up to its brace, and the text behind. -/
  takeName : List Char → Option (List Char × List Char)
    | [] => some ([], [])
    | '\x7d' :: rest => (takeText? raw top rest).map fun (cs, r) => ('\x7d' :: cs, r)
    | c :: rest => (takeName rest).map fun (cs, r) => (c :: cs, r)
  termination_by cs => cs.length
  decreasing_by
    all_goals
      simp only [List.length_cons]
      omega

/-- Takes the text of an expression up to what follows it; `opened` are the brackets
that are open, and `quote` the quote that is to be closed, with its length. -/
def takeSource? (opened : List Char) (quote : Option (Char × Nat)) :
    List Char → Option (List Char × List Char)
  | [] => none
  | c :: rest =>
    let more (opened : List Char) (quote : Option (Char × Nat)) (count : Nat) :
        Option (List Char × List Char) :=
      let taken := rest.take count
      (takeSource? opened quote (rest.drop count)).map fun (cs, r) => (c :: taken ++ cs, r)
    if c = '\\' then none
    else
      match quote with
      | some (q, length) =>
        if c = q && (length = 1 || [q, q].isPrefixOf rest) then more opened none (length - 1)
        else more opened quote 0
      | none =>
        if c = '\'' || c = '"' then
          if [c, c].isPrefixOf rest then more opened (some (c, 3)) 2
          else more opened (some (c, 1)) 0
        else if c = '(' || c = '[' || c = '\x7b' then more (c :: opened) none 0
        else if c = '#' then none
        else if opened.isEmpty && (c = '!' || c = '=' || c = '<' || c = '>') &&
            rest.head? = some '=' then more opened none 1
        else if opened.isEmpty && (c = '!' || c = ':' || c = '\x7d' || c = '=') then
          some ([], c :: rest)
        else if c = ')' || c = ']' || c = '\x7d' then
          match opened with
          | last :: outer => if closes last c then more outer none 0 else none
          | [] => none
        else more opened none 0
termination_by cs => cs.length
decreasing_by
  simp only [List.length_cons, List.length_drop]
  omega

/-- The forms of values by their marks. -/
def textForms : List (Char × TextForm) :=
  [('s', .plain), ('r', .shown), ('a', .ascii)]

/-- Takes the mark of the form behind an expression, if there is one. -/
def takeForm? : List Char → Option (Option TextForm × List Char)
  | '!' :: c :: rest =>
    match textForms.lookup c with
    | some form =>
      if rest.head? = some ':' || rest.head? = some '\x7d' then some (some form, rest) else none
    | none => none
  | rest => some (none, rest)

/-- A blank that a number of characters may start with. -/
def isGapBlank (c : Char) : Bool :=
  c == ' ' || c == '\t' || c == '\n' || c == '\x0c'

/-- Reads a gap behind its opening brace. `readLayout` reads a layout. -/
def readGap? {α : Type} (readLayout : List Char → Option (α × List Char)) (cs : List Char) :
    Option (List (FormatPiece α) × List Char) := do
  let (source, rest) ← takeSource? [] none cs
  if source.all isGapBlank then none
  else
    let (written, rest) := match rest with
      | '=' :: behind =>
        let isSpace (c : Char) : Bool := isGapBlank c || c == '\x0b' || c == '\r'
        (source ++ '=' :: behind.takeWhile isSpace, behind.dropWhile isSpace)
      | rest => ([], rest)
    let (form, rest) ← takeForm? rest
    let (layout, rest) ← match rest with
      | ':' :: rest => (readLayout rest).map fun (layout, r) => (some layout, r)
      | rest => some (none, rest)
    let form := if !written.isEmpty && form.isNone && layout.isNone then some .shown else form
    match rest with
    | '\x7d' :: rest =>
      let shown := if written.isEmpty then [] else [FormatPiece.text (String.ofList written)]
      some (shown ++ [.gap (String.ofList source) form layout], rest)
    | _ => none

/-- Reads pieces up to the end, or up to the brace that ends a layout. `fuel` bounds
their number. -/
def readPieces? {α : Type} (raw top : Bool)
    (readGap : List Char → Option (List (FormatPiece α) × List Char)) (fuel : Nat)
    (cs : List Char) : Option (List (FormatPiece α) × List Char) :=
  match fuel with
  | 0 => none
  | fuel + 1 => do
    let (chars, rest) ← takeText? raw top cs
    let chars ← if raw then some chars else unescape? false chars
    let front := if chars.isEmpty then [] else [FormatPiece.text (String.ofList chars)]
    match rest with
    | '\x7b' :: rest => do
      let (made, rest) ← readGap rest
      let (pieces, rest) ← readPieces? raw top readGap fuel rest
      some (front ++ made ++ pieces, rest)
    | rest => some (front, rest)

/-- The text of pieces that are no gaps. -/
def plainText? (pieces : List (FormatPiece Empty)) : String :=
  String.join (pieces.map fun
    | .text s => s
    | .gap _ _ _ => "")

/-- The pieces of a formatted text between its quotes. -/
def formatPieces? (raw : Bool) (body : List Char) : Option FormatPieces := do
  let fuel := body.length + 1
  let noGap (_ : List Char) : Option (List (FormatPiece Empty) × List Char) := none
  let innermost (cs : List Char) : Option (String × List Char) :=
    (readPieces? raw false noGap fuel cs).map fun (pieces, r) => (plainText? pieces, r)
  let layout (cs : List Char) : Option (LayoutPieces × List Char) :=
    readPieces? raw false (readGap? innermost) fuel cs
  match ← readPieces? raw true (readGap? layout) fuel body with
  | (pieces, []) => some pieces
  | _ => none

end HttpInterface.Expression
