import HttpInterface.Format.Number
import HttpInterface.Number.Arithmetic
import HttpInterface.Object.Frozen

/-!
# `HttpInterface.Format.Percent`: texts with marks for values

A mark starts with `%`. It may name a value between parentheses, ask for signs and
filling, give a width and a precision, and ends with the letter of its form. The values
are those of a tuple in their order, a single one, or the values of the keys that the
marks name. The same marks may stand in bytes, where a text is no value.
-/

set_option autoImplicit false

namespace HttpInterface.Format

/-! ### Marks -/

/-- A mark for a value. -/
structure Mark where
  toLeft : Bool := false
  plus : Bool := false
  blank : Bool := false
  alternate : Bool := false
  zeros : Bool := false
  width : Option Nat := none
  precision : Option Nat := none
  form : Char
  deriving Repr

/-- The values that are still to be used: those of a tuple, or a single one that may have
been used. -/
inductive MarkValues where
  | several (rest : List TypeExpr)
  | single (value : TypeExpr) (isUsed : Bool)

/-- Takes the next value. -/
def MarkValues.next? : MarkValues → Except TypeExprError (TypeExpr × MarkValues)
  | .several (t :: rest) => .ok (t, .several rest)
  | .single t false => .ok (t, .single t true)
  | _ => .error (.raised "TypeError" "not enough arguments for format string")

/-- Some value is not used. -/
def MarkValues.isLeft : MarkValues → Bool
  | .several rest => !rest.isEmpty
  | .single _ isUsed => !isUsed

/-- What a mark says before its end. -/
def incompleteMark : TypeExprError := .raised "ValueError" "incomplete format"

/-- Takes the key in front of a closing parenthesis; `opened` counts those that are open. -/
def takeKey (opened : Nat) (taken : List Char) : List Char → Option (String × List Char)
  | [] => none
  | c :: rest =>
    if c = ')' && opened = 0 then some (String.ofList taken.reverse, rest)
    else
      let opened := if c = '(' then opened + 1 else if c = ')' then opened - 1 else opened
      takeKey opened (c :: taken) rest

/-- A number of a mark: its greatest value, its name, and how numbers of its size are
called. -/
structure Amount where
  greatest : Nat
  name : String
  sizeName : String

/-- The width of a mark. -/
def Amount.width : Amount := ⟨maxNumber, "width", "ssize_t"⟩

/-- The precision of a mark. -/
def Amount.precision (isBytes : Bool) : Amount :=
  ⟨maxPrecision, if isBytes then "prec" else "precision", "int"⟩

/-- The whole number that a star stands for. -/
def starNumber (amount : Amount) (t : TypeExpr) : Except TypeExprError Int :=
  match t.wholeNumber? with
  | some i =>
    if amount.greatest < i.natAbs then
      .error (.raised "OverflowError" s!"Python int too large to convert to C {amount.sizeName}")
    else .ok i
  | none => .error (.raised "TypeError" "* wants int")

/-- Takes a number from the front: digits, or a star for the next value. -/
def takeAmount (amount : Amount) (cs : List Char) (values : MarkValues) :
    Except TypeExprError (Option Int × List Char × MarkValues) := do
  match cs with
  | '*' :: rest =>
    let (t, values) ← values.next?
    pure (some (← starNumber amount t), rest, values)
  | cs =>
    let digits := cs.takeWhile Char.isDigit
    if digits.isEmpty then return (none, cs, values)
    let n := digits.foldl (fun n c => 10 * n + (c.toNat - '0'.toNat)) 0
    if amount.greatest < n then throw (.raised "ValueError" (amount.name ++ " too big"))
    pure (some n, cs.drop digits.length, values)

/-- Takes the rest of a mark, behind its key. -/
def takeMark (isBytes : Bool) (cs : List Char) (values : MarkValues) :
    Except TypeExprError (Mark × List Char × MarkValues) := do
  let isFlag (c : Char) : Bool := ['-', '+', ' ', '#', '0'].contains c
  let flags := cs.takeWhile isFlag
  let (width, rest, values) ← takeAmount .width (cs.dropWhile isFlag) values
  let (precision, rest, values) ← match rest with
    | '.' :: rest => do
      let (n, rest, values) ← takeAmount (.precision isBytes) rest values
      pure (some ((n.getD 0).toNat), rest, values)
    | rest => pure (none, rest, values)
  let rest := match rest with
    | c :: more => if ['h', 'l', 'L'].contains c then more else rest
    | [] => []
  match rest with
  | [] => throw incompleteMark
  | form :: rest =>
    let mark : Mark :=
      { toLeft := flags.contains '-' || width.any (· < 0)
        plus := flags.contains '+'
        blank := flags.contains ' '
        alternate := flags.contains '#'
        zeros := flags.contains '0'
        width := width.map Int.natAbs
        precision
        form }
    let room := max (mark.width.getD 0) (mark.precision.getD 0)
    if maxWidth < room && !(['s', 'r', 'a', 'b'].contains form) then
      throw (.raised "MemoryError" "")
    if maxWidth < mark.width.getD 0 then throw (.raised "MemoryError" "")
    pure (mark, rest, values)

/-! ### Values -/

/-- Characters in the width of a mark. A number has a sign, which stands in front of zeros
that fill the width; `base` says that two characters tell the base of the number. -/
def Mark.fill (m : Mark) (isNumber base : Bool) (cs : List Char) : List Char :=
  let (sign, cs) : List Char × List Char :=
    match isNumber, cs with
    | true, '-' :: rest => (['-'], rest)
    | true, cs => (if m.plus then ['+'] else if m.blank then [' '] else [], cs)
    | false, cs => ([], cs)
  let (front, cs) := if base then (sign ++ cs.take 2, cs.drop 2) else (sign, cs)
  let missing := m.width.getD 0 - front.length - cs.length
  if m.toLeft then front ++ cs ++ List.replicate missing ' '
  else if isNumber && m.zeros then front ++ List.replicate missing '0' ++ cs
  else List.replicate missing ' ' ++ front ++ cs

/-- The whole number that a value is turned into for a form of whole numbers. -/
def wholeFor (isBytes : Bool) (form : Char) (t : TypeExpr) : Except TypeExprError Int := do
  let isBits := ['o', 'x', 'X'].contains form
  let demand := if isBits then "an integer" else "a real number"
  let shown := if isBytes && form = 'i' then 'd' else form
  let refused :=
    TypeExprError.raised "TypeError" s!"%{shown} format: {demand} is required, not {t.kindName}"
  match t.number? with
  | some (.whole i) => pure i
  | some (.real x) =>
    if isBits then throw refused
    if x.isNaN then throw (.raised "ValueError" "cannot convert float NaN to integer")
    if x.isInf then throw (.raised "OverflowError" "cannot convert float infinity to integer")
    pure (Number.truncated x)
  | _ => throw refused

/-- A whole number in a form. -/
def Mark.layWhole (m : Mark) (isBytes : Bool) (t : TypeExpr) :
    Except TypeExprError (List Char) := do
  let i ← wholeFor isBytes m.form t
  let base := baseOf m.form
  if base = 10 && !Text.isTellable i then throw .tooManyDigits
  let digits := Decimal.padZeros (m.precision.getD 0) (digitsIn base i.natAbs)
  let digits := if m.form = 'X' then digits.map Char.toUpper else digits
  let showsBase := m.alternate && base ≠ 10
  let body := if showsBase then '0' :: m.form :: digits else digits
  pure (m.fill true showsBase (if i < 0 then '-' :: body else body))

/-- A double in a form. -/
def Mark.layReal (m : Mark) (isBytes : Bool) (t : TypeExpr) :
    Except TypeExprError (List Char) := do
  let demand := if isBytes then "float argument required" else "must be real number"
  let refused := TypeExprError.raised "TypeError" s!"{demand}, not {t.kindName}"
  match t.number? with
  | some (.complex _ _) | none => throw refused
  | some n =>
    if n.exceedsFloat then
      throw (if isBytes then refused
        else .raised "OverflowError" "int too large to convert to float")
    let x := n.toFloat?.getD 0.0
    let text := magnitudeText (some m.form) (some (m.precision.getD 6)) m.alternate false x
    let text := if m.form.isUpper then text.map Char.toUpper else text
    let isNegative := Decimal.Binary.signBit x && !x.isNaN
    pure (m.fill true false (if isNegative then '-' :: text else text))

/-- The character that a value stands for. -/
def markedChar (isBytes : Bool) (t : TypeExpr) : Except TypeExprError (List Char) :=
  let refused : TypeExprError :=
    .raised "TypeError"
      (if isBytes then "%c requires an integer in range(256) or a single byte"
      else "%c requires int or char")
  match t, t.wholeNumber? with
  | .text s, _ => if !isBytes && s.length = 1 then .ok s.toList else .error refused
  | .constant (.bytes [b]), _ => if isBytes then .ok [Char.ofNat b.toNat] else .error refused
  | _, some i =>
    if isBytes then
      if 0 ≤ i && i < 256 then .ok [Char.ofNat i.toNat]
      else .error (.raised "OverflowError" "%c arg not in range(256)")
    else if 0 ≤ i && i < 0x110000 then .ok [Char.ofNat i.toNat]
    else .error (.raised "OverflowError" "%c arg not in range(0x110000)")
  | _, none => .error refused

/-- Bytes as characters of the same numbers. -/
def bytesAsChars (bs : Bytes) : List Char := bs.map fun b => Char.ofNat b.toNat

/-- The text that a value is turned into. -/
def markedText (isBytes : Bool) (form : Char) (t : TypeExpr) :
    Except TypeExprError (List Char) := do
  if !t.isTellable then throw .tooManyDigits
  if isBytes && (form = 's' || form = 'b') then
    match t.bytes? with
    | some bs => pure (bytesAsChars bs)
    | none =>
      throw (.raised "TypeError" ("%b requires a bytes-like object, or an object that " ++
        s!"implements __bytes__, not '{t.kindName}'"))
  else if form = 's' then pure t.plainText.toList
  else if form = 'a' || isBytes then pure (Text.asciiText t.valueText).toList
  else pure t.valueText.toList

/-- The forms of texts. -/
def textForms (isBytes : Bool) : List Char :=
  if isBytes then ['s', 'b', 'r', 'a'] else ['s', 'r', 'a']

/-- The text of a value for a mark at a position. -/
def Mark.lay (m : Mark) (isBytes : Bool) (position : Nat) (t : TypeExpr) :
    Except TypeExprError (List Char) := do
  if (textForms isBytes).contains m.form then
    let cs ← markedText isBytes m.form t
    pure (m.fill false false ((m.precision.map fun n => cs.take n).getD cs))
  else if ['d', 'i', 'u', 'o', 'x', 'X'].contains m.form then m.layWhole isBytes t
  else if ['e', 'E', 'f', 'F', 'g', 'G'].contains m.form then m.layReal isBytes t
  else if m.form = 'c' then do pure (m.fill false false (← markedChar isBytes t))
  else
    let code := m.form.toNat
    let shown := if 31 ≤ code && code ≤ 126 then m.form else '?'
    let number := String.ofList (Nat.toDigits 16 code)
    throw (.raised "ValueError"
      s!"unsupported format character '{shown}' (0x{number}) at index {position}")

/-! ### Texts -/

/-- A value whose parts can be asked for by keys or positions. For the marks in bytes, bytes
are no such value. -/
def isKeyed (isBytes : Bool) : TypeExpr → Bool
  | .dict _ _ | .list _ | .bare _ | .applied _ _ | .union _ | .bars _ | .literal _
  | .annotated _ _ => true
  | .constant (.bytes _) => !isBytes
  | .other thing => thing.kind = "range" || (thing.kind = "bytearray" && !isBytes)
  | _ => false

/-- The value of a key. -/
def keyedValue (isBytes : Bool) (key : String) : TypeExpr → Except TypeExprError TypeExpr
  | .dict keys values =>
    match (keys.zip values).find? fun e => e.1.same asKey with
    | some e => .ok e.2
    | none => .error (.missingKey asKey.valueText)
  | t => .error (.noPosition t.kindName asKey.kindName)
where
  /-- The key as a value. -/
  asKey : TypeExpr :=
    if isBytes then .constant (.bytes (key.toList.map fun c => UInt8.ofNat c.toNat))
    else .text key

/-- Characters with values in the place of their marks. `fuel` bounds the characters, and
`position` counts them. -/
def fillMarks (isBytes : Bool) (all : TypeExpr) (fuel position : Nat) (values : MarkValues)
    (cs : List Char) : Except TypeExprError (List Char × MarkValues) := do
  match fuel, cs with
  | 0, _ | _, [] => pure ([], values)
  | fuel + 1, '%' :: '%' :: rest =>
    let (others, values) ← fillMarks isBytes all fuel (position + 2) values rest
    pure ('%' :: others, values)
  | fuel + 1, '%' :: rest =>
    let (rest, values) ← match rest with
      | '(' :: inner => do
        if !isKeyed isBytes all then throw (.raised "TypeError" "format requires a mapping")
        match takeKey 0 [] inner with
        | none => throw (.raised "ValueError" "incomplete format key")
        | some (key, rest) => pure (rest, .single (← keyedValue isBytes key all) false)
      | rest => pure (rest, values)
    let (mark, rest, values) ← takeMark isBytes rest values
    let length := cs.length - rest.length
    let (t, values) ← values.next?
    let shown ← mark.lay isBytes (position + length - 1) t
    let (others, values) ← fillMarks isBytes all fuel (position + length) values rest
    pure (shown ++ others, values)
  | fuel + 1, c :: rest =>
    let (others, values) ← fillMarks isBytes all fuel (position + 1) values rest
    pure (c :: others, values)

/-- A text, or the characters of bytes, with values in the place of marks. -/
def percent (isBytes : Bool) (cs : List Char) (t : TypeExpr) :
    Except TypeExprError (List Char) := do
  let values : MarkValues := match t with
    | .tuple items => .several items
    | t => .single t false
  let (shown, values) ← fillMarks isBytes t (cs.length + 1) 0 values cs
  if values.isLeft && !isKeyed isBytes t then
    let kind := if isBytes then "bytes" else "string"
    throw (.raised "TypeError" s!"not all arguments converted during {kind} formatting")
  pure shown

end HttpInterface.Format
