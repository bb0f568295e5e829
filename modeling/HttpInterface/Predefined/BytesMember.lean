import HttpInterface.Format.Percent
import HttpInterface.Predefined.TextMember

/-!
# `HttpInterface.Predefined.BytesMember`: what the members of bytes do

Bytes have most of the members that texts have. Of their case and their sorts only the
characters of ASCII count, and a part of them may be given by the number of one byte.
-/

set_option autoImplicit false

namespace HttpInterface.Predefined

open Evaluation

/-- How a member of bytes takes its arguments. -/
def bytesCalling (name : String) : Calling :=
  match name with
  | "decode" => .named 0 2 ["encoding", "errors"]
  | "hex" => .named 0 2 ["sep", "bytes_per_sep"]
  | "translate" => .named 1 2 ["", "delete"]
  | "fromhex" => .one
  | "maketrans" => .positional 2 2
  | "append" | "extend" | "remove" => .one
  | "insert" => .positional 2 2
  | "pop" => .positional 0 1
  | "clear" | "copy" | "reverse" => .nothing
  | name => textCalling name

/-- Bytes as a text in which no byte beyond ASCII is a letter. -/
def bytesAsText (bs : Bytes) : String :=
  String.ofList (bs.map fun b => Char.ofNat (if b < 0x80 then b.toNat else 0xE000 + b.toNat))

/-- The bytes of a text that was made of some. -/
def textAsBytes (s : String) : Bytes :=
  s.toList.map fun c => UInt8.ofNat (c.toNat % 0x100)

/-- A byte is a blank. -/
def isBlankByte (b : UInt8) : Bool := b == 0x20 || (0x09 ≤ b && b ≤ 0x0D)

/-- The sorts of bytes that a member asks for. -/
def bytesTest? (name : String) (bs : Bytes) : Option Bool :=
  if name = "isspace" then some (!bs.isEmpty && bs.all isBlankByte)
  else if name = "isascii" then some (bs.all (· < 0x80))
  else if ["isdecimal", "isidentifier", "isnumeric", "isprintable"].contains name then none
  else (textTests.lookup name).map fun test => test (bytesAsText bs)

/-- The bytes that a member makes of others. -/
def bytesChange? (name : String) (bs : Bytes) : Option Bytes :=
  if name = "casefold" then none
  else (textChanges.lookup name).map fun change => textAsBytes (change (bytesAsText bs))

/-- The bytes that a part is: some, or the one of a number. -/
def demandPart (o : Object) : Evaluation Bytes := do
  match ← bytesOf? o, o.int? with
  | some bs, _ => pure bs
  | none, some i =>
    if 0 ≤ i && i < 256 then pure [UInt8.ofNat i.toNat]
    else valueError "byte must be in range(0, 256)"
  | none, none =>
    typeError s!"argument should be integer or bytes-like object, not '{← kindName o}'"

/-- The bytes that numbers are. -/
def bytesOfNumbers (rangeMessage : String) (items : List Object) : Evaluation Bytes :=
  items.mapM fun o => do
    let i ← demandInt o
    if 0 ≤ i && i < 256 then pure (UInt8.ofNat i.toNat) else valueError rangeMessage

/-- The byte that fills bytes up. -/
def fillerByte (name : String) (o : Option Object) : Evaluation UInt8 := do
  match o with
  | none => pure 0x20
  | some o =>
    match ← bytesOf? o with
    | some [b] => pure b
    | _ =>
      typeError s!"{name}() argument 2 must be a byte string of length 1, not {← kindName o}"

/-! ### Text -/

/-- The text of bytes in a charset. -/
def decodeBytes (bs : Bytes) (name errors : String) : Evaluation Object := do
  if bs.isEmpty then return .text ""
  let found ← ofCodingResult (Charset.lookUp name)
  let _ ← ofCodingResult (found.decodeAs name [])
  let (charset, skipped) := found.withoutMark bs
  let rest := bs.drop skipped
  match charset.gap? rest with
  | none => pure (ofChars (← ofCodingResult (charset.decodeAs name rest)))
  | some gap =>
    let r ← recoveryNamed "decoding" name errors
    if r = .strict then
      let (gap, shown) := if found = .utf8Marked then (gap, rest) else (gap.shift skipped, bs)
      raise "UnicodeDecodeError" (gap.message charset.gapLabel shown)
    if (r.forBytes? []).isNone then
      codingFailure "decoding" name "TypeError"
        "don't know how to handle UnicodeDecodeError in error callback"
    pure (ofChars (r.decode charset (rest.length + 1) rest))

/-! ### Hexadecimal digits -/

/-- Bytes written as pairs of hexadecimal digits. A separator stands between groups of a
size, which are counted from the end, or from the start if the size is negative. -/
def hexText (separator : Option Char) (size : Int) (bs : Bytes) : String :=
  let pairs := bs.map fun b => Text.lowerHex 2 b.toNat
  let count := pairs.length
  let isBreak (i : Nat) : Bool :=
    i != 0 && size != 0 &&
      (if 0 < size then ((count - i : Nat) : Int) % size == 0 else (i : Int) % size == 0)
  String.ofList (pairs.zipIdx.flatMap fun (pair, i) =>
    (if isBreak i then separator.toList else []) ++ pair)

/-- The character that an object puts between groups of digits. -/
def separatorOf (o : Object) : Evaluation Char := do
  let given := (o.text?.map String.toList).or (o.bytes?.map Format.bytesAsChars)
  match given with
  | some (c :: _) => if c.toNat < 0x80 then pure c else valueError "sep must be ASCII."
  | _ => typeError "sep must be str or bytes."

/-- The bytes of pairs of hexadecimal digits; blanks may stand between the pairs. -/
def readHex (position : Nat) : List Char → Evaluation Bytes
  | [] => pure []
  | c :: rest =>
    if c == ' ' || (0x09 ≤ c.toNat && c.toNat ≤ 0x0D) then readHex (position + 1) rest
    else
      match Text.hexDigit? c, rest with
      | none, _ => wrong position
      | some _, [] => wrong (position + 1)
      | some high, d :: more =>
        match Text.hexDigit? d with
        | none => wrong (position + 1)
        | some low => do
          pure (UInt8.ofNat (high * 16 + low) :: (← readHex (position + 2) more))
where
  wrong (position : Nat) : Evaluation Bytes :=
    valueError s!"non-hexadecimal number found in fromhex() arg at position {position}"

/-! ### Members -/

/-- Bytes, fixed or not. -/
def ofBytes (isFixed : Bool) (bs : Bytes) : Evaluation Object :=
  if isFixed then pure (.bytes bs) else make (.byteArray bs)

/-- The pieces of bytes as a list. -/
def byteList (isFixed : Bool) (pieces : List Bytes) : Evaluation Object := do
  makeList (← pieces.mapM (ofBytes isFixed))

/-- A member of bytes that searches or cuts them, if it is one. -/
def searchBytes? (isFixed : Bool) (bs : Bytes) (name : String) (args : List (Option Object)) :
    Evaluation (Option Object) := do
  let first := argument args 0
  let found (o : Object) : Evaluation (Option Object) := pure (some o)
  let split (fromEnd : Bool) : Evaluation (Option Object) := do
    let limit := limitOf (← countOr (-1) (argument? args 1))
    if first.isNone then
      let words := if fromEnd then Sequence.wordsFromEnd else Sequence.words
      some <$> byteList isFixed (words isBlankByte limit bs)
    else
      let part ← demandBytes first
      if part.isEmpty then valueError "empty separator"
      let cut := if fromEnd then Sequence.splitByLast else Sequence.splitBy
      some <$> byteList isFixed (cut part limit bs)
  let partition (fromEnd : Bool) : Evaluation (Option Object) := do
    let part ← demandBytes first
    if part.isEmpty then valueError "empty separator"
    let cut := if fromEnd then Sequence.cutLast? else Sequence.cut?
    let parts := match cut part bs with
      | some (front, back) => [front, part, back]
      | none => if fromEnd then [[], [], bs] else [bs, [], []]
    found (.tuple (← parts.mapM (ofBytes isFixed)))
  match name with
  | "count" =>
    let start ← boundAt args 1
    let stop ← boundAt args 2
    found (.int (Sequence.count (← demandPart first) bs start stop))
  | "find" | "index" | "rfind" | "rindex" =>
    let start ← boundAt args 1
    let stop ← boundAt args 2
    match Sequence.find? (name.startsWith "r") (← demandPart first) bs start stop with
    | some i => found (.int i)
    | none => if name.endsWith "index" then valueError "subsection not found" else found (.int (-1))
  | "startswith" | "endswith" =>
    let start ← boundAt args 1
    let stop ← boundAt args 2
    let touches (o : Object) : Evaluation Bool := do
      match ← bytesOf? o with
      | some part => pure (Sequence.touches (name == "endswith") part bs start stop)
      | none =>
        typeError (s!"{name} first arg must be bytes or a tuple of bytes, not " ++
          s!"{← kindName o}")
    match first with
    | .tuple parts => found (.bool (← parts.anyM touches))
    | o => found (.bool (← touches o))
  | "split" => split false
  | "rsplit" => split true
  | "partition" => partition false
  | "rpartition" => partition true
  | _ => pure none

/-- What a member of bytes makes of bytes and its arguments. -/
def callBytes (engine : Engine) (isFixed : Bool) (bs : Bytes) (name : String)
    (args : List (Option Object)) : Evaluation Object := do
  if let some changed := bytesChange? name bs then return ← ofBytes isFixed changed
  if let some holds := bytesTest? name bs then return .bool holds
  if let some found ← searchBytes? isFixed bs name args then return found
  let first := argument args 0
  let justify (alignment : Sequence.Alignment) : Evaluation Object := do
    let width ← demandCount first
    let filler ← fillerByte name (argument? args 1)
    if maxElements < width.toNat then raise "MemoryError" ""
    ofBytes isFixed (Sequence.justify alignment filler width.toNat bs)
  match name with
  | "decode" =>
    let named (i : Nat) (parameter usual : String) : Evaluation String :=
      match argument? args i with
      | some o => demandTextAt s!"decode() argument '{parameter}'" o
      | none => pure usual
    decodeBytes bs (← named 0 "encoding" "utf-8") (← named 1 "errors" "strict")
  | "hex" =>
    let size ← countOr 1 (argument? args 1)
    let separator ← (argument? args 0).mapM fun o => do
      match ← lengthOf o with
      | .fixed (.constant (.int 1)) => separatorOf o
      | _ => valueError "sep must be length 1."
    pure (.text (hexText separator size bs))
  | "join" =>
    match ← elements? engine first with
    | none => typeError "can only join an iterable"
    | some items =>
      let pieces ← items.zipIdx.mapM fun (o, i) => do
        match ← bytesOf? o with
        | some piece => pure piece
        | none =>
          typeError s!"sequence item {i}: expected a bytes-like object, {← kindName o} found"
      ofBytes isFixed (Sequence.joinWith bs pieces)
  | "replace" =>
    let old ← demandBytes first
    let new ← demandBytes (argument args 1)
    let limit := limitOf (← countOr (-1) (argument? args 2))
    ofBytes isFixed (Sequence.replaceBy old new limit bs)
  | "center" => justify .center
  | "ljust" => justify .left
  | "rjust" => justify .right
  | "zfill" =>
    let width ← demandCount first
    if maxElements < width.toNat then raise "MemoryError" ""
    ofBytes isFixed (textAsBytes (String.ofList (fillZeros width.toNat (bytesAsText bs).toList)))
  | "expandtabs" =>
    let size ← countOr 8 (argument? args 0)
    let endsLine (b : UInt8) : Bool := b == 0x0A || b == 0x0D
    ofBytes isFixed (Sequence.expandTabs 0x09 0x20 endsLine size.toNat 0 bs)
  | "strip" | "lstrip" | "rstrip" =>
    let drops ← if first.isNone then pure isBlankByte else do
      let dropped ← demandBytes first
      pure dropped.contains
    ofBytes isFixed (Sequence.strip (name != "rstrip") (name != "lstrip") drops bs)
  | "splitlines" =>
    let isEnd (b : UInt8) : Bool := b == 0x0A || b == 0x0D
    let isPair (b c : UInt8) : Bool := b == 0x0D && c == 0x0A
    byteList isFixed (Sequence.linesFrom isEnd isPair (← flagAt args 0) [] bs)
  | "removeprefix" =>
    let part ← demandBytes first
    ofBytes isFixed (if part.isPrefixOf bs then bs.drop part.length else bs)
  | "removesuffix" =>
    let part ← demandBytes first
    ofBytes isFixed (if part.isSuffixOf bs then bs.take (bs.length - part.length) else bs)
  | "translate" =>
    let table? ← if first.isNone then pure none else some <$> demandBytes first
    if table?.any fun table => table.length ≠ 256 then
      valueError "translation table must be 256 characters long"
    let removed ← match argument? args 1 with
      | some o => demandBytes o
      | none => pure []
    let kept := bs.filter fun b => !removed.contains b
    ofBytes isFixed (kept.map fun b => (table?.map fun table => table.getD b.toNat b).getD b)
  | "maketrans" =>
    let froms ← demandBytes first
    let tos ← demandBytes (argument args 1)
    if froms.length ≠ tos.length then valueError "maketrans arguments must have same length"
    let moved := (froms.zip tos).reverse
    pure (.bytes ((List.range 256).map fun i =>
      (moved.lookup (UInt8.ofNat i)).getD (UInt8.ofNat i)))
  | "fromhex" =>
    let s ← demandTextAt "fromhex() argument" first
    ofBytes isFixed (← readHex 0 s.toList)
  | "__getnewargs__" => pure (.tuple [.bytes bs])
  | "__bytes__" => pure (.bytes bs)
  | "copy" => ofBytes isFixed bs
  | _ => throw (.noMember (if isFixed then "bytes" else "bytearray") name)

/-- The number of a byte. -/
def demandByte (o : Object) : Evaluation UInt8 := do
  let i ← demandInt o
  if 0 ≤ i && i < 256 then pure (UInt8.ofNat i.toNat)
  else valueError "byte must be in range(0, 256)"

/-- What a member of bytes that can change does, if it changes them. -/
def changeByteArray? (engine : Engine) (place : Nat) (bs : Bytes) (name : String)
    (args : List (Option Object)) : Evaluation (Option Object) := do
  let keep (bs : Bytes) : Evaluation (Option Object) := do
    write place (.byteArray bs)
    pure (some .none)
  let first := argument args 0
  match name with
  | "append" => do keep (bs ++ [← demandByte first])
  | "extend" => do
    let more ← match ← bytesOf? first with
      | some more => pure more
      | none => bytesOfNumbers "byte must be in range(0, 256)" (← elements engine first)
    keep (bs ++ more)
  | "clear" => keep []
  | "reverse" => keep bs.reverse
  | "insert" => do
    let i := (← demandCount first)
    let b ← demandByte (argument args 1)
    let place := min bs.length (Sequence.clamp bs.length i)
    keep (bs.take place ++ b :: bs.drop place)
  | "remove" => do
    let b ← demandByte first
    if !bs.contains b then valueError "value not found in bytearray"
    keep (bs.erase b)
  | "pop" => do
    if bs.isEmpty then raise "IndexError" "pop from empty bytearray"
    match Sequence.place? bs.length (← countOr (-1) (argument? args 0)) with
    | some i =>
      write place (.byteArray (bs.eraseIdx i))
      pure (some (.int (bs.getD i 0).toNat))
    | none => raise "IndexError" "pop index out of range"
  | _ => pure none

end HttpInterface.Predefined
