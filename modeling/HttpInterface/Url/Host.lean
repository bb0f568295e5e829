import HttpInterface.Text.Digit
import HttpInterface.Text.Split
import HttpInterface.Url.Escape

/-!
# `HttpInterface.Url.Host`: the host of a URL and its normal form

A host is a name, an IPv4 address or an IPv6 address between brackets. What is
written like an address has to be one; a name is put into lower case and
escaped. Addresses are kept as they are written, so two spellings of one address
stay different.

An IPv6 address has eight groups of hexadecimal digits, the last two of which
may be written as an IPv4 address. `::` stands for one group of zeros or more,
once. A zone may follow behind a `%`.

A name outside ASCII is escaped like any other (`normalHost`). To write it in ASCII by IDNA, or to
refuse it where that cannot be done, is left out.
-/

set_option autoImplicit false

namespace HttpInterface

namespace Url

/-- Why a host is no host. -/
inductive HostError where
  /-- Four numbers that are no IPv4 address. -/
  | invalidIpv4
  /-- Brackets around something that is no IPv6 address. -/
  | invalidIpv6
  deriving DecidableEq, Repr

/-! ### IPv4 addresses -/

/-- Four runs of digits with points between them. -/
def looksLikeIpv4 (cs : List Char) : Bool :=
  let parts := Text.splitOn '.' cs
  parts.length == 4 && parts.all fun part => !part.isEmpty && part.all Char.isDigit

/-- A number from 0 to 255 without needless zeros. -/
def isOctet (cs : List Char) : Bool :=
  !cs.isEmpty && cs.length ≤ 3 && cs.all Char.isDigit &&
    (cs.length == 1 || cs.head? != some '0') &&
    ((Text.naturalValue? cs).any (· ≤ 255))

/-- Four octets with points between them. -/
def isIpv4 (cs : List Char) : Bool :=
  let parts := Text.splitOn '.' cs
  parts.length == 4 && parts.all isOctet

/-! ### IPv6 addresses -/

/-- How many groups an IPv6 address has. -/
def groupCount : Nat := 8

/-- One to four hexadecimal digits. -/
def isGroup (cs : List Char) : Bool :=
  !cs.isEmpty && cs.length ≤ 4 && cs.all fun c => (Text.hexDigit? c).isSome

/-- The groups of an address, where an IPv4 address at the end counts for two. -/
def expandLast (parts : List (List Char)) : Option (List (List Char)) :=
  match parts.getLast? with
  | some last =>
    if '.' ∈ last then
      if isIpv4 last then some (parts.dropLast ++ [['0'], ['0']]) else none
    else some parts
  | none => none

/-- The groups on one side of `::`. The side that ends the address may be empty,
which leaves a single empty part there. -/
def isSide (side : List (List Char)) : Bool :=
  side == [[]] || side.all isGroup

/-- The groups that a side counts for. -/
def sideCount (side : List (List Char)) : Nat :=
  if side == [[]] then 0 else side.length

/-- The parts between the colons of an IPv6 address make up one. An empty part
that is neither first nor last stands for `::`. -/
def areIpv6Parts (parts : List (List Char)) : Bool :=
  let inner := (parts.drop 1).dropLast
  if [] ∈ inner then
    let front := parts.take (1 + (inner.takeWhile (· ≠ [])).length)
    let back := parts.drop (front.length + 1)
    isSide front && isSide back && sideCount front + sideCount back < groupCount
  else parts.length == groupCount && parts.all isGroup

/-- A zone behind an address: not empty, and without another `%`. -/
def isZone : Option (List Char) → Bool
  | none => true
  | some zone => !zone.isEmpty && '%' ∉ zone

/-- An IPv6 address, with or without a zone. -/
def isIpv6 (cs : List Char) : Bool :=
  let (address, zone) := Text.cut '%' cs
  let parts := Text.splitOn ':' address
  '/' ∉ cs && isZone zone && 3 ≤ parts.length && (expandLast parts).any areIpv6Parts

/-! ### The normal form -/

/-- What stands between brackets. -/
def bracketed? : List Char → Option (List Char)
  | '[' :: rest => if rest.getLast? = some ']' then some rest.dropLast else none
  | _ => none

/-- The normal form of a host. Brackets are left out. -/
def normalHost (cs : List Char) : Except HostError (List Char) :=
  if looksLikeIpv4 cs then
    if isIpv4 cs then .ok cs else .error .invalidIpv4
  else
    match bracketed? cs with
    | some address => if isIpv6 address then .ok address else .error .invalidIpv6
    | none => .ok (escape unsafeInHost (cs.map Char.toLower))

end Url

end HttpInterface
