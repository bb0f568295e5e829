import HttpInterface.Charset.Utf8
import HttpInterface.Percent

/-!
# `HttpInterface.Url.Escape`: characters that a part of a URL may not hold

Each part of a URL has its own list of printable characters that it may not
hold. These, and all characters that are not printable ASCII, are
percent-encoded as UTF-8. `%` is in none of the lists, so escapes that are there
already are left alone.
-/

set_option autoImplicit false

namespace HttpInterface

namespace Url

/-- A printable ASCII character, the space included. -/
def isPrintableAscii (c : Char) : Bool :=
  0x20 ≤ c.toNat && c.toNat < 0x7F

/-- The characters that a query may not hold. -/
def unsafeInQuery : List Char := [' ', '"', '#', '<', '>']

/-- The characters that a path may not hold. -/
def unsafeInPath : List Char := unsafeInQuery ++ ['?', '\x60', '\x7b', '\x7d']

/-- The characters that a fragment may not hold. -/
def unsafeInFragment : List Char := [' ', '"', '<', '>', '\x60']

/-- The characters that a user part may not hold. -/
def unsafeInUserinfo : List Char :=
  unsafeInPath ++ ['/', ';', '=', '@', '[', '\\', ']', '^', '|']

/-- The characters that a host may not hold. -/
def unsafeInHost : List Char :=
  [' ', '#', '/', ':', '<', '>', '?', '@', '[', ']', '^']

/-- One character of a part. -/
def escapeChar (forbidden : List Char) (c : Char) : List Char :=
  if isPrintableAscii c ∧ c ∉ forbidden then [c]
  else (Charset.Utf8.encode [c]).flatMap Percent.escape

/-- A part with every character encoded that it may not hold. -/
def escape (forbidden : List Char) (cs : List Char) : List Char :=
  cs.flatMap (escapeChar forbidden)

end Url

end HttpInterface
