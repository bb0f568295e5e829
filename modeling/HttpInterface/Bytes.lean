/-!
# `HttpInterface.Bytes`: bodies as they travel

A body is a list of bytes.
-/

set_option autoImplicit false

namespace HttpInterface

/-- The bytes of a body, first byte first. -/
abbrev Bytes := List UInt8

/-- What a decoder writes where the bytes say nothing: U+FFFD. -/
def replacementChar : Char := '\uFFFD'

end HttpInterface
