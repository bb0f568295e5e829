import HttpInterface.Text.Blank
import HttpInterface.Text.Split

/-!
# `HttpInterface.Header`: a declared header

A header is declared as `Name: value`. It is cut at the first colon, and blanks
around the name and around the value do not count. A text without a colon, or
with nothing but blanks before it, declares no header.
-/

set_option autoImplicit false

namespace HttpInterface

/-- A header name with one value. -/
structure Header where
  name : String
  value : String
  deriving DecidableEq, Repr

namespace Header

/-- The name of the header that states how many bytes the body has. -/
def contentLength : String := "Content-Length"

/-- Reads a declared header. -/
def parse? (text : String) : Option Header :=
  match Text.cut ':' text.toList with
  | (_, none) => none
  | (front, some value) =>
    let name := Text.trim front
    if name.isEmpty then none
    else some ⟨String.ofList name, String.ofList (Text.trim value)⟩

end Header

end HttpInterface
