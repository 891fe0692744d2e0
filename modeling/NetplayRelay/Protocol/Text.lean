import Mathlib.Algebra.Ring.Int.Defs
import Mathlib.Algebra.Ring.Nat

/-!
# Descriptor text and its validation

Text travels as a list of Unicode scalar values. Lengths are in UTF-8 bytes, trimming uses
the Unicode `White_Space` set, letter case is ASCII only: the checks of
`descriptor_validation.rs` depend on each of the three.
-/

namespace NetplayRelay.Protocol

/-- A string of the relay: its Unicode scalar values in order. -/
abbrev Text := List Char

namespace Text

/-- Length in UTF-8 bytes. -/
def len (value : Text) : Nat := (value.map Char.utf8Size).sum

/-- The Unicode `White_Space` property, which `trim` strips. -/
def isWhitespace (c : Char) : Bool :=
  (0x09 ≤ c.val && c.val ≤ 0x0d) || c.val == 0x20 || c.val == 0x85 || c.val == 0xa0
    || c.val == 0x1680 || (0x2000 ≤ c.val && c.val ≤ 0x200a) || c.val == 0x2028
    || c.val == 0x2029 || c.val == 0x202f || c.val == 0x205f || c.val == 0x3000

/-- The Unicode general category `Cc`. -/
def isControl (c : Char) : Bool := c.val ≤ 0x1f || (0x7f ≤ c.val && c.val ≤ 0x9f)

/-- A hex digit in either case. -/
def isAsciiHexdigit (c : Char) : Bool :=
  c.isDigit || ('a' ≤ c && c ≤ 'f') || ('A' ≤ c && c ≤ 'F')

/-- Without blanks around it. -/
def trim (value : Text) : Text :=
  ((value.dropWhile isWhitespace).reverse.dropWhile isWhitespace).reverse

/-- ASCII letters in lower case. -/
def toAsciiLowercase (value : Text) : Text := value.map Char.toLower

/-- Equal but for the case of ASCII letters. -/
def eqIgnoreAsciiCase (left right : Text) : Bool :=
  left.toAsciiLowercase == right.toAsciiLowercase

end Text

/-- A descriptor field that failed its check, by its wire name. -/
structure SessionDescriptorError where
  field : String
deriving DecidableEq

/-- The longest id. -/
def idMaxLen : Nat := 96
/-- The length of a SHA-256 digest. -/
def sha256HexLen : Nat := 64

/-- The checks on a text. -/
def validateText (field : String) (value : Text) (maxLen : Nat) :
    Except SessionDescriptorError Unit :=
  if value.trim.isEmpty || value.len > maxLen || value != value.trim
    || value.any Text.isControl then
    .error ⟨field⟩
  else .ok ()

/-- The text begins with a drive. -/
def looksLikeWindowsDrivePath : Text → Bool
  | c :: ':' :: _ => c.isAlpha
  | _ => false

/-- Two dots in a row anywhere in the text. -/
def containsDotDot (value : Text) : Bool :=
  (value.zip value.tail).any fun pair => pair.1 == '.' && pair.2 == '.'

/-- The checks on an id: it is no path. -/
def validateId (field : String) (value : Text) : Except SessionDescriptorError Unit := do
  validateText field value idMaxLen
  if value.contains '/' || value.contains '\\' || containsDotDot value
      || looksLikeWindowsDrivePath value then
    .error ⟨field⟩
  else .ok ()

/-- The check on a digest. -/
def validateSha256 (field : String) (value : Text) : Except SessionDescriptorError Unit :=
  if value.len == sha256HexLen && value.all Text.isAsciiHexdigit then .ok () else .error ⟨field⟩

/-- The check on a digest that may be missing. -/
def validateOptionalSha256 (field : String) : Option Text → Except SessionDescriptorError Unit
  | some value => validateSha256 field value
  | none => .ok ()

end NetplayRelay.Protocol
