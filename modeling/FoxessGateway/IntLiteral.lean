import FoxessGateway.Python

/-! # Integer literals

`int(text)` of a text: blanks around it, a sign, and decimal digits of any script with single
underscores between them. -/

namespace FoxessGateway

/-- The zeros of the scripts that have decimal digits of their own. -/
def decimalZeros : List Nat :=
  [0x0030, 0x0660, 0x06F0, 0x07C0, 0x0966, 0x09E6, 0x0A66, 0x0AE6, 0x0B66, 0x0BE6, 0x0C66, 0x0CE6,
    0x0D66, 0x0DE6, 0x0E50, 0x0ED0, 0x0F20, 0x1040, 0x1090, 0x17E0, 0x1810, 0x1946, 0x19D0, 0x1A80,
    0x1A90, 0x1B50, 0x1BB0, 0x1C40, 0x1C50, 0xA620, 0xA8D0, 0xA900, 0xA9D0, 0xA9F0, 0xAA50, 0xABF0,
    0xFF10, 0x104A0, 0x10D30, 0x11066, 0x110F0, 0x11136, 0x111D0, 0x112F0, 0x11450, 0x114D0,
    0x11650, 0x116C0, 0x11730, 0x118E0, 0x11950, 0x11C50, 0x11D50, 0x11DA0, 0x16A60, 0x16AC0,
    0x16B50, 0x1D7CE, 0x1D7D8, 0x1D7E2, 0x1D7EC, 0x1D7F6, 0x1E140, 0x1E2F0, 0x1E950, 0x1FBF0]

/-- The value of a decimal digit. -/
def decimalDigit (char : Char) : Option Nat :=
  (decimalZeros.find? fun first => first ≤ char.toNat ∧ char.toNat < first + 10).map fun first =>
    char.toNat - first

/-- The digits, with an underscore between two digits left out; `inside` says that a digit has just
been read. -/
def literalDigits (inside : Bool) : Text → Option (List Nat)
  | [] => if inside then some [] else none
  | char :: text =>
    if char = '_' then if inside then literalDigits false text else none
    else
      match decimalDigit char with
      | none => none
      | some digit => (literalDigits true text).map (digit :: ·)

/-- The value of a literal without its sign. -/
def unsignedLiteral (text : Text) : Option Nat :=
  match literalDigits false text with
  | none => none
  | some digits =>
    if digits.length > 4300 then none
    else some (digits.foldl (fun value digit => 10 * value + digit) 0)

/-- `int(text)`, where `none` is a `ValueError`. -/
def intLiteral (text : Text) : Option Int :=
  match strip text with
  | '-' :: digits => (unsignedLiteral digits).map fun value => -(value : Int)
  | '+' :: digits => (unsignedLiteral digits).map fun value => (value : Int)
  | digits => (unsignedLiteral digits).map fun value => (value : Int)

example : intLiteral " -1_0\n".toList = some (-10) := by decide

end FoxessGateway
