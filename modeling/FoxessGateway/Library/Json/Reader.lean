import FoxessGateway.Library.Json.Value

/-! # Reading JSON texts

A decoder that goes through a text once.  An error says where it was found, as the number of
characters that were left.  A lone surrogate, which no text of characters holds, is read as the
replacement character; a numeral is kept as it is written. -/

namespace JsonText

inductive Fault where
  | unreadable (message : String) (left : Nat)
  /-- An array or an object is nested too deep. -/
  | recursion (what : String)
  /-- A whole number has too many digits. -/
  | digits (count : Nat)
  deriving DecidableEq, Repr

abbrev Reader (α : Type) := List Char → Except Fault (α × List Char)

/-- What `str` says about an error in that text. -/
def Fault.message (text : List Char) : Fault → String
  | .unreadable message left =>
    let before := text.take (text.length - left)
    let line := before.count '\n' + 1
    let column := (before.reverse.takeWhile (· ≠ '\n')).length + 1
    s!"{message}: line {line} column {column} (char {before.length})"
  | .recursion what => s!"maximum recursion depth exceeded while decoding a JSON {what} from a " ++
      "unicode string"
  | .digits count => "Exceeds the limit (4300 digits) for integer string conversion: " ++
      s!"value has {count} digits; use sys.set_int_max_str_digits() to increase the limit"

/-- How deep a text may be nested, and how many digits a whole number may have. -/
structure Limits where
  depth : Nat
  digits : Nat

def isBlank (char : Char) : Bool := [' ', '\t', '\n', '\r'].contains char

def skipBlanks (text : List Char) : List Char := text.dropWhile isBlank

/-! ## Texts -/

def hexDigit (char : Char) : Option Nat :=
  if '0' ≤ char ∧ char ≤ '9' then some (char.toNat - '0'.toNat)
  else if 'a' ≤ char ∧ char ≤ 'f' then some (char.toNat - 'a'.toNat + 10)
  else if 'A' ≤ char ∧ char ≤ 'F' then some (char.toNat - 'A'.toNat + 10)
  else none

def isHighSurrogate (code : Nat) : Bool := 0xD800 ≤ code ∧ code ≤ 0xDBFF
def isLowSurrogate (code : Nat) : Bool := 0xDC00 ≤ code ∧ code ≤ 0xDFFF

/-- Where a reader is inside a text: between two characters, after a backslash, or after so many
digits of a code.  A high surrogate that has been read waits for its other half. -/
inductive Mode where
  | plain (high : Option Nat)
  | escaped (high : Option Nat)
  | code (high : Option Nat) (value : Nat) (count : Nat) (left : Nat)
  deriving DecidableEq, Repr

def replacement : Char := Char.ofNat 0xFFFD

/-- A high surrogate without its other half. -/
def lone (high : Option Nat) : List Char :=
  match high with
  | none => []
  | some _ => [replacement]

/-- The characters that a code ends, and what is still waiting. -/
def endCode (high : Option Nat) (code : Nat) : List Char × Option Nat :=
  match high, isLowSurrogate code with
  | some high, true => ([Char.ofNat (0x10000 + (high - 0xD800) * 0x400 + (code - 0xDC00))], none)
  | none, true => ([replacement], none)
  | high, false =>
    if isHighSurrogate code then (lone high, some code)
    else (lone high ++ [Char.ofNat code], none)

def unescape (letter : Char) : Option Char :=
  if letter = '/' then some '/'
  else (shortEscapes.find? (·.2 = letter)).map (·.1)

/-- More characters in front of those that are read later. -/
def inFront (chars : List Char) :
    Except Fault (List Char × List Char) → Except Fault (List Char × List Char)
  | .ok (later, rest) => .ok (chars ++ later, rest)
  | .error fault => .error fault

/-- `scanstring`; so many characters were left at the opening quote. -/
def readChars (start : Nat) : Mode → Reader (List Char)
  | .plain _, [] => .error (.unreadable "Unterminated string starting at" start)
  | .plain high, char :: rest =>
    if char = '"' then .ok (lone high, rest)
    else if char = '\\' then readChars start (.escaped high) rest
    else if char.toNat ≤ 0x1F then
      .error (.unreadable "Invalid control character at" (rest.length + 1))
    else inFront (lone high ++ [char]) (readChars start (.plain none) rest)
  | .escaped _, [] => .error (.unreadable "Unterminated string starting at" start)
  | .escaped high, letter :: rest =>
    if letter = 'u' then readChars start (.code high 0 0 (rest.length + 1)) rest
    else
      match unescape letter with
      | none => .error (.unreadable "Invalid \\escape" (rest.length + 2))
      | some char => inFront (lone high ++ [char]) (readChars start (.plain none) rest)
  | .code _ _ _ left, [] => .error (.unreadable "Invalid \\uXXXX escape" left)
  | .code high value count left, digit :: rest =>
    match hexDigit digit with
    | none => .error (.unreadable "Invalid \\uXXXX escape" left)
    | some digit =>
      -- the fourth digit ends the code, which may not be the last thing in the text
      if count < 3 then readChars start (.code high (value * 16 + digit) (count + 1) left) rest
      else if rest = [] then .error (.unreadable "Invalid \\uXXXX escape" left)
      else
        inFront (endCode high (value * 16 + digit)).1
          (readChars start (.plain (endCode high (value * 16 + digit)).2) rest)

/-! ## Numbers -/

def readDigits (text : List Char) : List Char × List Char :=
  (text.takeWhile Char.isDigit, text.dropWhile Char.isDigit)

def digitOf (char : Char) : Fin 10 :=
  ⟨(char.toNat - '0'.toNat) % 10, Nat.mod_lt _ (Nat.succ_pos 9)⟩

/-- The digits after a point, if there are any. -/
def readFraction (text : List Char) : List (Fin 10) × List Char :=
  match text with
  | '.' :: rest =>
    if (readDigits rest).1 = [] then ([], text)
    else ((readDigits rest).1.map digitOf, (readDigits rest).2)
  | _ => ([], text)

/-- The exponent after its letter and its sign. -/
def readExponentDigits (text rest : List Char) (negative : Bool) : Option Int × List Char :=
  let digits := (readDigits rest).1
  if digits = [] then (none, text)
  else
    let value : Int := Nat.ofDigitChars 10 digits 0
    (some (if negative then -value else value), (readDigits rest).2)

def readExponent (text : List Char) : Option Int × List Char :=
  match text with
  | letter :: rest =>
    if letter = 'e' ∨ letter = 'E' then
      match rest with
      | '+' :: rest => readExponentDigits text rest false
      | '-' :: rest => readExponentDigits text rest true
      | _ => readExponentDigits text rest false
    else (none, text)
  | [] => (none, text)

/-- What follows the whole part of a number. -/
def readTail (limits : Limits) (negative : Bool) (whole rest : List Char) :
    Except Fault (Json × List Char) :=
  let fraction := readFraction rest
  let exponent := readExponent fraction.2
  -- without a fraction and an exponent it is an `int`, whose digits are limited
  if isReal : fraction.1 ≠ [] ∨ exponent.1 ≠ none then
    .ok (.real ⟨negative, Nat.ofDigitChars 10 whole 0, fraction.1, exponent.1, isReal⟩, exponent.2)
  else if limits.digits < whole.length then .error (.digits whole.length)
  else
    let value : Int := Nat.ofDigitChars 10 whole 0
    .ok (.int (if negative then -value else value), rest)

/-- `_match_number`; so many characters were left in front of the sign. -/
def readUnsigned (limits : Limits) (start : Nat) (negative : Bool) : Reader Json
  | '0' :: rest => readTail limits negative ['0'] rest
  | char :: rest =>
    if char.isDigit then
      readTail limits negative (readDigits (char :: rest)).1 (readDigits (char :: rest)).2
    else .error (.unreadable "Expecting value" start)
  | [] => .error (.unreadable "Expecting value" start)

def readNumber (limits : Limits) : Reader Json
  | '-' :: rest => readUnsigned limits (rest.length + 1) true rest
  | text => readUnsigned limits text.length false text

/-! ## Values -/

def constants : List (List Char × Json) :=
  [("null".toList, .null), ("true".toList, .bool true), ("false".toList, .bool false),
    ("NaN".toList, .nan), ("Infinity".toList, .infinite false),
    ("-Infinity".toList, .infinite true)]

/-- The items up to the closing bracket, with a comma after each but the last; every round of the
loop but the last takes a comma, so that its bound is never reached. -/
def readItems {α : Type} (item : Reader α) (closing : Char) : Nat → Reader (List α)
  | 0, text => .error (.unreadable "Expecting value" text.length)
  | bound + 1, text =>
    match item text with
    | .error fault => .error fault
    | .ok (value, rest) =>
      match skipBlanks rest with
      | [] => .error (.unreadable "Expecting ',' delimiter" 0)
      | char :: rest =>
        if char = closing then .ok ([value], rest)
        else if char = ',' then
          match readItems item closing bound (skipBlanks rest) with
          | .error fault => .error fault
          | .ok (values, rest) => .ok (value :: values, rest)
        else .error (.unreadable "Expecting ',' delimiter" (rest.length + 1))

/-- What follows an opening bracket. -/
def readEnclosed {α : Type} (item : Reader α) (closing : Char) : Reader (List α) := fun text =>
  match skipBlanks text with
  | [] => readItems item closing 1 []
  | char :: rest =>
    if char = closing then .ok ([], rest)
    else readItems item closing (rest.length + 1) (char :: rest)

/-- A key, a colon and a value. -/
def readEntry (value : Reader Json) : Reader (List Char × Json)
  | '"' :: rest =>
    match readChars (rest.length + 1) (.plain none) rest with
    | .error fault => .error fault
    | .ok (key, rest) =>
      match skipBlanks rest with
      | ':' :: rest =>
        match value (skipBlanks rest) with
        | .error fault => .error fault
        | .ok (value, rest) => .ok ((key, value), rest)
      | rest => .error (.unreadable "Expecting ':' delimiter" rest.length)
  | text => .error (.unreadable "Expecting property name enclosed in double quotes" text.length)

/-- `dict[key] = value`, where a key that is there already keeps its place. -/
def setEntry (key : List Char) (value : Json) :
    List (List Char × Json) → List (List Char × Json)
  | [] => [(key, value)]
  | entry :: entries =>
    if entry.1 = key then (key, value) :: entries else entry :: setEntry key value entries

def dictOf (entries : List (List Char × Json)) : List (List Char × Json) :=
  entries.foldl (fun dict entry => setEntry entry.1 entry.2 dict) []

/-- A value whose elements, if it has any, are read so. -/
def readTerm (limits : Limits) (list dict : Reader Json) : Reader Json := fun text =>
  match text with
  | '"' :: rest =>
    match readChars (rest.length + 1) (.plain none) rest with
    | .error fault => .error fault
    | .ok (chars, rest) => .ok (.text chars, rest)
  | '[' :: rest => list rest
  | '\x7b' :: rest => dict rest
  | _ =>
    -- `-Infinity` is looked for before the numbers that begin with a sign
    match constants.find? fun constant => constant.1.isPrefixOf text with
    | some (word, value) => .ok (value, text.drop word.length)
    | none => readNumber limits text

/-- `scan_once`, which may go so much deeper. -/
def readValue (limits : Limits) : Nat → Reader Json
  | 0 => readTerm limits (fun _ => .error (.recursion "array")) fun _ =>
      .error (.recursion "object")
  | depth + 1 => readTerm limits
      (fun text =>
        match readEnclosed (readValue limits depth) ']' text with
        | .error fault => .error fault
        | .ok (elements, rest) => .ok (.list elements, rest))
      fun text =>
        match readEnclosed (readEntry (readValue limits depth)) '\x7d' text with
        | .error fault => .error fault
        | .ok (entries, rest) => .ok (.dict (dictOf entries), rest)

/-- `json.loads(text)` -/
def loads (limits : Limits) (text : List Char) : Except Fault Json :=
  if text.head? = some (Char.ofNat 0xFEFF) then
    .error (.unreadable "Unexpected UTF-8 BOM (decode using utf-8-sig)" text.length)
  else
    match readValue limits limits.depth (skipBlanks text) with
    | .error fault => .error fault
    | .ok (value, rest) =>
      match skipBlanks rest with
      | [] => .ok value
      | rest => .error (.unreadable "Extra data" rest.length)

end JsonText
