import Mathlib

/-! # JSON texts

Values and how they are written: in ASCII, on one line or with an indent for each level, and with
the entries of dictionaries in order or as they stand. -/

namespace JsonText

/-- A numeral with a fraction or an exponent. -/
structure Numeral where
  negative : Bool
  whole : Nat
  fraction : List (Fin 10)
  exponent : Option Int
  isReal : fraction ≠ [] ∨ exponent ≠ none
  deriving DecidableEq, Repr

inductive Json where
  | null
  | bool (value : Bool)
  | int (value : Int)
  | real (numeral : Numeral)
  | nan
  | infinite (negative : Bool)
  | text (value : List Char)
  | list (elements : List Json)
  | dict (entries : List (List Char × Json))
  deriving Repr

/-! ## Texts -/

/-- A character of the first plane in four digits. -/
def hexFour (code : Nat) : List Char :=
  [Nat.digitChar (code / 0x1000), Nat.digitChar (code / 0x100 % 16), Nat.digitChar (code / 16 % 16),
    Nat.digitChar (code % 16)]

def unicodeEscape (code : Nat) : List Char := ['\\', 'u'] ++ hexFour code

def shortEscapes : List (Char × Char) :=
  [('"', '"'), ('\\', '\\'), ('\n', 'n'), ('\r', 'r'), ('\t', 't'), (Char.ofNat 0x0C, 'f'),
    (Char.ofNat 0x08, 'b')]

/-- Everything but printable ASCII is escaped. -/
def escapeChar (char : Char) : List Char :=
  match shortEscapes.lookup char with
  | some letter => ['\\', letter]
  | none =>
    if ' ' ≤ char ∧ char ≤ '~' then [char]
    else if char.toNat < 0x10000 then unicodeEscape char.toNat
    else
      unicodeEscape (0xD800 + (char.toNat - 0x10000) / 0x400) ++
        unicodeEscape (0xDC00 + (char.toNat - 0x10000) % 0x400)

def writeText (text : List Char) : List Char := '"' :: text.flatMap escapeChar ++ ['"']

/-! ## Numbers -/

def writeInt : Int → List Char
  | .ofNat value => Nat.toDigits 10 value
  | .negSucc value => '-' :: Nat.toDigits 10 (value + 1)

/-- At least two digits. -/
def writeExponent (exponent : Int) : List Char :=
  let digits := Nat.toDigits 10 exponent.natAbs
  ['e', if exponent < 0 then '-' else '+'] ++ List.replicate (2 - digits.length) '0' ++ digits

def writeNumeral (numeral : Numeral) : List Char :=
  (if numeral.negative then ['-'] else []) ++ Nat.toDigits 10 numeral.whole ++
    (if numeral.fraction = [] then [] else '.' :: numeral.fraction.map (Nat.digitChar ·.val)) ++
    (numeral.exponent.map writeExponent).getD []

/-! ## Values -/

def writeBool : Bool → List Char
  | true => "true".toList
  | false => "false".toList

def writeInfinite : Bool → List Char
  | true => "-Infinity".toList
  | false => "Infinity".toList

/-- The blanks after a comma and after a colon, and how far each level is indented. -/
structure Layout where
  afterItem : Nat
  afterKey : Nat
  indent : Option Nat
  deriving DecidableEq, Repr

/-- `separators=(",", ":")` -/
def Layout.compact : Layout := ⟨0, 0, none⟩

def Layout.spaced : Layout := ⟨1, 1, none⟩

/-- `indent=width` -/
def Layout.indented (width : Nat) : Layout := ⟨0, 1, some width⟩

/-- What stands between a bracket or a comma and an item of a level. -/
def Layout.gap (layout : Layout) (level : Nat) : List Char :=
  match layout.indent with
  | none => []
  | some width => '\n' :: List.replicate (width * level) ' '

/-- Each further item after a comma. -/
def Layout.writeLater (layout : Layout) (level : Nat) (items : List (List Char)) : List Char :=
  items.flatMap fun item =>
    ',' :: List.replicate layout.afterItem ' ' ++ layout.gap level ++ item

def Layout.enclose (layout : Layout) (level : Nat) (opening closing : Char) :
    List (List Char) → List Char
  | [] => [opening, closing]
  | first :: later =>
    opening :: layout.gap (level + 1) ++ first ++ layout.writeLater (level + 1) later ++
      layout.gap level ++ [closing]

def Layout.writeKey (layout : Layout) (key : List Char) : List Char :=
  writeText key ++ ':' :: List.replicate layout.afterKey ' '

mutual

def write (layout : Layout) (level : Nat) : Json → List Char
  | .null => "null".toList
  | .bool value => writeBool value
  | .int value => writeInt value
  | .real numeral => writeNumeral numeral
  | .nan => "NaN".toList
  | .infinite negative => writeInfinite negative
  | .text value => writeText value
  | .list elements => layout.enclose level '[' ']' (writeElements layout (level + 1) elements)
  | .dict entries => layout.enclose level '\x7b' '\x7d' (writeEntries layout (level + 1) entries)

def writeElements (layout : Layout) (level : Nat) : List Json → List (List Char)
  | [] => []
  | element :: elements => write layout level element :: writeElements layout level elements

def writeEntries (layout : Layout) (level : Nat) : List (List Char × Json) → List (List Char)
  | [] => []
  | (key, value) :: entries =>
    (layout.writeKey key ++ write layout level value) :: writeEntries layout level entries

end

theorem write_list (layout : Layout) (level : Nat) (elements : List Json) :
    write layout level (.list elements) =
      layout.enclose level '[' ']' (writeElements layout (level + 1) elements) := rfl

theorem write_dict (layout : Layout) (level : Nat) (entries : List (List Char × Json)) :
    write layout level (.dict entries) =
      layout.enclose level '\x7b' '\x7d' (writeEntries layout (level + 1) entries) := rfl

theorem write_bool (layout : Layout) (level : Nat) (value : Bool) :
    write layout level (.bool value) = writeBool value := rfl

theorem write_int (layout : Layout) (level : Nat) (value : Int) :
    write layout level (.int value) = writeInt value := rfl

theorem write_real (layout : Layout) (level : Nat) (numeral : Numeral) :
    write layout level (.real numeral) = writeNumeral numeral := rfl

theorem write_text (layout : Layout) (level : Nat) (value : List Char) :
    write layout level (.text value) = writeText value := rfl

/-! ## Sorted keys -/

/-- Put an entry in its place by the codes of its key. -/
def insertEntry (entry : List Char × Json) : List (List Char × Json) → List (List Char × Json)
  | [] => [entry]
  | other :: entries =>
    if entry.1 ≤ other.1 then entry :: other :: entries else other :: insertEntry entry entries

mutual

/-- The entries of every dictionary in the order of their keys. -/
def Json.sorted : Json → Json
  | .list elements => .list (sortedElements elements)
  | .dict entries => .dict (sortedEntries entries)
  | value => value

def sortedElements : List Json → List Json
  | [] => []
  | element :: elements => element.sorted :: sortedElements elements

def sortedEntries : List (List Char × Json) → List (List Char × Json)
  | [] => []
  | (key, value) :: entries => insertEntry (key, value.sorted) (sortedEntries entries)

end

/-- `json.dumps(value)`; the keys are sorted where that is asked for. -/
def dumps (layout : Layout) (sortKeys : Bool) (value : Json) : List Char :=
  write layout 0 (if sortKeys then value.sorted else value)

example : String.ofList (dumps .spaced true (.list [.int (-3), .text ['é', '\n'], .bool true])) =
    "[-3, \"\\u00e9\\n\", true]" := by
  decide +kernel

end JsonText
