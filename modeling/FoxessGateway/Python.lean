import FoxessGateway.Library.ByteOrder
import Mathlib.Data.List.Nodup

/-! # The Python operations the gateway rests on

Byte strings and texts are lists.  An operation that can raise returns an `Except`, so that
every place where the program could fail shows in the model. -/

namespace FoxessGateway

open ByteOrder

abbrev Bytes := List UInt8
abbrev Text := List Char

inductive PyError where
  | indexError
  | keyError (key : String)
  | valueError (message : String)
  | overflowError
  | unicodeError
  | firmwareProtocolError (message : String)
  | timeoutError (message : String)
  | osError (message : String)
  deriving DecidableEq, Repr

@[simp] theorem ok_bind {α β : Type} (value : α) (next : α → Except PyError β) :
    (Except.ok value >>= next) = next value := rfl

/-- `data[index]` -/
def item (data : Bytes) (index : Nat) : Except PyError UInt8 :=
  match data[index]? with
  | some byte => .ok byte
  | none => .error .indexError

/-- `data[start:stop]` -/
def slice (data : Bytes) (start stop : Nat) : Bytes := (data.take stop).drop start

/-- `data[-count:]` -/
def lastBytes (data : Bytes) (count : Nat) : Bytes := data.drop (data.length - count)

/-- `number.to_bytes(width, "big")` -/
def toBytes (number width : Nat) : Except PyError Bytes :=
  if number < 256 ^ width then .ok (toBig width number) else .error .overflowError

/-- `bytes([number])` -/
def byteOf (number : Nat) : Except PyError UInt8 :=
  if number < 256 then .ok (UInt8.ofNat number)
  else .error (.valueError "bytes must be in range(0, 256)")

/-- `data.decode("ascii")` -/
def decodeAscii (data : Bytes) : Except PyError Text :=
  if data.all (· < 128) then .ok (data.map fun byte => Char.ofNat byte.toNat)
  else .error .unicodeError

/-- `text.encode("ascii")` -/
def encodeAscii (text : Text) : Except PyError Bytes :=
  if text.all (·.toNat < 128) then .ok (text.map fun char => UInt8.ofNat char.toNat)
  else .error .unicodeError

/-- `char.isspace()`, the characters `str.strip` removes. -/
def isSpace (char : Char) : Bool :=
  let code := char.toNat
  (0x09 ≤ code && code ≤ 0x0d) || (0x1c ≤ code && code ≤ 0x20) || code == 0x85 || code == 0xa0 ||
    code == 0x1680 || (0x2000 ≤ code && code ≤ 0x200a) || code == 0x2028 || code == 0x2029 ||
    code == 0x202f || code == 0x205f || code == 0x3000

/-- `text.strip()` -/
def strip (text : Text) : Text :=
  ((text.dropWhile isSpace).reverse.dropWhile isSpace).reverse

/-- An `asyncio.Future`. -/
inductive Future (α : Type) where
  | pending
  | result (value : α)
  | cancelled
  deriving DecidableEq, Repr

/-- `if not future.done(): future.set_result(value)` -/
def Future.settle {α : Type} (value : α) : Future α → Future α
  | .pending => .result value
  | done => done

/-! ## Texts -/

/-- `text.upper()` of ASCII text. -/
def upper (text : Text) : Text := text.map Char.toUpper

/-- `data.hex()` -/
def hexText (data : Bytes) : Text :=
  data.flatMap fun byte => [Nat.digitChar (byte.toNat / 16), Nat.digitChar (byte.toNat % 16)]

/-- `digits.isdigit()` and then `int(digits)`; Python refuses more than 4300 digits. -/
def pythonInt (digits : Text) : Except PyError Nat :=
  if digits.length > 4300 then
    .error (.valueError "Exceeds the limit (4300 digits) for integer string conversion")
  else .ok (digits.foldl (fun value digit => 10 * value + (digit.toNat - '0'.toNat)) 0)

/-! ## Dictionaries -/

/-- A `dict`, as what its keys map to. -/
def Dict (κ β : Type) := κ → Option β

namespace Dict

variable {κ β : Type}

def empty : Dict κ β := fun _ => none

/-- `dict.get(key)` -/
def get (dict : Dict κ β) (key : κ) : Option β := dict key

@[ext] theorem ext {left right : Dict κ β} (same : ∀ key, left.get key = right.get key) :
    left = right := funext same

variable [DecidableEq κ]

/-- `dict[key] = value` -/
def set (dict : Dict κ β) (key : κ) (value : β) : Dict κ β :=
  fun other => if other = key then some value else dict other

/-- `dict.pop(key, None)`, what it leaves. -/
def pop (dict : Dict κ β) (key : κ) : Dict κ β :=
  fun other => if other = key then none else dict other

@[simp] theorem get_set_self (dict : Dict κ β) (key : κ) (value : β) :
    (dict.set key value).get key = some value := if_pos rfl

theorem get_set (dict : Dict κ β) (key other : κ) (value : β) :
    (dict.set key value).get other = if other = key then some value else dict.get other := rfl

theorem get_pop (dict : Dict κ β) (key other : κ) :
    (dict.pop key).get other = if other = key then none else dict.get other := rfl

/-- Storing what is there already changes nothing. -/
theorem set_eq_self_iff {dict : Dict κ β} {key : κ} {value : β} :
    dict.set key value = dict ↔ dict.get key = some value := by
  constructor
  · intro same
    rw [← same, get_set_self]
  · intro there
    apply ext
    intro other
    rw [get_set]
    split
    · rename_i isKey
      rw [isKey, there]
    · rfl

end Dict

/-- A `dict` whose keys are gone through, in the order in which they came. -/
structure OrderedDict (κ β : Type) where
  keys : List κ
  values : Dict κ β
  distinct : keys.Nodup
  mem_keys_iff : ∀ key, key ∈ keys ↔ (values.get key).isSome = true

namespace OrderedDict

variable {κ β : Type}

def empty : OrderedDict κ β where
  keys := []
  values := .empty
  distinct := .nil
  mem_keys_iff _ := by simp [Dict.empty, Dict.get]

def get (dict : OrderedDict κ β) (key : κ) : Option β := dict.values.get key

/-- `tuple(dict.items())` -/
def items (dict : OrderedDict κ β) : List (κ × β) :=
  dict.keys.filterMap fun key => (dict.get key).map (key, ·)

theorem mem_items {dict : OrderedDict κ β} {key : κ} {value : β} :
    (key, value) ∈ dict.items ↔ dict.get key = some value := by
  rw [items, List.mem_filterMap]
  constructor
  · rintro ⟨other, _, found⟩
    obtain ⟨_, isValue, same⟩ := Option.map_eq_some_iff.mp found
    cases same
    exact isValue
  · intro isValue
    have member : key ∈ dict.keys := (dict.mem_keys_iff key).mpr (by
      rw [show dict.values.get key = some value from isValue]
      rfl)
    exact ⟨key, member, by rw [isValue]; rfl⟩

theorem items_distinct (dict : OrderedDict κ β) : (dict.items.map Prod.fst).Nodup := by
  have keys : dict.items.map Prod.fst = dict.keys := by
    rw [items, List.map_filterMap]
    refine (List.filterMap_congr fun key member => ?_).trans List.filterMap_some
    obtain ⟨value, isValue⟩ := Option.isSome_iff_exists.mp ((dict.mem_keys_iff key).mp member)
    rw [show dict.get key = some value from isValue]
    rfl
  rw [keys]
  exact dict.distinct

theorem lookup_items [BEq κ] [LawfulBEq κ] (dict : OrderedDict κ β) (key : κ) :
    dict.items.lookup key = dict.get key := by
  cases found : dict.items.lookup key with
  | none =>
    cases there : dict.get key with
    | none => rfl
    | some value =>
      have absent := List.lookup_eq_none_iff.mp found _ (mem_items.mpr there)
      exact absurd rfl (bne_iff_ne.mp absent)
  | some value =>
    obtain ⟨before, after, split, _⟩ := List.lookup_eq_some_iff.mp found
    have member : (key, value) ∈ dict.items := by
      rw [split]
      exact List.mem_append_right _ List.mem_cons_self
    exact (mem_items.mp member).symm

variable [DecidableEq κ]

/-- `dict[key] = value`: a key that is there keeps its place. -/
def set (dict : OrderedDict κ β) (key : κ) (value : β) : OrderedDict κ β where
  keys := if key ∈ dict.keys then dict.keys else dict.keys ++ [key]
  values := dict.values.set key value
  distinct := by
    split
    · exact dict.distinct
    · rename_i new
      rw [List.nodup_append]
      refine ⟨dict.distinct, List.nodup_singleton key, ?_⟩
      rintro old isOld _ isNew rfl
      exact new (List.mem_singleton.mp isNew ▸ isOld)
  mem_keys_iff other := by
    rw [Dict.get_set]
    by_cases same : other = key
    · rw [if_pos same, same]
      refine iff_of_true ?_ rfl
      split
      · assumption
      · exact List.mem_append_right _ (List.mem_singleton_self key)
    · rw [if_neg same, ← dict.mem_keys_iff]
      split
      · exact Iff.rfl
      · rw [List.mem_append, List.mem_singleton, or_iff_left same]

theorem get_set (dict : OrderedDict κ β) (key other : κ) (value : β) :
    (dict.set key value).get other = if other = key then some value else dict.get other := rfl

end OrderedDict

/-! ## Where the operations return -/

theorem item_eq_ok {data : Bytes} {index : Nat} (bound : index < data.length) :
    item data index = .ok data[index] := by
  simp [item, bound]

theorem item_ok_iff {data : Bytes} {index : Nat} {byte : UInt8} :
    item data index = .ok byte ↔ data[index]? = some byte := by
  rw [item]
  cases data[index]? <;> simp

theorem toBytes_eq_ok {number width : Nat} (fits : number < 256 ^ width) :
    toBytes number width = .ok (toBig width number) := by
  simp [toBytes, fits]

theorem byteOf_eq_ok {number : Nat} (fits : number < 256) :
    byteOf number = .ok (UInt8.ofNat number) := by
  simp [byteOf, fits]

theorem decodeAscii_of_encodeAscii {data : Bytes} {text : Text}
    (encoded : encodeAscii text = .ok data) : decodeAscii data = .ok text := by
  rw [encodeAscii] at encoded
  split at encoded
  · rename_i ascii
    cases encoded
    simp only [List.all_eq_true, decide_eq_true_eq] at ascii
    have codes : ∀ char ∈ text, (UInt8.ofNat char.toNat).toNat = char.toNat := by
      intro char member
      have small := ascii char member
      rw [UInt8.toNat_ofNat']
      omega
    have all : (text.map fun char => UInt8.ofNat char.toNat).all (· < 128) = true := by
      simp only [List.all_map, List.all_eq_true, Function.comp_apply, decide_eq_true_eq]
      intro char member
      rw [UInt8.lt_iff_toNat_lt, codes char member]
      exact ascii char member
    have back : (text.map fun char => UInt8.ofNat char.toNat).map
        (fun byte => Char.ofNat byte.toNat) =
        text := by
      rw [List.map_map]
      conv_rhs => rw [← List.map_id text]
      refine List.map_congr_left fun char member => ?_
      simp only [Function.comp_apply, codes char member, Char.ofNat_toNat, id]
    rw [decodeAscii, if_pos all, back]
  · cases encoded

theorem strip_inside (text : Text) : strip text <:+: text := by
  have behind : text.dropWhile isSpace <:+: text := (List.dropWhile_suffix _).isInfix
  refine List.IsInfix.trans ?_ behind
  rw [strip, ← List.reverse_infix, List.reverse_reverse]
  exact (List.dropWhile_suffix _).isInfix

theorem toNat_ofNat_ascii {code : Nat} (ascii : code < 128) : (Char.ofNat code).toNat = code := by
  have valid : code.isValidChar := .inl (Nat.lt_trans ascii (by decide))
  exact congrArg Char.toNat (dif_pos valid)

theorem encodeAscii_of_decodeAscii {data : Bytes} {text : Text}
    (decoded : decodeAscii data = .ok text) : encodeAscii text = .ok data := by
  rw [decodeAscii] at decoded
  split at decoded
  · rename_i ascii
    cases decoded
    simp only [List.all_eq_true, decide_eq_true_eq] at ascii
    have codes : ∀ byte ∈ data, (Char.ofNat byte.toNat).toNat = byte.toNat := by
      intro byte member
      exact toNat_ofNat_ascii (UInt8.lt_iff_toNat_lt.mp (ascii byte member))
    have all : (data.map fun byte => Char.ofNat byte.toNat).all (·.toNat < 128) = true := by
      simp only [List.all_map, List.all_eq_true, Function.comp_apply, decide_eq_true_eq]
      intro byte member
      rw [codes byte member]
      exact UInt8.lt_iff_toNat_lt.mp (ascii byte member)
    have back : (data.map fun byte => Char.ofNat byte.toNat).map
        (fun char => UInt8.ofNat char.toNat) = data := by
      rw [List.map_map]
      conv_rhs => rw [← List.map_id data]
      refine List.map_congr_left fun byte member => ?_
      simp only [Function.comp_apply, codes byte member, UInt8.ofNat_toNat, id]
    rw [encodeAscii, if_pos all, back]
  · cases decoded

theorem encodeAscii_length {data : Bytes} {text : Text} (encoded : encodeAscii text = .ok data) :
    data.length = text.length := by
  rw [encodeAscii] at encoded
  split at encoded <;> cases encoded
  simp

end FoxessGateway
