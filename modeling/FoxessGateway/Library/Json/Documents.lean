import FoxessGateway.Library.Json.RoundTrip

/-! # Whole documents

`dumps` and `loads` are inverse on readable values, up to the order of keys where that is sorted; a
document without indents is one line of printable ASCII. -/

namespace JsonText

/-! ## What is written -/

/-- A printable character, or the end of a line where levels are indented. -/
def Plain (layout : Layout) (char : Char) : Prop :=
  (' ' ≤ char ∧ char ≤ '~') ∨ (char = '\n' ∧ layout.indent ≠ none)

theorem plain_of_isDigit (layout : Layout) {char : Char} (isDigit : char.isDigit = true) :
    Plain layout char := by
  simp only [Char.isDigit, Bool.and_eq_true, decide_eq_true_eq] at isDigit
  exact .inl ⟨Nat.le_trans (show ' '.toNat ≤ 48 by decide) isDigit.1,
    Nat.le_trans isDigit.2 (show 57 ≤ '~'.toNat by decide)⟩

theorem plain_visible (layout : Layout) {text : List Char}
    (visible : (text.all fun char => decide (' ' ≤ char ∧ char ≤ '~')) = true) :
    ∀ char ∈ text, Plain layout char := fun char member =>
  .inl (of_decide_eq_true (List.all_eq_true.mp visible char member))

theorem plain_toDigits (layout : Layout) (value : Nat) :
    ∀ char ∈ Nat.toDigits 10 value, Plain layout char := fun char member =>
  plain_of_isDigit layout (toDigits_isDigit value char member)

theorem plain_hexFour (layout : Layout) {code : Nat} (small : code < 0x10000) :
    ∀ char ∈ hexFour code, Plain layout char := by
  have all : ∀ digit : Fin 16, ' ' ≤ Nat.digitChar digit.val ∧ Nat.digitChar digit.val ≤ '~' := by
    decide
  intro char member
  simp only [hexFour, List.mem_cons, List.not_mem_nil, or_false] at member
  rcases member with rfl | rfl | rfl | rfl
  · exact .inl (all ⟨code / 0x1000, by omega⟩)
  · exact .inl (all ⟨code / 0x100 % 16, by omega⟩)
  · exact .inl (all ⟨code / 16 % 16, by omega⟩)
  · exact .inl (all ⟨code % 16, by omega⟩)

theorem plain_append {layout : Layout} {first second : List Char}
    (plainFirst : ∀ char ∈ first, Plain layout char)
    (plainSecond : ∀ char ∈ second, Plain layout char) :
    ∀ char ∈ first ++ second, Plain layout char := fun char member =>
  (List.mem_append.mp member).elim (plainFirst char) (plainSecond char)

theorem plain_escapeChar (layout : Layout) (char : Char) :
    ∀ other ∈ escapeChar char, Plain layout other := by
  have scalar : char.toNat < 0xD800 ∨ 0xDFFF < char.toNat ∧ char.toNat < 0x110000 := char.valid
  have escaped : ∀ {code : Nat}, code < 0x10000 →
      ∀ other ∈ unicodeEscape code, Plain layout other := fun small =>
    plain_append (plain_visible layout (by decide)) (plain_hexFour layout small)
  rw [escapeChar]
  split
  · rename_i letter isShort
    obtain ⟨before, after, split, _⟩ := List.lookup_eq_some_iff.mp isShort
    have member : (char, letter) ∈ shortEscapes := by
      rw [split]
      exact List.mem_append_right before List.mem_cons_self
    have visible : ∀ pair ∈ shortEscapes,
        (['\\', pair.2].all fun char => decide (' ' ≤ char ∧ char ≤ '~')) = true := by decide
    exact plain_visible layout (visible _ member)
  split
  · rename_i printable
    intro other member
    rw [List.mem_singleton.mp member]
    exact .inl printable
  split
  · rename_i small
    exact escaped small
  · exact plain_append (escaped (by omega)) (escaped (by omega))

theorem plain_writeText (layout : Layout) (text : List Char) :
    ∀ char ∈ writeText text, Plain layout char := by
  have plainFirst : ∀ char ∈ '"' :: text.flatMap escapeChar, Plain layout char := by
    intro char member
    rcases List.mem_cons.mp member with rfl | inside
    · exact .inl (by decide)
    · obtain ⟨source, _, isEscaped⟩ := List.mem_flatMap.mp inside
      exact plain_escapeChar layout source char isEscaped
  exact plain_append plainFirst (plain_visible layout (by decide))

theorem plain_replicate (layout : Layout) (count : Nat) {char : Char}
    (visible : ' ' ≤ char ∧ char ≤ '~') :
    ∀ other ∈ List.replicate count char, Plain layout other := fun _ member =>
  List.eq_of_mem_replicate member ▸ .inl visible

theorem plain_gap (layout : Layout) (level : Nat) :
    ∀ char ∈ layout.gap level, Plain layout char := by
  rw [Layout.gap]
  cases indent : layout.indent with
  | none => exact List.forall_mem_nil _
  | some width =>
    intro char member
    rcases List.mem_cons.mp member with rfl | further
    · exact .inr ⟨rfl, by simp [indent]⟩
    · exact plain_replicate layout _ (by decide) char further

theorem plain_writeInt (layout : Layout) (value : Int) :
    ∀ char ∈ writeInt value, Plain layout char := by
  cases value with
  | ofNat value => exact plain_toDigits layout value
  | negSucc value =>
    intro char member
    rcases List.mem_cons.mp member with rfl | further
    · exact .inl (by decide)
    · exact plain_toDigits layout _ char further

theorem plain_writeNumeral (layout : Layout) (numeral : Numeral) :
    ∀ char ∈ writeNumeral numeral, Plain layout char := by
  refine plain_append (plain_append (plain_append ?_ (plain_toDigits layout _)) ?_) ?_
  · split
    · exact plain_visible layout (by decide)
    · exact List.forall_mem_nil _
  · split
    · exact List.forall_mem_nil _
    · intro char member
      rcases List.mem_cons.mp member with rfl | further
      · exact .inl (by decide)
      · obtain ⟨digit, _, rfl⟩ := List.mem_map.mp further
        exact plain_of_isDigit layout (isDigit_digitChar digit.isLt)
  · cases numeral.exponent with
    | none => exact List.forall_mem_nil _
    | some exponent =>
      refine plain_append (plain_append ?_ (plain_replicate layout _ (by decide)))
        (plain_toDigits layout _)
      split
      · exact plain_visible layout (by decide)
      · exact plain_visible layout (by decide)

theorem plain_enclose {layout : Layout} (level : Nat) {opening closing : Char}
    (brackets : ∀ char ∈ [opening, closing], Plain layout char) {texts : List (List Char)}
    (plain : ∀ text ∈ texts, ∀ char ∈ text, Plain layout char) :
    ∀ char ∈ layout.enclose level opening closing texts, Plain layout char := by
  cases texts with
  | nil => exact brackets
  | cons first later =>
    obtain ⟨isOpening, isClosing⟩ := List.forall_mem_cons.mp brackets
    have plainOpening : ∀ char ∈ opening :: layout.gap (level + 1), Plain layout char :=
      List.forall_mem_cons.mpr ⟨isOpening, plain_gap layout _⟩
    refine plain_append (plain_append (plain_append (plain_append plainOpening ?_) ?_)
      (plain_gap layout level)) isClosing
    · exact plain first List.mem_cons_self
    · intro char member
      obtain ⟨item, isItem, inside⟩ := List.mem_flatMap.mp member
      have comma : ∀ char ∈ ',' :: List.replicate layout.afterItem ' ', Plain layout char :=
        List.forall_mem_cons.mpr ⟨.inl (by decide), plain_replicate layout _ (by decide)⟩
      exact plain_append (plain_append comma (plain_gap layout _))
        (plain item (List.mem_cons_of_mem _ isItem)) char inside

mutual

/-- Everything that is written is plain. -/
theorem plain_write (layout : Layout) (level : Nat) :
    ∀ value : Json, ∀ char ∈ write layout level value, Plain layout char
  | .null => plain_visible layout rfl
  | .bool true => plain_visible layout rfl
  | .bool false => plain_visible layout rfl
  | .int value => plain_writeInt layout value
  | .real numeral => plain_writeNumeral layout numeral
  | .nan => plain_visible layout rfl
  | .infinite true => plain_visible layout rfl
  | .infinite false => plain_visible layout rfl
  | .text value => plain_writeText layout value
  | .list elements => plain_enclose level (plain_visible layout (by decide))
      (plain_writeElements layout (level + 1) elements)
  | .dict entries => plain_enclose level (plain_visible layout (by decide))
      (plain_writeEntries layout (level + 1) entries)

theorem plain_writeElements (layout : Layout) (level : Nat) :
    ∀ elements : List Json, ∀ text ∈ writeElements layout level elements,
      ∀ char ∈ text, Plain layout char
  | [] => nofun
  | element :: elements => List.forall_mem_cons.mpr
      ⟨plain_write layout level element, plain_writeElements layout level elements⟩

theorem plain_writeEntries (layout : Layout) (level : Nat) :
    ∀ entries : List (List Char × Json), ∀ text ∈ writeEntries layout level entries,
      ∀ char ∈ text, Plain layout char
  | [] => nofun
  | (key, value) :: entries => by
    have colon : ∀ char ∈ ':' :: List.replicate layout.afterKey ' ', Plain layout char :=
      List.forall_mem_cons.mpr ⟨.inl (by decide), plain_replicate layout _ (by decide)⟩
    exact List.forall_mem_cons.mpr
      ⟨plain_append (plain_append (plain_writeText layout key) colon)
        (plain_write layout level value), plain_writeEntries layout level entries⟩

end

/-- A document without indents is one line. -/
theorem dumps_oneLine {layout : Layout} (oneLine : layout.indent = none) (sortKeys : Bool)
    (value : Json) : ∀ char ∈ dumps layout sortKeys value, ' ' ≤ char ∧ char ≤ '~' := by
  intro char member
  rcases plain_write layout 0 _ char member with visible | ⟨_, indented⟩
  · exact visible
  · exact absurd oneLine indented

theorem dumps_ascii (layout : Layout) (sortKeys : Bool) (value : Json) :
    ∀ char ∈ dumps layout sortKeys value, char.toNat < 128 := by
  intro char member
  rcases plain_write layout 0 _ char member with ⟨_, below⟩ | ⟨rfl, _⟩
  · exact Nat.lt_of_le_of_lt (show char.toNat ≤ '~'.toNat from below) (by decide)
  · decide

/-! ## Lengths -/

theorem escapeChar_length (char : Char) : (escapeChar char).length ≤ 12 := by
  rw [escapeChar]
  split
  · exact Nat.le_add_left 2 10
  · split
    · exact Nat.le_add_left 1 11
    · split
      · exact Nat.le_add_left 6 6
      · exact Nat.le_refl 12

theorem writeText_length (text : List Char) : (writeText text).length ≤ 12 * text.length + 2 := by
  have inside : (text.flatMap escapeChar).length ≤ 12 * text.length := by
    induction text with
    | nil => exact Nat.le_refl 0
    | cons char text inductionHypothesis =>
      have first := escapeChar_length char
      rw [List.flatMap_cons, List.length_append, List.length_cons]
      omega
  rw [writeText, List.cons_append, List.length_cons, List.length_append, List.length_singleton]
  omega

/-- A bound on the length of a compact dictionary. -/
theorem compact_dict_length (level : Nat) (entries : List (List Char × Json)) :
    (write .compact level (.dict entries)).length ≤ 2 + (entries.map fun entry =>
      12 * entry.1.length + 4 + (write .compact (level + 1) entry.2).length).sum := by
  have items : ((writeEntries .compact (level + 1) entries).map fun item => item.length + 1).sum ≤
      (entries.map fun entry =>
        12 * entry.1.length + 4 + (write .compact (level + 1) entry.2).length).sum := by
    induction entries with
    | nil => exact Nat.le_refl 0
    | cons entry entries inductionHypothesis =>
      obtain ⟨key, value⟩ := entry
      have isKey := writeText_length key
      rw [writeEntries, List.map_cons, List.sum_cons, List.map_cons, List.sum_cons]
      refine Nat.add_le_add ?_ inductionHypothesis
      rw [Layout.writeKey, List.length_append, List.length_append]
      change (writeText key).length + 1 + (write .compact (level + 1) value).length + 1 ≤
        12 * key.length + 4 + (write .compact (level + 1) value).length
      omega
  have enclosed : ∀ texts : List (List Char),
      (Layout.compact.enclose level '\x7b' '\x7d' texts).length ≤
        2 + (texts.map fun item => item.length + 1).sum := by
    rintro (_ | ⟨first, later⟩)
    · exact Nat.le_refl 2
    · have further : (Layout.compact.writeLater (level + 1) later).length =
          (later.map fun item => item.length + 1).sum := by
        rw [Layout.writeLater, List.length_flatMap]
        rfl
      change (('\x7b' :: first ++ Layout.compact.writeLater (level + 1) later ++ [] ++
        ['\x7d']).length) ≤ _
      simp only [List.length_append, List.length_cons, List.length_nil, List.map_cons,
        List.sum_cons, further]
      omega
  rw [write_dict]
  exact Nat.le_trans (enclosed _) (Nat.add_le_add_left items 2)

/-! ## Sorted keys -/

theorem insertEntry_perm (entry : List Char × Json) (entries : List (List Char × Json)) :
    (insertEntry entry entries).Perm (entry :: entries) := by
  induction entries with
  | nil => exact .refl _
  | cons other entries inductionHypothesis =>
    rw [insertEntry]
    split
    · exact .refl _
    · exact (inductionHypothesis.cons other).trans (.swap entry other entries)

/-- Sorting puts the entries in another order, with every value sorted. -/
theorem sortedEntries_perm (entries : List (List Char × Json)) :
    (sortedEntries entries).Perm (entries.map (Prod.map id Json.sorted)) := by
  induction entries with
  | nil => exact .refl _
  | cons entry entries inductionHypothesis =>
    exact (insertEntry_perm (entry.1, entry.2.sorted) _).trans (inductionHypothesis.cons _)

theorem sortedElements_eq (elements : List Json) :
    sortedElements elements = elements.map Json.sorted := by
  induction elements with
  | nil => rfl
  | cons element elements inductionHypothesis =>
    rw [sortedElements, inductionHypothesis, List.map_cons]

theorem sortedEntries_keys (entries : List (List Char × Json)) :
    ((sortedEntries entries).map (·.1)).Perm (entries.map (·.1)) := by
  have mapped := (sortedEntries_perm entries).map (·.1)
  rwa [List.map_map] at mapped

theorem Readable.sorted {digits depth : Nat} {value : Json}
    (readable : Readable digits depth value) : Readable digits depth value.sorted := by
  induction readable with
  | null depth => exact .null depth
  | bool depth value => exact .bool depth value
  | int depth short => exact .int depth short
  | real depth numeral => exact .real depth numeral
  | nan depth => exact .nan depth
  | infinite depth negative => exact .infinite depth negative
  | text depth value => exact .text depth value
  | @list depth elements readable inductionHypothesis =>
    rw [Json.sorted, sortedElements_eq]
    refine .list fun element member => ?_
    obtain ⟨source, isElement, rfl⟩ := List.mem_map.mp member
    exact inductionHypothesis source isElement
  | @dict depth entries distinct readable inductionHypothesis =>
    rw [Json.sorted]
    refine .dict ((sortedEntries_keys entries).nodup_iff.mpr distinct) fun entry member => ?_
    obtain ⟨source, isEntry, rfl⟩ :=
      List.mem_map.mp ((sortedEntries_perm entries).mem_iff.mp member)
    exact inductionHypothesis source isEntry

/-! ## Reading documents -/

theorem skipBlanks_blank {blanks : List Char} (allBlank : ∀ char ∈ blanks, isBlank char = true) :
    skipBlanks blanks = [] := by
  have skipped := skipBlanks_append allBlank []
  rwa [List.append_nil] at skipped

theorem ends_blank {blanks : List Char} (allBlank : ∀ char ∈ blanks, isBlank char = true) :
    Ends blanks := by
  intro char isHead
  have blank := allBlank char (List.mem_of_mem_head? isHead)
  simp only [isBlank, List.contains_cons, List.contains_nil, Bool.or_false, Bool.or_eq_true,
    beq_iff_eq] at blank
  rcases blank with rfl | rfl | rfl | rfl <;> decide

/-- **Documents round-trip**, with any blanks after them. -/
theorem loads_dumps {limits : Limits} {value : Json}
    (readable : Readable limits.digits limits.depth value) (layout : Layout) (sortKeys : Bool)
    {blanks : List Char} (allBlank : ∀ char ∈ blanks, isBlank char = true) :
    loads limits (dumps layout sortKeys value ++ blanks) =
      .ok (if sortKeys then value.sorted else value) := by
  have ordered :
      Readable limits.digits limits.depth (if sortKeys then value.sorted else value) := by
    split
    · exact readable.sorted
    · exact readable
  have ascii := dumps_ascii layout sortKeys value
  rw [dumps] at ascii ⊢
  generalize (if sortKeys then value.sorted else value) = written at ordered ascii ⊢
  have isWritten := write_written ordered layout 0
  obtain ⟨first, later, begins, _⟩ := isWritten.begins
  -- the text is ASCII, so it does not begin with a byte order mark
  have notMark : (write layout 0 written ++ blanks).head? ≠ some (Char.ofNat 0xFEFF) := by
    have isAscii := ascii first (by simp [begins])
    rw [begins]
    rintro ⟨⟩
    revert isAscii
    decide
  rw [loads, if_neg notMark, isWritten.skip, isWritten.reads blanks (ends_blank allBlank)]
  dsimp only
  rw [skipBlanks_blank allBlank]

/-! ## Looking keys up -/

/-- `dict.get(key)` -/
def get (entries : List (List Char × Json)) (key : List Char) : Option Json := entries.lookup key

end JsonText
