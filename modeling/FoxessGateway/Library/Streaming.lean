import Mathlib.Algebra.GroupWithZero.Nat
import Mathlib.Data.List.Flatten
import Mathlib.Tactic.Common

/-! # Incremental scanners

A scanner makes passes over a buffer.  A pass stops and leaves a rest for later, skips
some elements, or emits an item and goes on with what follows it.  This module says when
such a loop may be run on a stream that arrives in arbitrary reads: `Resumable` is the law
of a single pass, `feed_eq_scan` the independence of whole runs from the read boundaries.
-/

namespace Streaming

variable {α β : Type*}

/-- What one pass over the buffer decides. -/
inductive Verdict (α β : Type*) where
  | stop (rest : List α)
  | skip (rest : List α)
  | emit (item : β) (rest : List α)

/-- The elements left in the buffer after the pass. -/
def Verdict.rest : Verdict α β → List α
  | .stop rest | .skip rest | .emit _ rest => rest

/-- The same decision on a buffer that goes on with `more`. -/
def Verdict.extend (more : List α) : Verdict α β → Verdict α β
  | .stop rest => .stop (rest ++ more)
  | .skip rest => .skip (rest ++ more)
  | .emit item rest => .emit item (rest ++ more)

/-- The loop that makes such passes, for so many rounds at most. -/
def loop (pass : List α → Verdict α β) : Nat → List α → Option (List β × List α)
  | 0, _ => none
  | rounds + 1, buffer =>
    match pass buffer with
    | .stop rest => some ([], rest)
    | .skip rest => loop pass rounds rest
    | .emit item rest => (loop pass rounds rest).map fun later => (item :: later.1, later.2)

structure Scanner (α β : Type*) where
  pass : List α → Verdict α β
  skip_shrinks : ∀ {buffer rest}, pass buffer = .skip rest → rest.length < buffer.length
  emit_shrinks : ∀ {buffer item rest}, pass buffer = .emit item rest →
    rest.length < buffer.length

namespace Scanner

/-- Run passes until one stops: the items emitted and the buffer left. -/
def scan (scanner : Scanner α β) (buffer : List α) : List β × List α :=
  match _passed : scanner.pass buffer with
  | .stop rest => ([], rest)
  | .skip rest => scanner.scan rest
  | .emit item rest => (item :: (scanner.scan rest).1, (scanner.scan rest).2)
termination_by buffer.length
decreasing_by
  · exact scanner.skip_shrinks _passed
  · exact scanner.emit_shrinks _passed

/-- The buffer on which the last pass of `scan` stops. -/
def last (scanner : Scanner α β) (buffer : List α) : List α :=
  match _passed : scanner.pass buffer with
  | .stop _ => buffer
  | .skip rest => scanner.last rest
  | .emit _ rest => scanner.last rest
termination_by buffer.length
decreasing_by
  · exact scanner.skip_shrinks _passed
  · exact scanner.emit_shrinks _passed

variable {scanner : Scanner α β} {buffer rest more : List α} {item : β}

theorem scan_stop (passed : scanner.pass buffer = .stop rest) :
    scanner.scan buffer = ([], rest) := by
  rw [scan]; split <;> simp_all

theorem scan_skip (passed : scanner.pass buffer = .skip rest) :
    scanner.scan buffer = scanner.scan rest := by
  rw [scan]; split <;> simp_all

theorem scan_emit (passed : scanner.pass buffer = .emit item rest) :
    scanner.scan buffer = (item :: (scanner.scan rest).1, (scanner.scan rest).2) := by
  rw [scan]; split <;> simp_all

theorem last_stop (passed : scanner.pass buffer = .stop rest) :
    scanner.last buffer = buffer := by
  rw [last]; split <;> simp_all

theorem last_skip (passed : scanner.pass buffer = .skip rest) :
    scanner.last buffer = scanner.last rest := by
  rw [last]; split <;> simp_all

theorem last_emit (passed : scanner.pass buffer = .emit item rest) :
    scanner.last buffer = scanner.last rest := by
  rw [last]; split <;> simp_all

/-- Induction along the passes of a scan. -/
theorem passes_induction (scanner : Scanner α β) {motive : List α → Prop}
    (stop : ∀ buffer rest, scanner.pass buffer = .stop rest → motive buffer)
    (skip : ∀ buffer rest, scanner.pass buffer = .skip rest → motive rest → motive buffer)
    (emit : ∀ buffer item rest, scanner.pass buffer = .emit item rest → motive rest →
      motive buffer)
    (buffer : List α) : motive buffer := by
  cases passed : scanner.pass buffer with
  | stop rest => exact stop buffer rest passed
  | skip rest => exact skip buffer rest passed (passes_induction scanner stop skip emit rest)
  | emit item rest =>
    exact emit buffer item rest passed (passes_induction scanner stop skip emit rest)
termination_by buffer.length
decreasing_by
  · exact scanner.skip_shrinks passed
  · exact scanner.emit_shrinks passed

/-- The loop ends in as many rounds as the buffer has elements, and one more. -/
theorem loop_eq_scan (scanner : Scanner α β) {rounds : Nat} (enough : buffer.length < rounds) :
    loop scanner.pass rounds buffer = some (scanner.scan buffer) := by
  induction rounds generalizing buffer with
  | zero => exact absurd enough (Nat.not_lt_zero _)
  | succ rounds inductionHypothesis =>
    rw [loop]
    cases passed : scanner.pass buffer with
    | stop rest => rw [scan_stop passed]
    | skip rest =>
      have shorter := scanner.skip_shrinks passed
      rw [scan_skip passed]
      exact inductionHypothesis (by omega)
    | emit item rest =>
      have shorter := scanner.emit_shrinks passed
      have later := inductionHypothesis (show rest.length < rounds by omega)
      dsimp only
      rw [later, scan_emit passed]
      rfl

/-- A scan sees its buffer only through the first pass. -/
theorem scan_congr {left right : List α} (same : scanner.pass left = scanner.pass right) :
    scanner.scan left = scanner.scan right := by
  cases passed : scanner.pass right with
  | stop rest => rw [scan_stop passed, scan_stop (same.trans passed)]
  | skip rest => rw [scan_skip passed, scan_skip (same.trans passed)]
  | emit item rest => rw [scan_emit passed, scan_emit (same.trans passed)]

/-- The last pass stops, and leaves what the scan leaves. -/
theorem pass_last (scanner : Scanner α β) (buffer : List α) :
    scanner.pass (scanner.last buffer) = .stop (scanner.scan buffer).2 := by
  induction buffer using scanner.passes_induction with
  | stop buffer rest passed => rw [last_stop passed, scan_stop passed, passed]
  | skip buffer rest passed inductionHypothesis =>
    rw [last_skip passed, scan_skip passed, inductionHypothesis]
  | emit buffer item rest passed inductionHypothesis =>
    rw [last_emit passed, scan_emit passed, inductionHypothesis]

/-! ## Resuming a scan -/

/-- A pass may be resumed on a longer buffer.  `loses buffer more` marks the stops that
drop something the elements `more` would have given a meaning. -/
structure Resumable (scanner : Scanner α β) (loses : List α → List α → Prop) : Prop where
  stop : ∀ {buffer rest} more, scanner.pass buffer = .stop rest → ¬ loses buffer more →
    scanner.pass (buffer ++ more) = scanner.pass (rest ++ more)
  skip : ∀ {buffer rest} more, scanner.pass buffer = .skip rest →
    scanner.pass (buffer ++ more) = .skip (rest ++ more)
  emit : ∀ {buffer item rest} more, scanner.pass buffer = .emit item rest →
    scanner.pass (buffer ++ more) = .emit item (rest ++ more)
  settled : ∀ {buffer rest}, scanner.pass buffer = .stop rest → scanner.pass rest = .stop rest

variable {loses : List α → List α → Prop}

/-- Scanning a longer buffer continues the scan of the shorter one, unless its last pass
loses something. -/
theorem Resumable.scan_append (resumable : scanner.Resumable loses)
    (kept : ¬ loses (scanner.last buffer) more) :
    scanner.scan (buffer ++ more) =
      ((scanner.scan buffer).1 ++ (scanner.scan ((scanner.scan buffer).2 ++ more)).1,
        (scanner.scan ((scanner.scan buffer).2 ++ more)).2) := by
  -- along the passes of the shorter buffer: the longer one makes the same passes up to its stop
  induction buffer using scanner.passes_induction with
  | stop buffer rest passed =>
    rw [last_stop passed] at kept
    rw [scan_congr (resumable.stop more passed kept), scan_stop passed]
    simp
  | skip buffer rest passed inductionHypothesis =>
    rw [last_skip passed] at kept
    rw [scan_skip (resumable.skip more passed), inductionHypothesis kept, scan_skip passed]
  | emit buffer item rest passed inductionHypothesis =>
    rw [last_emit passed] at kept
    rw [scan_emit (resumable.emit more passed), inductionHypothesis kept, scan_emit passed]
    simp

/-- Nothing is lost that the last pass can see again. -/
theorem Resumable.scan_append_last (resumable : scanner.Resumable loses) (buffer more : List α) :
    scanner.scan (buffer ++ more) =
      ((scanner.scan buffer).1 ++ (scanner.scan (scanner.last buffer ++ more)).1,
        (scanner.scan (scanner.last buffer ++ more)).2) := by
  induction buffer using scanner.passes_induction with
  | stop buffer rest passed => rw [last_stop passed, scan_stop passed, List.nil_append]
  | skip buffer rest passed inductionHypothesis =>
    rw [scan_skip (resumable.skip more passed), inductionHypothesis, scan_skip passed,
      last_skip passed]
  | emit buffer item rest passed inductionHypothesis =>
    rw [scan_emit (resumable.emit more passed), inductionHypothesis, scan_emit passed,
      last_emit passed, List.cons_append]

/-! ## Feeding reads -/

/-- Append each read to the buffer and scan it. -/
def feed (scanner : Scanner α β) (buffer : List α) : List (List α) → List β × List α
  | [] => ([], buffer)
  | read :: reads =>
    let scanned := scanner.scan (buffer ++ read)
    let later := scanner.feed scanned.2 reads
    (scanned.1 ++ later.1, later.2)

/-- No read but the last ends where a stop loses something the later reads complete. -/
def Intact (scanner : Scanner α β) (loses : List α → List α → Prop) (buffer : List α) :
    List (List α) → Prop
  | [] => True
  | read :: reads =>
    ¬ loses (scanner.last (buffer ++ read)) reads.flatten ∧
      scanner.Intact loses (scanner.scan (buffer ++ read)).2 reads

/-- **Read-boundary independence**: reads that lose nothing give what one scan of the
whole stream gives. -/
theorem Resumable.feed_eq_scan (resumable : scanner.Resumable loses)
    (resting : scanner.pass buffer = .stop buffer) (reads : List (List α))
    (intact : scanner.Intact loses buffer reads) :
    scanner.feed buffer reads = scanner.scan (buffer ++ reads.flatten) := by
  induction reads generalizing buffer with
  | nil => rw [feed, List.flatten_nil, List.append_nil, scan_stop resting]
  | cons read reads inductionHypothesis =>
    obtain ⟨kept, intact⟩ := intact
    have later := inductionHypothesis (resumable.settled (scanner.pass_last _)) intact
    rw [feed, later, List.flatten_cons, ← List.append_assoc, resumable.scan_append kept]

/-! ## What a scan consumes -/

/-- `raw` gives the elements an item was read from. -/
structure Reads (scanner : Scanner α β) (raw : β → List α) : Prop where
  stop : ∀ {buffer rest}, scanner.pass buffer = .stop rest → ∃ gap, buffer = gap ++ rest
  skip : ∀ {buffer rest}, scanner.pass buffer = .skip rest → ∃ gap, buffer = gap ++ rest
  emit : ∀ {buffer item rest}, scanner.pass buffer = .emit item rest →
    ∃ gap, buffer = gap ++ raw item ++ rest

/-- Put a gap in front of a layout. -/
def prepend (gap : List α) : List (List α × β) × List α → List (List α × β) × List α
  | ([], tail) => ([], gap ++ tail)
  | ((first, item) :: items, tail) => ((gap ++ first, item) :: items, tail)

/-- Where the items stand in what `scan` consumes: each item with the skipped elements
in front of it, and the skipped elements after the last item. -/
def layout (scanner : Scanner α β) (raw : β → List α) (buffer : List α) :
    List (List α × β) × List α :=
  match _passed : scanner.pass buffer with
  | .stop rest => ([], buffer.take (buffer.length - rest.length))
  | .skip rest =>
    prepend (buffer.take (buffer.length - rest.length)) (scanner.layout raw rest)
  | .emit item rest =>
    let later := scanner.layout raw rest
    ((buffer.take (buffer.length - rest.length - (raw item).length), item) :: later.1, later.2)
termination_by buffer.length
decreasing_by
  · exact scanner.skip_shrinks _passed
  · exact scanner.emit_shrinks _passed

/-- The elements of a layout, in order. -/
def spelled (raw : β → List α) (laid : List (List α × β) × List α) : List α :=
  (laid.1.map fun piece => piece.1 ++ raw piece.2).flatten ++ laid.2

variable {raw : β → List α}

theorem spelled_prepend (gap : List α) (laid : List (List α × β) × List α) :
    spelled raw (prepend gap laid) = gap ++ spelled raw laid := by
  obtain ⟨_ | ⟨⟨first, item⟩, items⟩, tail⟩ := laid <;> simp [spelled, prepend]

theorem items_prepend (gap : List α) (laid : List (List α × β) × List α) :
    (prepend gap laid).1.map Prod.snd = laid.1.map Prod.snd := by
  obtain ⟨_ | ⟨⟨first, item⟩, items⟩, tail⟩ := laid <;> simp [prepend]

theorem layout_stop (passed : scanner.pass buffer = .stop rest) :
    scanner.layout raw buffer = ([], buffer.take (buffer.length - rest.length)) := by
  rw [layout]; split <;> simp_all

theorem layout_skip (passed : scanner.pass buffer = .skip rest) :
    scanner.layout raw buffer =
      prepend (buffer.take (buffer.length - rest.length)) (scanner.layout raw rest) := by
  rw [layout]; split <;> simp_all

theorem layout_emit (passed : scanner.pass buffer = .emit item rest) :
    scanner.layout raw buffer =
      ((buffer.take (buffer.length - rest.length - (raw item).length), item) ::
        (scanner.layout raw rest).1, (scanner.layout raw rest).2) := by
  rw [layout]; split <;> simp_all

/-- The items of the layout are the items of the scan. -/
theorem layout_items (scanner : Scanner α β) (raw : β → List α) (buffer : List α) :
    (scanner.layout raw buffer).1.map Prod.snd = (scanner.scan buffer).1 := by
  induction buffer using scanner.passes_induction with
  | stop buffer rest passed => rw [layout_stop passed, scan_stop passed]; rfl
  | skip buffer rest passed inductionHypothesis =>
    rw [layout_skip passed, scan_skip passed, items_prepend, inductionHypothesis]
  | emit buffer item rest passed inductionHypothesis =>
    rw [layout_emit passed, scan_emit passed, List.map_cons, inductionHypothesis]

/-- The layout spells what the scan consumes. -/
theorem Reads.layout_spelled (consumes : scanner.Reads raw) (buffer : List α) :
    spelled raw (scanner.layout raw buffer) ++ (scanner.scan buffer).2 = buffer := by
  induction buffer using scanner.passes_induction with
  | stop buffer rest passed =>
    obtain ⟨gap, rfl⟩ := consumes.stop passed
    rw [layout_stop passed, scan_stop passed]
    simp [spelled]
  | skip buffer rest passed inductionHypothesis =>
    obtain ⟨gap, rfl⟩ := consumes.skip passed
    rw [layout_skip passed, scan_skip passed, spelled_prepend, List.append_assoc,
      inductionHypothesis]
    simp
  | emit buffer item rest passed inductionHypothesis =>
    obtain ⟨gap, rfl⟩ := consumes.emit passed
    rw [layout_emit passed, scan_emit passed]
    -- the gap is what stands before the item in the buffer
    have length : (gap ++ raw item ++ rest).length - rest.length - (raw item).length =
        gap.length := by simp; omega
    have taken : (gap ++ raw item ++ rest).take gap.length = gap := by simp
    rw [length, taken]
    conv_rhs => rw [← inductionHypothesis]
    simp [spelled]

/-- The items and the rest of a scan fit into its buffer, with the last pass's loss. -/
theorem Reads.scan_length (consumes : scanner.Reads raw) (buffer : List α) :
    ((scanner.scan buffer).1.map fun item => (raw item).length).sum +
      (scanner.last buffer).length ≤ buffer.length := by
  induction buffer using scanner.passes_induction with
  | stop buffer rest passed => rw [scan_stop passed, last_stop passed]; simp
  | skip buffer rest passed inductionHypothesis =>
    obtain ⟨gap, rfl⟩ := consumes.skip passed
    rw [scan_skip passed, last_skip passed, List.length_append]
    omega
  | emit buffer item rest passed inductionHypothesis =>
    obtain ⟨gap, rfl⟩ := consumes.emit passed
    rw [scan_emit passed, last_emit passed]
    simp only [List.map_cons, List.sum_cons, List.length_append]
    omega

theorem Reads.rest_length (consumes : scanner.Reads raw) (buffer : List α) :
    (scanner.scan buffer).2.length ≤ (scanner.last buffer).length := by
  obtain ⟨gap, split⟩ := consumes.stop (scanner.pass_last buffer)
  rw [split, List.length_append]
  omega

/-- Feeding never delivers more than it was fed. -/
theorem Reads.feed_length (consumes : scanner.Reads raw) (buffer : List α)
    (reads : List (List α)) :
    ((scanner.feed buffer reads).1.map fun item => (raw item).length).sum +
      (scanner.feed buffer reads).2.length ≤ buffer.length + reads.flatten.length := by
  induction reads generalizing buffer with
  | nil => simp [feed]
  | cons read reads inductionHypothesis =>
    have scanned := consumes.scan_length (buffer ++ read)
    have left := consumes.rest_length (buffer ++ read)
    have later := inductionHypothesis (scanner.scan (buffer ++ read)).2
    simp only [feed, List.map_append, List.sum_append, List.flatten_cons, List.length_append]
      at scanned later ⊢
    omega

/-- A boundary that loses something leaves less to deliver than was fed. -/
theorem Reads.feed_length_lt (consumes : scanner.Reads raw)
    (drops : ∀ {buffer more rest}, loses buffer more → scanner.pass buffer = .stop rest →
      rest.length < buffer.length)
    (buffer : List α) (reads : List (List α)) (broken : ¬ scanner.Intact loses buffer reads) :
    ((scanner.feed buffer reads).1.map fun item => (raw item).length).sum +
      (scanner.feed buffer reads).2.length < buffer.length + reads.flatten.length := by
  induction reads generalizing buffer with
  | nil => exact absurd trivial broken
  | cons read reads inductionHypothesis =>
    have scanned := consumes.scan_length (buffer ++ read)
    have left := consumes.rest_length (buffer ++ read)
    simp only [feed, List.map_append, List.sum_append, List.flatten_cons, List.length_append]
      at scanned ⊢
    by_cases lost : loses (scanner.last (buffer ++ read)) reads.flatten
    · have dropped := drops lost (scanner.pass_last (buffer ++ read))
      have later := consumes.feed_length (scanner.scan (buffer ++ read)).2 reads
      omega
    · have later := inductionHypothesis (scanner.scan (buffer ++ read)).2
        (fun intact => broken ⟨lost, intact⟩)
      omega

/-! ## Streams of whole items -/

/-- The scanner recognises the item at the head of any buffer. -/
def Recognises (scanner : Scanner α β) (raw : β → List α) (item : β) : Prop :=
  ∀ more, scanner.pass (raw item ++ more) = .emit item more

theorem scan_items (items : List β) (recognised : ∀ item ∈ items, scanner.Recognises raw item)
    (more : List α) :
    scanner.scan ((items.map raw).flatten ++ more) =
      (items ++ (scanner.scan more).1, (scanner.scan more).2) := by
  induction items with
  | nil => rfl
  | cons item items inductionHypothesis =>
    have head := recognised item (by simp)
    have tail := inductionHypothesis fun item member => recognised item (by simp [member])
    rw [List.map_cons, List.flatten_cons, List.append_assoc, scan_emit (head _), tail]
    rfl

/-- Items side by side are laid out without gaps. -/
theorem layout_joined (items : List β) (recognised : ∀ item ∈ items, scanner.Recognises raw item)
    {rest : List α} (stopped : scanner.pass rest = .stop rest) :
    scanner.layout raw ((items.map raw).flatten ++ rest) =
      (items.map fun item => ([], item), []) := by
  induction items with
  | nil =>
    rw [List.map_nil, List.flatten_nil, List.nil_append, layout_stop stopped, Nat.sub_self]
    rfl
  | cons item items inductionHypothesis =>
    have head := recognised item (by simp)
    have later := inductionHypothesis fun item member => recognised item (by simp [member])
    rw [List.map_cons, List.flatten_cons, List.append_assoc, layout_emit (head _), later]
    simp

theorem last_items (items : List β) (recognised : ∀ item ∈ items, scanner.Recognises raw item)
    (more : List α) : scanner.last ((items.map raw).flatten ++ more) = scanner.last more := by
  induction items with
  | nil => rfl
  | cons item items inductionHypothesis =>
    have head := recognised item (by simp)
    have tail := inductionHypothesis fun item member => recognised item (by simp [member])
    rw [List.map_cons, List.flatten_cons, List.append_assoc, last_emit (head _), tail]

/-- A stream of items is cut between two of them or inside one. -/
theorem cut_items (raw : β → List α) (items : List β) {front back : List α}
    (stream : front ++ back = (items.map raw).flatten) :
    ∃ early late part, items = early ++ late ∧ front = (early.map raw).flatten ++ part ∧
      part ++ back = (late.map raw).flatten ∧
      (part = [] ∨ ∃ item later, late = item :: later ∧ part <+: raw item ∧ part ≠ raw item) := by
  induction items generalizing front with
  | nil =>
    obtain ⟨rfl, rfl⟩ := List.append_eq_nil_iff.mp stream
    exact ⟨[], [], [], rfl, rfl, rfl, .inl rfl⟩
  | cons item items inductionHypothesis =>
    rw [List.map_cons, List.flatten_cons] at stream
    rcases List.append_eq_append_iff.mp stream with ⟨inside, whole, continued⟩ |
      ⟨beyond, passed, rest⟩
    · by_cases atEnd : front = raw item
      · subst atEnd
        obtain rfl : inside = [] := by simpa using whole
        exact ⟨[item], items, [], rfl, by simp, continued, .inl rfl⟩
      · refine ⟨[], item :: items, front, rfl, rfl, by simpa using stream, .inr ?_⟩
        exact ⟨item, items, rfl, ⟨inside, whole.symm⟩, atEnd⟩
    · obtain ⟨early, late, part, rfl, rfl, suffix, inner⟩ := inductionHypothesis rest.symm
      exact ⟨item :: early, late, part, rfl, by rw [passed]; simp, suffix, inner⟩

/-- **Whole items arrive exactly when no boundary loses anything.** -/
theorem Resumable.feed_items_iff (resumable : scanner.Resumable loses)
    (consumes : scanner.Reads raw)
    (drops : ∀ {buffer more rest}, loses buffer more → scanner.pass buffer = .stop rest →
      rest.length < buffer.length)
    (resting : scanner.pass [] = .stop []) (items : List β)
    (recognised : ∀ item ∈ items, scanner.Recognises raw item)
    (reads : List (List α)) (stream : reads.flatten = (items.map raw).flatten) :
    scanner.feed [] reads = (items, []) ↔ scanner.Intact loses [] reads := by
  constructor
  · intro delivered
    by_contra broken
    -- the items and the rest are as long as the stream, so nothing may be missing
    have short := consumes.feed_length_lt drops [] reads broken
    rw [delivered, stream, List.length_flatten, List.map_map] at short
    simp [Function.comp_def] at short
  · intro intact
    have scanned := scan_items items recognised []
    rw [List.append_nil, scan_stop resting, List.append_nil] at scanned
    rw [resumable.feed_eq_scan resting reads intact, List.nil_append, stream, scanned]

end Scanner

end Streaming
