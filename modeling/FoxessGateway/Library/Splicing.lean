import Mathlib.Data.List.Infix
import Mathlib.Data.List.Nodup
import Mathlib.Tactic.Common

/-! # Searching for a sublist and cutting it out

`find` is the first offset at which a list occurs in another.  `cutOwned` removes a
sequence of pieces from a list by searching for each of them, `exact` removes them at their
own places; `cutOwned_eq_exact_iff` says when the two agree.
-/

namespace Splicing

variable {α γ : Type*}

section Find

variable [DecidableEq α] {needle hay more : List α} {index : Nat}

/-- The first offset at which `needle` occurs. -/
def find (needle : List α) : List α → Option Nat
  | [] => if needle = [] then some 0 else none
  | first :: hay =>
    if needle <+: first :: hay then some 0 else (find needle hay).map (· + 1)

theorem find_eq_some_iff :
    find needle hay = some index ↔
      needle <+: hay.drop index ∧ index ≤ hay.length ∧
        ∀ earlier < index, ¬ needle <+: hay.drop earlier := by
  induction hay generalizing index with
  | nil =>
    by_cases empty : needle = []
    · subst empty
      simp only [find, if_true, Option.some.injEq, List.drop_nil, List.nil_prefix, true_and,
        List.length_nil, not_true_eq_false]
      constructor
      · rintro rfl
        simp
      · intro bounds
        omega
    · simp [find, empty]
  | cons first hay inductionHypothesis =>
    by_cases head : needle <+: first :: hay
    · simp only [find, head, if_true, Option.some.injEq]
      constructor
      · rintro rfl
        simpa using head
      · rintro ⟨_, _, none⟩
        by_contra positive
        exact none 0 (by omega) head
    · simp only [find, head, if_false, Option.map_eq_some_iff]
      constructor
      · rintro ⟨index, found, rfl⟩
        obtain ⟨occurs, bound, none⟩ := inductionHypothesis.mp found
        refine ⟨by simpa using occurs, by simpa using bound, ?_⟩
        rintro (_ | earlier) before
        · simpa using head
        · simpa using none earlier (by omega)
      · rintro ⟨occurs, bound, none⟩
        cases index with
        | zero => exact absurd (by simpa using occurs) head
        | succ index =>
          refine ⟨index, inductionHypothesis.mpr ⟨by simpa using occurs, by simpa using bound, ?_⟩,
            rfl⟩
          intro earlier before
          simpa using none (earlier + 1) (by omega)

theorem find_le_of_occurs (occurs : needle <+: hay.drop index) (bound : index ≤ hay.length) :
    ∃ found ≤ index, find needle hay = some found := by
  induction hay generalizing index with
  | nil =>
    have empty : needle = [] := by simpa using occurs
    exact ⟨0, Nat.zero_le _, by simp [find, empty]⟩
  | cons first hay inductionHypothesis =>
    by_cases head : needle <+: first :: hay
    · exact ⟨0, Nat.zero_le _, by simp [find, head]⟩
    · cases index with
      | zero => exact absurd (by simpa using occurs) head
      | succ index =>
        rw [List.drop_succ_cons] at occurs
        obtain ⟨found, before, hit⟩ := inductionHypothesis occurs (by simpa using bound)
        exact ⟨found + 1, by omega, by simp [find, head, hit]⟩

omit [DecidableEq α] in
theorem occurs_length (occurs : needle <+: hay.drop index) (bound : index ≤ hay.length) :
    index + needle.length ≤ hay.length := by
  have length := occurs.length_le
  rw [List.length_drop] at length
  omega

/-- Elements after an occurrence do not move it. -/
theorem find_append (found : find needle hay = some index) :
    find needle (hay ++ more) = some index := by
  obtain ⟨occurs, bound, none⟩ := find_eq_some_iff.mp found
  have fits := occurs_length occurs bound
  refine find_eq_some_iff.mpr ⟨?_, by simp; omega, ?_⟩
  · rw [List.drop_append_of_le_length bound]
    exact occurs.trans (List.prefix_append _ _)
  · intro earlier before shifted
    rw [List.drop_append_of_le_length (by omega)] at shifted
    refine none earlier before (List.prefix_of_prefix_length_le shifted (List.prefix_append _ _) ?_)
    rw [List.length_drop]
    omega

end Find

/-! ## Cutting pieces out -/

/-- A stretch of a list: some elements in front, a body, and whether to remove the body. -/
structure Piece (γ : Type*) where
  gap : List γ
  body : List γ
  owned : Bool

def Piece.all (piece : Piece γ) : List γ := piece.gap ++ piece.body

def Piece.kept (piece : Piece γ) : List γ :=
  piece.gap ++ if piece.owned then [] else piece.body

def whole (pieces : List (Piece γ)) (tail : List γ) : List γ :=
  (pieces.map Piece.all).flatten ++ tail

/-- The pieces with every owned body removed at its own place. -/
def exact (pieces : List (Piece γ)) (tail : List γ) : List γ :=
  (pieces.map Piece.kept).flatten ++ tail

/-! ## Places -/

/-- The pieces with the place of each element. -/
def placed (start : Nat) : List (Piece α) → List (Piece (α × Nat))
  | [] => []
  | piece :: pieces =>
    ⟨piece.gap.zipIdx start, piece.body.zipIdx (start + piece.gap.length), piece.owned⟩ ::
      placed (start + piece.all.length) pieces

theorem whole_placed (start : Nat) (pieces : List (Piece α)) (tail : List α) :
    whole (placed start pieces) (tail.zipIdx (start + (pieces.map Piece.all).flatten.length)) =
      (whole pieces tail).zipIdx start := by
  induction pieces generalizing start with
  | nil => rfl
  | cons piece pieces inductionHypothesis =>
    have later := inductionHypothesis (start + piece.all.length)
    simp only [whole, placed, Piece.all, List.map_cons, List.flatten_cons, List.append_assoc,
      List.zipIdx_append, List.length_append, Nat.add_assoc] at later ⊢
    rw [later]

theorem placed_map (start : Nat) (pieces : List (Piece α)) :
    (placed start pieces).map
        (fun piece => ⟨piece.gap.map Prod.fst, piece.body.map Prod.fst, piece.owned⟩) = pieces := by
  induction pieces generalizing start with
  | nil => rfl
  | cons piece pieces inductionHypothesis =>
    rw [placed, List.map_cons, inductionHypothesis]
    simp

theorem placed_append (start : Nat) (pieces later : List (Piece α)) :
    placed start (pieces ++ later) =
      placed start pieces ++ placed (start + (pieces.map Piece.all).flatten.length) later := by
  induction pieces generalizing start with
  | nil => rfl
  | cons piece pieces inductionHypothesis =>
    rw [List.cons_append, placed, inductionHypothesis, placed, List.cons_append, List.map_cons,
      List.flatten_cons, List.length_append, Nat.add_assoc]

theorem placed_nonempty (start : Nat) {pieces : List (Piece α)}
    (nonempty : ∀ piece ∈ pieces, piece.body ≠ []) :
    ∀ piece ∈ placed start pieces, piece.body ≠ [] := by
  induction pieces generalizing start with
  | nil => exact nofun
  | cons piece pieces inductionHypothesis =>
    intro found member
    rw [placed, List.mem_cons] at member
    obtain rfl | later := member
    · intro empty
      rw [List.zipIdx_eq_nil_iff] at empty
      exact nonempty piece (by simp) empty
    · exact inductionHypothesis _ (fun piece member => nonempty piece (by simp [member]))
        found later

/-! ## Search and cut -/

variable [DecidableEq α] (key : γ → α)

/-- Delete the first stretch whose keys are `needle`. -/
def cutFirst (needle : List α) (forward : List γ) : List γ :=
  match find needle (forward.map key) with
  | some index => forward.take index ++ forward.drop (index + needle.length)
  | none => forward

/-- Delete the owned bodies one after another, each where it is found first. -/
def cutOwned : List (Piece γ) → List γ → List γ
  | [], forward => forward
  | piece :: pieces, forward =>
    cutOwned pieces
      (if piece.owned then cutFirst key (piece.body.map key) forward else forward)

/-- No owned body occurs earlier than at its own place, in what is kept before it. -/
def Unshadowed (kept : List γ) : List (Piece γ) → Prop
  | [] => True
  | piece :: pieces =>
    (piece.owned = true →
      find (piece.body.map key) ((kept ++ piece.gap ++ piece.body).map key) =
        some (kept ++ piece.gap).length) ∧
    Unshadowed (kept ++ piece.kept) pieces

theorem cutFirst_sublist (needle : List α) (forward : List γ) :
    (cutFirst key needle forward).Sublist forward := by
  rw [cutFirst]
  split
  · rename_i index _
    conv_rhs => rw [← List.take_append_drop index forward]
    exact (List.Sublist.refl _).append (List.drop_sublist_drop_left _ (by omega))
  · exact List.Sublist.refl _

theorem cutOwned_sublist (pieces : List (Piece γ)) (forward : List γ) :
    (cutOwned key pieces forward).Sublist forward := by
  induction pieces generalizing forward with
  | nil => exact List.Sublist.refl _
  | cons piece pieces inductionHypothesis =>
    refine (inductionHypothesis _).trans ?_
    split
    · exact cutFirst_sublist key _ _
    · exact List.Sublist.refl _

theorem cutOwned_nothing {pieces : List (Piece γ)} (nothing : ∀ piece ∈ pieces, piece.owned = false)
    (forward : List γ) : cutOwned key pieces forward = forward := by
  induction pieces with
  | nil => rfl
  | cons piece pieces inductionHypothesis =>
    rw [cutOwned, nothing piece (by simp)]
    exact inductionHypothesis fun piece member => nothing piece (by simp [member])

/-- A body found at its own place is cut out exactly. -/
theorem cutFirst_own (before body more : List γ)
    (own : find (body.map key) ((before ++ body).map key) = some before.length) :
    cutFirst key (body.map key) (before ++ body ++ more) = before ++ more := by
  have found : find (body.map key) ((before ++ body ++ more).map key) = some before.length := by
    rw [List.map_append]
    exact find_append own
  rw [cutFirst]
  rw [found]
  simp

/-- **Search and cut is exact** when no owned body is found too early. -/
theorem cutOwned_eq_exact (kept : List γ) (pieces : List (Piece γ)) (tail : List γ)
    (unshadowed : Unshadowed key kept pieces) :
    cutOwned key pieces (kept ++ whole pieces tail) = kept ++ exact pieces tail := by
  induction pieces generalizing kept with
  | nil => rfl
  | cons piece pieces inductionHypothesis =>
    obtain ⟨own, later⟩ := unshadowed
    have continued := inductionHypothesis (kept ++ piece.kept) later
    rw [cutOwned]
    by_cases owned : piece.owned = true
    · have cut := cutFirst_own key (kept ++ piece.gap) piece.body (whole pieces tail) (own owned)
      simp only [whole, exact, Piece.all, Piece.kept, owned, if_true, List.map_cons,
        List.flatten_cons, List.append_assoc, List.append_nil] at cut continued ⊢
      rw [cut, continued]
    · simp only [whole, exact, Piece.all, Piece.kept, owned, List.map_cons, List.flatten_cons,
        List.append_assoc] at continued ⊢
      exact continued

/-- What is cut out of a list without repetitions is not in the rest. -/
theorem notMem_cut {list : List γ} {index next : Nat} {element : γ} (distinct : list.Nodup)
    (known : list[index]? = some element) (beyond : index < next) :
    element ∉ list.take index ++ list.drop next := by
  obtain ⟨bound, rfl⟩ := List.getElem?_eq_some_iff.mp known
  have split : list.take index ++ list[index] :: list.drop (index + 1) = list := by
    rw [List.getElem_cons_drop, List.take_append_drop]
  have apart : (list.take index ++ list[index] :: list.drop (index + 1)).Nodup := by
    rwa [split]
  rw [List.nodup_append, List.nodup_cons] at apart
  obtain ⟨_, ⟨notLater, _⟩, notEarlier⟩ := apart
  rw [List.mem_append]
  rintro (early | late)
  · exact notEarlier _ early _ List.mem_cons_self rfl
  · exact notLater ((List.drop_sublist_drop_left _ beyond).subset late)

omit [DecidableEq α] in
theorem occurs_own (before body : List γ) :
    body.map key <+: ((before ++ body).map key).drop before.length := by
  simp

/-- Something found too early is cut out of what had to stay. -/
theorem cutFirst_early (before body more : List γ) (nonempty : body ≠ [])
    (distinct : (before ++ body ++ more).Nodup)
    (early : find (body.map key) ((before ++ body).map key) ≠ some before.length) :
    ∃ element ∈ before, element ∉ cutFirst key (body.map key) (before ++ body ++ more) := by
  obtain ⟨index, bound, found⟩ := find_le_of_occurs (occurs_own key before body) (by simp)
  have less : index < before.length := by
    rcases Nat.lt_or_eq_of_le bound with less | same
    · exact less
    · exact absurd (same ▸ found) early
  have longer : find (body.map key) ((before ++ body ++ more).map key) = some index := by
    rw [List.map_append]
    exact find_append found
  have known : (before ++ body ++ more)[index]? = some before[index] := by
    rw [List.append_assoc, List.getElem?_append_left less, List.getElem?_eq_getElem less]
  have positive : 0 < (body.map key).length := by
    rw [List.length_map]
    exact List.length_pos_iff.mpr nonempty
  -- the first element that is deleted stands in front of the body's own place
  refine ⟨before[index], List.getElem_mem less, ?_⟩
  rw [cutFirst]
  rw [longer]
  exact notMem_cut distinct known (by omega)

/-- Where the result is exact, the first owned body was found at its own place. -/
theorem own_of_cutOwned {kept : List γ} {piece : Piece γ} {pieces : List (Piece γ)} {tail : List γ}
    (owned : piece.owned = true) (nonempty : piece.body ≠ [])
    (distinct : (kept ++ whole (piece :: pieces) tail).Nodup)
    (cut : cutOwned key (piece :: pieces) (kept ++ whole (piece :: pieces) tail) =
      kept ++ exact (piece :: pieces) tail) :
    find (piece.body.map key) ((kept ++ piece.gap ++ piece.body).map key) =
      some (kept ++ piece.gap).length := by
  have shape : kept ++ whole (piece :: pieces) tail =
      kept ++ piece.gap ++ piece.body ++ whole pieces tail := by
    simp [whole, Piece.all]
  rw [shape] at distinct cut
  rw [cutOwned, if_pos owned] at cut
  by_contra early
  obtain ⟨element, inBefore, gone⟩ := cutFirst_early key (kept ++ piece.gap) piece.body
    (whole pieces tail) nonempty distinct early
  apply gone
  apply (cutOwned_sublist key pieces _).subset
  rw [cut]
  simp only [exact, List.map_cons, Piece.kept, owned, if_true, List.append_nil,
    List.flatten_cons, List.append_assoc, List.mem_append] at inBefore ⊢
  tauto

/-- **Exactly when search and cut removes the owned stretches themselves**: on a list whose
elements are all different, so that the result tells which of them are left. -/
theorem cutOwned_eq_exact_iff (kept : List γ) (pieces : List (Piece γ)) (tail : List γ)
    (nonempty : ∀ piece ∈ pieces, piece.body ≠ [])
    (distinct : (kept ++ whole pieces tail).Nodup) :
    cutOwned key pieces (kept ++ whole pieces tail) = kept ++ exact pieces tail ↔
      Unshadowed key kept pieces := by
  constructor
  · intro cut
    induction pieces generalizing kept with
    | nil => trivial
    | cons piece pieces inductionHypothesis =>
      have later : ∀ piece ∈ pieces, piece.body ≠ [] := fun piece member =>
        nonempty piece (by simp [member])
      by_cases owned : piece.owned = true
      · have own := own_of_cutOwned key owned (nonempty piece (by simp)) distinct cut
        -- without the first body, the rest is the same question again
        refine ⟨fun _ => own, inductionHypothesis (kept ++ piece.kept) later ?_ ?_⟩
        · refine distinct.sublist ?_
          simp only [whole, Piece.all, Piece.kept, owned, if_true, List.map_cons,
            List.flatten_cons, List.append_assoc, List.append_nil]
          exact (List.Sublist.refl _).append ((List.Sublist.refl _).append
            (List.sublist_append_right _ _))
        · have removed := cutFirst_own key (kept ++ piece.gap) piece.body (whole pieces tail) own
          rw [cutOwned, if_pos owned] at cut
          simp only [whole, exact, Piece.all, Piece.kept, owned, if_true, List.map_cons,
            List.flatten_cons, List.append_assoc, List.append_nil] at removed cut ⊢
          rw [← cut, removed]
      · rw [cutOwned, if_neg owned] at cut
        refine ⟨fun isOwned => absurd isOwned owned,
          inductionHypothesis (kept ++ piece.kept) later ?_ ?_⟩
        · simpa [whole, Piece.all, Piece.kept, owned] using distinct
        · simpa [whole, exact, Piece.all, Piece.kept, owned] using cut
  · exact cutOwned_eq_exact key kept pieces tail

/-! ## One piece -/

/-- What comes after an occurrence stays behind the cut. -/
theorem cutFirst_append {needle : List α} {forward : List γ} {index : Nat}
    (found : find needle (forward.map key) = some index) (more : List γ) :
    cutFirst key needle (forward ++ more) = cutFirst key needle forward ++ more := by
  have longer : find needle ((forward ++ more).map key) = some index := by
    rw [List.map_append]
    exact find_append found
  obtain ⟨occurs, bound, _⟩ := find_eq_some_iff.mp found
  have fits := occurs_length occurs bound
  rw [List.length_map] at bound fits
  rw [cutFirst, longer, cutFirst, found]
  dsimp only
  rw [List.take_append_of_le_length bound, List.drop_append_of_le_length fits, List.append_assoc]

/-- What comes after the pieces stays behind them. -/
theorem cutOwned_append (kept : List γ) (pieces : List (Piece γ)) (tail more : List γ) :
    cutOwned key pieces (kept ++ whole pieces tail ++ more) =
      cutOwned key pieces (kept ++ whole pieces tail) ++ more := by
  induction pieces generalizing kept with
  | nil => rfl
  | cons piece pieces inductionHypothesis =>
    have shape : kept ++ whole (piece :: pieces) tail =
        kept ++ piece.gap ++ piece.body ++ whole pieces tail := by
      simp [whole, Piece.all]
    rw [shape, cutOwned, cutOwned]
    by_cases owned : piece.owned = true
    · -- the body is found in the part up to its own place
      obtain ⟨index, _, found⟩ : ∃ index ≤ (kept ++ piece.gap).length, find (piece.body.map key)
          ((kept ++ piece.gap ++ piece.body).map key) = some index :=
        find_le_of_occurs (occurs_own key _ _) (by simp)
      rw [if_pos owned, if_pos owned, List.append_assoc, cutFirst_append key found,
        cutFirst_append key found, ← List.append_assoc]
      exact inductionHypothesis _
    · rw [if_neg owned, if_neg owned]
      exact inductionHypothesis _

theorem cutOwned_concat (pieces : List (Piece γ)) (piece : Piece γ) (forward : List γ) :
    cutOwned key (pieces ++ [piece]) forward =
      if piece.owned then cutFirst key (piece.body.map key) (cutOwned key pieces forward)
      else cutOwned key pieces forward := by
  induction pieces generalizing forward with
  | nil => rfl
  | cons first pieces inductionHypothesis => exact inductionHypothesis _

theorem cutOwned_pieces_append (pieces later : List (Piece γ)) (forward : List γ) :
    cutOwned key (pieces ++ later) forward = cutOwned key later (cutOwned key pieces forward) := by
  induction pieces generalizing forward with
  | nil => rfl
  | cons first pieces inductionHypothesis => exact inductionHypothesis _

/-- A cut takes a whole body away exactly if it finds the body at its own place. -/
theorem cutFirst_takes_iff (before body more : List γ) (nonempty : body ≠ [])
    (distinct : (before ++ body ++ more).Nodup) :
    (∀ element ∈ body, element ∉ cutFirst key (body.map key) (before ++ body ++ more)) ↔
      find (body.map key) ((before ++ body).map key) = some before.length := by
  constructor
  · intro taken
    obtain ⟨index, bound, found⟩ := find_le_of_occurs (occurs_own key before body) (by simp)
    rcases Nat.lt_or_eq_of_le bound with early | rfl
    · -- the last element of the body comes after the stretch that is deleted
      refine absurd ?_ (taken _ (List.getLast_mem nonempty))
      rw [cutFirst_append key found, cutFirst, found]
      refine List.mem_append_left _ (List.mem_append_right _ ?_)
      have positive := List.length_pos_iff.mpr nonempty
      have remains : (before ++ body).drop (index + (body.map key).length) ≠ [] := by
        rw [Ne, List.drop_eq_nil_iff, List.length_map, List.length_append]
        omega
      have last : ((before ++ body).drop (index + (body.map key).length)).getLast remains =
          body.getLast nonempty := by
        rw [List.getLast_drop, List.getLast_append_of_ne_nil _ nonempty]
      rw [← last]
      exact List.getLast_mem _
    · exact found
  · intro own element member gone
    rw [cutFirst_own key before body more own] at gone
    rw [List.append_assoc, List.nodup_append, List.nodup_append] at distinct
    obtain ⟨_, ⟨_, _, apartLater⟩, apartBefore⟩ := distinct
    rcases List.mem_append.mp gone with early | late
    · exact apartBefore _ early _ (List.mem_append_left _ member) rfl
    · exact apartLater _ member _ late rfl

/-- **A piece is taken away** by its own cut exactly if it is owned, and is not found earlier in
what the cuts before it have left. -/
theorem cutOwned_takes_iff (pieces : List (Piece γ)) (piece : Piece γ) (more : List γ)
    (nonempty : piece.body ≠ []) (distinct : (whole (pieces ++ [piece]) more).Nodup) :
    let before := cutOwned key pieces (whole pieces piece.gap)
    (∀ element ∈ piece.body,
      element ∉ cutOwned key (pieces ++ [piece]) (whole (pieces ++ [piece]) more)) ↔
      piece.owned = true ∧
        find (piece.body.map key) ((before ++ piece.body).map key) = some before.length := by
  intro before
  have shape : whole (pieces ++ [piece]) more =
      whole pieces piece.gap ++ (piece.body ++ more) := by
    simp [whole, Piece.all]
  have left : cutOwned key pieces (whole (pieces ++ [piece]) more) =
      before ++ piece.body ++ more := by
    have kept := cutOwned_append key [] pieces piece.gap (piece.body ++ more)
    rw [List.nil_append] at kept
    rw [shape, kept, List.append_assoc]
  rw [cutOwned_concat, left]
  have stillDistinct : (before ++ piece.body ++ more).Nodup := by
    rw [← left]
    exact distinct.sublist (cutOwned_sublist key _ _)
  by_cases owned : piece.owned = true
  · rw [if_pos owned, cutFirst_takes_iff key before piece.body more nonempty stillDistinct]
    exact (and_iff_right owned).symm
  · rw [if_neg owned]
    refine iff_of_false (fun taken => ?_) fun claimed => owned claimed.1
    obtain ⟨element, rest, isBody⟩ := List.exists_cons_of_ne_nil nonempty
    exact taken element (by rw [isBody]; exact List.mem_cons_self) (by simp [isBody])

/-- Cutting commutes with forgetting everything but the keys. -/
theorem cutOwned_map (pieces : List (Piece γ)) (forward : List γ) :
    (cutOwned key pieces forward).map key =
      cutOwned id (pieces.map fun piece => ⟨piece.gap.map key, piece.body.map key, piece.owned⟩)
        (forward.map key) := by
  induction pieces generalizing forward with
  | nil => rfl
  | cons piece pieces inductionHypothesis =>
    rw [cutOwned, inductionHypothesis, List.map_cons, cutOwned]
    congr 1
    by_cases owned : piece.owned = true
    · simp only [owned, if_true, cutFirst, List.map_id]
      split <;> simp
    · simp [owned]

/-- What is found depends on the keys only. -/
theorem unshadowed_map (kept : List γ) (pieces : List (Piece γ)) :
    Unshadowed key kept pieces ↔
      Unshadowed id (kept.map key)
        (pieces.map fun piece => ⟨piece.gap.map key, piece.body.map key, piece.owned⟩) := by
  induction pieces generalizing kept with
  | nil => exact Iff.rfl
  | cons piece pieces inductionHypothesis =>
    have later := inductionHypothesis (kept ++ piece.kept)
    have keeps : (kept ++ piece.kept).map key = kept.map key ++
        Piece.kept ⟨piece.gap.map key, piece.body.map key, piece.owned⟩ := by
      cases owned : piece.owned <;> simp [Piece.kept, owned]
    rw [keeps] at later
    rw [Unshadowed, later, List.map_cons, Unshadowed]
    simp

/-- **Search and cut removes the owned places, and no others, exactly when nothing is
shadowed.** -/
theorem cutOwned_placed_iff (pieces : List (Piece α)) (tail : List α)
    (nonempty : ∀ piece ∈ pieces, piece.body ≠ []) :
    cutOwned Prod.fst (placed 0 pieces) (whole pieces tail).zipIdx =
        exact (placed 0 pieces) (tail.zipIdx (pieces.map Piece.all).flatten.length) ↔
      Unshadowed id [] pieces := by
  have joined := whole_placed 0 pieces tail
  rw [Nat.zero_add] at joined
  have distinct : ([] ++ whole (placed 0 pieces)
      (tail.zipIdx (pieces.map Piece.all).flatten.length)).Nodup := by
    rw [joined, List.nil_append]
    refine List.Nodup.of_map Prod.snd ?_
    rw [List.zipIdx_map_snd]
    exact List.nodup_range'
  have cut := cutOwned_eq_exact_iff Prod.fst [] (placed 0 pieces) _
    (placed_nonempty 0 nonempty) distinct
  rw [List.nil_append, List.nil_append, joined, unshadowed_map, placed_map] at cut
  exact cut

/-- The elements search and cut leaves are those of the places it leaves. -/
theorem cutOwned_places (pieces : List (Piece α)) (forward : List α) :
    (cutOwned Prod.fst (placed 0 pieces) forward.zipIdx).map Prod.fst =
      cutOwned id pieces forward := by
  rw [cutOwned_map, placed_map, List.zipIdx_map_fst]

/-- **The places of a piece are taken away** by its own cut exactly if it is owned, and does not
occur earlier in what the cuts before it have left. -/
theorem placed_takes_iff (pieces : List (Piece α)) (piece : Piece α) (more : List α)
    (nonempty : piece.body ≠ []) :
    let before := cutOwned id pieces (whole pieces piece.gap)
    (∀ place ∈ piece.body.zipIdx (whole pieces piece.gap).length,
      place ∉ cutOwned Prod.fst (placed 0 (pieces ++ [piece]))
        (whole (pieces ++ [piece]) more).zipIdx) ↔
      piece.owned = true ∧ find piece.body (before ++ piece.body) = some before.length := by
  intro before
  have start : (whole pieces piece.gap).length =
      (pieces.map Piece.all).flatten.length + piece.gap.length := by
    rw [whole, List.length_append]
  let last : Piece (α × Nat) := ⟨piece.gap.zipIdx (pieces.map Piece.all).flatten.length,
    piece.body.zipIdx (whole pieces piece.gap).length, piece.owned⟩
  have places : placed 0 (pieces ++ [piece]) = placed 0 pieces ++ [last] := by
    rw [placed_append, Nat.zero_add, placed, placed, ← start]
  have joined := whole_placed 0 (pieces ++ [piece]) more
  rw [places] at joined ⊢
  -- equal elements have different places
  have distinct : (whole (placed 0 pieces ++ [last]) (more.zipIdx
      (0 + ((pieces ++ [piece]).map Piece.all).flatten.length))).Nodup := by
    rw [joined]
    refine List.Nodup.of_map Prod.snd ?_
    rw [List.zipIdx_map_snd]
    exact List.nodup_range'
  have bodyPlaced : last.body ≠ [] := mt List.zipIdx_eq_nil_iff.mp nonempty
  have taken := cutOwned_takes_iff Prod.fst (placed 0 pieces) last _ bodyPlaced distinct
  -- forgetting the places gives back what the cuts before it have left
  have front := whole_placed 0 pieces piece.gap
  rw [Nat.zero_add] at front
  have lastBody : last.body.map Prod.fst = piece.body := List.zipIdx_map_fst ..
  have left : (cutOwned Prod.fst (placed 0 pieces) (whole (placed 0 pieces) last.gap)).map
      Prod.fst = before := by
    rw [front, cutOwned_places]
  have leftLength : (cutOwned Prod.fst (placed 0 pieces)
      (whole (placed 0 pieces) last.gap)).length = before.length := by
    rw [← left, List.length_map]
  rw [joined] at taken
  dsimp only at taken
  rw [List.map_append, lastBody, left, leftLength] at taken
  exact taken

end Splicing
