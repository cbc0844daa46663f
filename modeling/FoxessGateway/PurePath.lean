import FoxessGateway.Python

/-! # POSIX paths

The pure paths of `pathlib`: a path is a root and the components after it. -/

namespace FoxessGateway

/-- How a path begins.  POSIX leaves two slashes to the implementation; more are as one. -/
inductive PathRoot where
  | relative
  | single
  | double
  deriving DecidableEq, Repr

@[ext] structure PurePath where
  root : PathRoot
  components : List Text
  proper : ∀ component ∈ components, component ≠ [] ∧ '/' ∉ component

/-- Where a text is split, the separator is not in the pieces. -/
theorem not_mem_of_mem_splitOn {separator : Char} {text piece : Text}
    (member : piece ∈ text.splitOn separator) : separator ∉ piece := by
  induction text generalizing piece with
  | nil =>
    rw [List.splitOn_nil, List.mem_singleton] at member
    rw [member]
    exact List.not_mem_nil
  | cons first text inductionHypothesis =>
    rw [List.splitOn_cons_eq_if_modifyHead] at member
    split at member
    · rcases List.mem_cons.mp member with rfl | later
      · exact List.not_mem_nil
      · exact inductionHypothesis later
    · rename_i differs
      cases pieces : text.splitOn separator with
      | nil => exact absurd pieces (List.splitOn_ne_nil _ _)
      | cons head tail =>
        rw [pieces, List.modifyHead_cons] at member
        rcases List.mem_cons.mp member with rfl | later
        · have headFree := inductionHypothesis (pieces ▸ List.mem_cons_self)
          intro among
          rcases List.mem_cons.mp among with same | inHead
          · exact differs (beq_iff_eq.mpr same.symm)
          · exact headFree inHead
        · exact inductionHypothesis (pieces ▸ List.mem_cons_of_mem _ later)

namespace PurePath

/-- `PurePosixPath(text)` -/
def parse (text : Text) : PurePath where
  root :=
    match (text.takeWhile (· = '/')).length with
    | 0 => .relative
    | 2 => .double
    | _ => .single
  components := (text.splitOn '/').filter fun part => part ≠ [] ∧ part ≠ ['.']
  proper := by
    intro component member
    obtain ⟨isPiece, kept⟩ := List.mem_filter.mp member
    exact ⟨(decide_eq_true_iff.mp kept).1, not_mem_of_mem_splitOn isPiece⟩

variable (path : PurePath)

/-- `path / key` -/
def join (key : Text) : PurePath :=
  let other := parse key
  if other.root ≠ .relative then other
  else {
    root := path.root
    components := path.components ++ other.components
    proper := by
      intro component member
      rcases List.mem_append.mp member with own | later
      · exact path.proper component own
      · exact other.proper component later }

/-- `path.name` -/
def name : Text := path.components.getLast?.getD []

/-- `text.rfind(".")` -/
def lastDot (text : Text) : Option Nat :=
  (text.reverse.idxOf? '.').map fun fromEnd => text.length - 1 - fromEnd

/-- `path.suffix` -/
def suffix : Text :=
  match lastDot path.name with
  | some place => if 0 < place ∧ place < path.name.length - 1 then path.name.drop place else []
  | none => []

/-- The path with another last component. -/
def renamed (name : Text) (valid : name ≠ [] ∧ '/' ∉ name) : PurePath where
  root := path.root
  components := path.components.dropLast ++ [name]
  proper := by
    intro component member
    rcases List.mem_append.mp member with own | last
    · exact path.proper component ((List.dropLast_subset _) own)
    · exact List.mem_singleton.mp last ▸ valid

/-- `path.with_name(name)`; a name with a separator is none. -/
def withName (name : Text) : Except PyError PurePath :=
  if path.name = [] then .error (.valueError "path has an empty name")
  else if valid : (name ≠ [] ∧ '/' ∉ name) ∧ name ≠ ['.'] then .ok (path.renamed name valid.1)
  else .error (.valueError "Invalid name")

theorem lastDot_spec {text : Text} {place : Nat} (found : lastDot text = some place) :
    text[place]? = some '.' := by
  obtain ⟨fromEnd, isDot, rfl⟩ := Option.map_eq_some_iff.mp found
  obtain ⟨bound, atEnd, _⟩ := List.idxOf?_eq_some_iff.mp isDot
  rw [List.length_reverse] at bound
  rw [List.getElem_reverse] at atEnd
  rw [List.getElem?_eq_getElem (by omega), atEnd]

/-- A suffix begins with a dot, which is neither the first character of the name nor the last. -/
theorem suffix_cases : path.suffix = [] ∨ ∃ place, 0 < place ∧ place < path.name.length ∧
    path.name[place]? = some '.' ∧ path.suffix = path.name.drop place := by
  rw [suffix]
  cases found : lastDot path.name with
  | none => exact .inl rfl
  | some place =>
    by_cases inside : 0 < place ∧ place < path.name.length - 1
    · exact .inr ⟨place, inside.1, by omega, lastDot_spec found, if_pos inside⟩
    · exact .inl (if_neg inside)

/-- `path.stem` -/
def stem : Text := path.name.take (path.name.length - path.suffix.length)

theorem stem_append_suffix : path.stem ++ path.suffix = path.name := by
  rw [stem]
  obtain none | ⟨place, _, inside, _, isSuffix⟩ := path.suffix_cases
  · rw [none, List.length_nil, Nat.sub_zero, List.take_length, List.append_nil]
  · rw [isSuffix, List.length_drop, show path.name.length - (path.name.length - place) = place by
      omega, List.take_append_drop]

theorem stem_ne_nil (named : path.name ≠ []) : path.stem ≠ [] := by
  have whole := path.stem_append_suffix
  obtain none | ⟨place, positive, inside, _, isSuffix⟩ := path.suffix_cases
  · rw [none, List.append_nil] at whole
    rwa [whole]
  · intro nothing
    have width := congrArg List.length whole
    rw [nothing, List.nil_append, isSuffix, List.length_drop] at width
    omega

theorem suffix_head (some : path.suffix ≠ []) : path.suffix.head? = .some '.' := by
  obtain none | ⟨place, _, inside, isDot, isSuffix⟩ := path.suffix_cases
  · exact absurd none some
  · rw [isSuffix, List.head?_drop]
    exact isDot

theorem name_noSlash : '/' ∉ path.name := by
  rw [name]
  cases last : path.components.getLast? with
  | none => exact List.not_mem_nil
  | some component => exact (path.proper component (List.mem_of_getLast? last)).2

theorem stem_noSlash : '/' ∉ path.stem := fun member =>
  path.name_noSlash (path.stem_append_suffix ▸ List.mem_append_left _ member)

/-- `path.with_suffix(suffix)` -/
def withSuffix (suffix : Text) : Except PyError PurePath :=
  if slash : '/' ∈ suffix then .error (.valueError "Invalid suffix")
  else if suffix ≠ [] ∧ suffix.head? ≠ some '.' ∨ suffix = ['.'] then
    .error (.valueError "Invalid suffix")
  else if named : path.name = [] then .error (.valueError "path has an empty name")
  else .ok (path.renamed (path.stem ++ suffix) ⟨
    fun nothing => path.stem_ne_nil named (List.append_eq_nil_iff.mp nothing).1,
    fun member => (List.mem_append.mp member).elim path.stem_noSlash slash⟩)

/-- An extension after the suffix that a path has. -/
theorem withSuffix_append {name extension : Text} (isName : path.name = name) (some : name ≠ [])
    (noSlash : '/' ∉ extension) (dotted : extension.head? = .some '.')
    (long : 1 < extension.length) (valid : name ++ extension ≠ [] ∧ '/' ∉ name ++ extension) :
    path.withSuffix (path.suffix ++ extension) = .ok (path.renamed (name ++ extension) valid) := by
  subst isName
  have slash : '/' ∉ path.suffix ++ extension := by
    intro member
    rcases List.mem_append.mp member with own | added
    · exact path.name_noSlash (path.stem_append_suffix ▸ List.mem_append_right _ own)
    · exact noSlash added
  have head : (path.suffix ++ extension).head? = .some '.' := by
    by_cases none : path.suffix = []
    · rw [none, List.nil_append, dotted]
    · rw [List.head?_append, path.suffix_head none, Option.some_or]
  -- a lone dot is no suffix, and the extension is longer
  have notDot : path.suffix ++ extension ≠ ['.'] := by
    intro same
    have width := congrArg List.length same
    rw [List.length_append, List.length_singleton] at width
    omega
  have sameName : path.stem ++ (path.suffix ++ extension) = path.name ++ extension := by
    rw [← List.append_assoc, stem_append_suffix]
  rw [withSuffix, dif_neg slash, if_neg (by
    rintro (⟨_, headless⟩ | isDot)
    · exact headless head
    · exact notDot isDot), dif_neg some]
  simp only [sameName]

/-! ## Entries of a directory -/

/-- The path is that of the entry of the directory. -/
structure IsEntry (directory : PurePath) (entry : Text) (path : PurePath) : Prop where
  root : path.root = directory.root
  components : path.components = directory.components ++ [entry]

/-- A name that a file of a directory can have. -/
structure IsFilename (name : Text) : Prop where
  nonempty : name ≠ []
  noSlash : '/' ∉ name
  notDot : name ≠ ['.']
  notDots : name ≠ ['.', '.']

theorem IsFilename.append {name extension : Text} (isFilename : IsFilename name)
    (noSlash : '/' ∉ extension) (long : 1 < extension.length) : IsFilename (name ++ extension) := by
  have nonempty := List.length_pos_iff.mpr isFilename.nonempty
  have width : 2 < (name ++ extension).length := by
    rw [List.length_append]
    omega
  have longer : ∀ other : Text, other.length ≤ 2 → name ++ extension ≠ other := by
    rintro other short rfl
    omega
  exact {
    nonempty := longer [] (by decide)
    noSlash := fun member => (List.mem_append.mp member).elim isFilename.noSlash noSlash
    notDot := longer ['.'] (by decide)
    notDots := longer ['.', '.'] (by decide) }

/-- The path is that of a file which the directory itself holds. -/
def IsChildOf (path directory : PurePath) : Prop :=
  ∃ name, IsEntry directory name path ∧ IsFilename name

theorem parse_filename {name : Text} (isFilename : IsFilename name) :
    (parse name).root = .relative ∧ (parse name).components = [name] := by
  have noSlash := isFilename.noSlash
  constructor
  · rw [parse]
    cases name with
    | nil => rfl
    | cons first name =>
      have notFirst : first ≠ '/' := fun same => noSlash (same ▸ List.mem_cons_self)
      rw [List.takeWhile_cons, if_neg (by simp [notFirst])]
      rfl
  · rw [parse]
    simp [List.splitOn_eq_singleton noSlash, isFilename.nonempty, isFilename.notDot]

theorem join_isEntry (directory : PurePath) {name : Text} (isFilename : IsFilename name) :
    IsEntry directory name (directory.join name) := by
  obtain ⟨root, components⟩ := parse_filename isFilename
  rw [join, if_neg (not_not.mpr root)]
  exact ⟨rfl, congrArg _ components⟩

namespace IsEntry

variable {directory path : PurePath} {entry : Text}

theorem name (isEntry : IsEntry directory entry path) : path.name = entry := by
  rw [PurePath.name, isEntry.components, List.getLast?_concat]
  rfl

theorem renamed (isEntry : IsEntry directory entry path) (name : Text)
    (valid : name ≠ [] ∧ '/' ∉ name) : IsEntry directory name (path.renamed name valid) where
  root := isEntry.root
  components := by
    change path.components.dropLast ++ [name] = _
    rw [isEntry.components, List.dropLast_concat]

/-- Entries of two names are two paths. -/
theorem entry_eq {other : Text} (isEntry : IsEntry directory entry path)
    (isOther : IsEntry directory other path) : entry = other := by
  rw [← isEntry.name, isOther.name]

theorem path_eq {other : PurePath} (isEntry : IsEntry directory entry path)
    (isOther : IsEntry directory entry other) : path = other :=
  PurePath.ext (isEntry.root.trans isOther.root.symm)
    (isEntry.components.trans isOther.components.symm)

end IsEntry

/-- `str(path)` -/
def text : Text :=
  let root := match path.root with
    | .relative => []
    | .single => ['/']
    | .double => ['/', '/']
  let whole := root ++ ['/'].intercalate path.components
  if whole = [] then ['.'] else whole

/-! ## Writing and reading -/

theorem splitOn_slash (text : Text) : ('/' :: text).splitOn '/' = [] :: text.splitOn '/' := by
  rw [List.splitOn_cons_eq_if_modifyHead, if_pos (by simp)]

/-- The components between slashes, without those that mean nothing. -/
theorem components_intercalate {components : List Text}
    (proper : ∀ component ∈ components, component ≠ [] ∧ '/' ∉ component)
    (noDot : ['.'] ∉ components) :
    ((['/'].intercalate components).splitOn '/').filter (fun part => part ≠ [] ∧ part ≠ ['.']) =
      components := by
  cases components with
  | nil => decide
  | cons first later =>
    rw [List.splitOn_intercalate '/' (fun component member => (proper component member).2)
      (List.cons_ne_nil _ _)]
    refine List.filter_eq_self.mpr fun component member => decide_eq_true ?_
    exact ⟨(proper component member).1, fun isDot => noDot (isDot ▸ member)⟩

/-- A relative path does not begin with a slash. -/
theorem intercalate_head {components : List Text}
    (proper : ∀ component ∈ components, component ≠ [] ∧ '/' ∉ component) :
    (['/'].intercalate components).takeWhile (· = '/') = [] := by
  cases components with
  | nil => rfl
  | cons first later =>
    obtain ⟨nonempty, noSlash⟩ := proper first List.mem_cons_self
    cases first with
    | nil => exact absurd rfl nonempty
    | cons char first =>
      have differs : char ≠ '/' := fun same => noSlash (same ▸ List.mem_cons_self)
      cases later <;> simp [List.intercalate, List.intersperse, differs]

/-- A path that is written and read again is the same path, where no component is a lone dot. -/
theorem parse_text (path : PurePath) (noDot : ['.'] ∉ path.components) :
    parse path.text = path := by
  obtain ⟨root, components, proper⟩ := path
  have heads := intercalate_head proper
  have inside := components_intercalate proper noDot
  rw [text]
  cases root with
  | relative =>
    dsimp only
    rw [List.nil_append]
    by_cases nothing : ['/'].intercalate components = []
    · rw [if_pos nothing]
      rw [nothing] at inside
      exact PurePath.ext rfl inside
    · rw [if_neg nothing]
      refine PurePath.ext ?_ inside
      rw [parse]
      dsimp only
      rw [heads]
      rfl
  | single =>
    dsimp only
    rw [if_neg (by simp)]
    refine PurePath.ext ?_ ?_
    · rw [parse]
      dsimp only
      rw [List.cons_append, List.nil_append, List.takeWhile_cons, if_pos (by simp), heads]
      rfl
    · rw [parse]
      dsimp only
      rw [List.cons_append, List.nil_append, splitOn_slash, List.filter_cons, if_neg (by simp)]
      exact inside
  | double =>
    dsimp only
    rw [if_neg (by simp)]
    refine PurePath.ext ?_ ?_
    · rw [parse]
      dsimp only
      rw [List.cons_append, List.cons_append, List.nil_append, List.takeWhile_cons,
        if_pos (by simp), List.takeWhile_cons, if_pos (by simp), heads]
      rfl
    · rw [parse]
      dsimp only
      rw [List.cons_append, List.cons_append, List.nil_append, splitOn_slash, splitOn_slash,
        List.filter_cons, if_neg (by simp), List.filter_cons, if_neg (by simp)]
      exact inside

end PurePath

end FoxessGateway
