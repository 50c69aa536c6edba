/-!
# Paths

A path is a text with slashes.  Its parts are the texts between the slashes; empty
parts do not count, nor does a single dot unless it is the first part of a relative
path.
-/

namespace CodeGraph.Path

/-- The pieces of a path between slashes, with the position after each. -/
private def pieces (position : Nat) (current : List Char) :
    List Char → List (List Char × Nat)
  | [] => [(current.reverse, position)]
  | '/' :: rest => (current.reverse, position) :: pieces (position + 1) [] rest
  | char :: rest => pieces (position + 1) (char :: current) rest

def isAbsolute (path : String) : Bool := path.toList.head? == some '/'

/-- The parts of a path that count, with the position after each. -/
private def countedPieces (path : String) : List (List Char × Nat) :=
  match pieces 0 [] path.toList with
  | [] => []
  | first :: rest =>
      let counts := fun (piece : List Char × Nat) => !piece.1.isEmpty && piece.1 != ['.']
      let leading := !first.1.isEmpty
      (if leading then [first] else []) ++ rest.filter counts

def parts (path : String) : List String :=
  (countedPieces path).map fun piece => String.ofList piece.1

/-- The path without its last part, if it has one. -/
def parent? (path : String) : Option String :=
  match (countedPieces path).reverse with
  | [] => none
  | [_] => some (if isAbsolute path then "/" else "")
  | _ :: (_, position) :: _ => some (String.ofList (path.toList.take position))

/-- The last part of a path, unless it leads to the directory itself or above it. -/
def fileName? (path : String) : Option String :=
  match (parts path).getLast? with
  | some "." => none
  | some ".." => none
  | last => last

/-- A file name in front of its last dot and after it; a dot at the start does not
count. -/
def splitName (name : String) : String × Option String :=
  let reversed := name.toList.reverse
  let after := (reversed.takeWhile (· != '.')).reverse
  match reversed.dropWhile (· != '.') with
  | _ :: second :: before =>
      (String.ofList (second :: before).reverse, some (String.ofList after))
  | _ => (name, none)

/-- What follows the last dot of the file name. -/
def extension? (path : String) : Option String :=
  (fileName? path).bind fun name => (splitName name).2

def withExtension (path extension : String) : String :=
  match fileName? path, (countedPieces path).getLast? with
  | some name, some (piece, position) =>
      let (stem, _) := splitName name
      let kept := position - (piece.length - stem.length)
      String.ofList (path.toList.take kept) ++ "." ++ extension
  | _, _ => path

def join (base path : String) : String :=
  if isAbsolute path then path
  else if base.isEmpty || base.toList.getLast? == some '/' then base ++ path
  else base ++ "/" ++ path

/-! ## A name in a directory -/

/-- A name that is one part of a path, and leads to something in a directory. -/
structure IsPlain (name : String) : Prop where
  undivided : '/' ∉ name.toList
  nonempty : name ≠ ""
  not_here : name ≠ "."
  not_up : name ≠ ".."

private theorem pieces_of_not_mem {name : List Char} (undivided : '/' ∉ name)
    (position : Nat) (current : List Char) :
    pieces position current name = [(current.reverse ++ name, position + name.length)] := by
  induction name generalizing position current with
  | nil => simp [pieces]
  | cons char name induction =>
      rw [List.mem_cons, not_or] at undivided
      have different : char ≠ '/' := Ne.symm undivided.1
      rw [pieces, induction undivided.2]
      · simp only [List.reverse_cons, List.append_assoc, List.singleton_append, List.length_cons]
        congr 2
        omega
      · exact different

private theorem pieces_append (path name : List Char) (position : Nat) (current : List Char) :
    pieces position current (path ++ '/' :: name) =
      pieces position current path ++ pieces (position + path.length + 1) [] name := by
  induction path generalizing position current with
  | nil => simp [pieces]
  | cons char path induction =>
      rw [List.cons_append]
      by_cases slash : char = '/'
      · subst slash
        rw [pieces, pieces, induction, List.cons_append, List.length_cons]
        congr 3
        omega
      · rw [pieces, pieces, induction, List.length_cons]
        · congr 2
          omega
        · exact slash
        · exact slash

variable {name : String}

theorem IsPlain.isAbsolute_eq (plain : IsPlain name) : isAbsolute name = false := by
  rw [isAbsolute, beq_eq_false_iff_ne]
  intro slash
  exact plain.undivided (List.mem_of_head? slash)

/-- What stands in front of a name in a directory. -/
private def stem (base : String) : String :=
  if base.isEmpty || base.toList.getLast? == some '/' then base else base ++ "/"

private theorem join_eq (plain : IsPlain name) (base : String) :
    join base name = stem base ++ name := by
  unfold join stem
  rw [plain.isAbsolute_eq]
  simp only [Bool.false_eq_true, if_false]
  split <;> rfl

theorem exists_join_eq (plain : IsPlain name) (base : String) :
    ∃ before, join base name = before ++ name :=
  ⟨stem base, join_eq plain base⟩

private theorem countedPieces_of_plain (plain : IsPlain name) :
    countedPieces name = [(name.toList, name.toList.length)] := by
  have nonempty : name.toList ≠ [] := by simpa using plain.nonempty
  unfold countedPieces
  rw [pieces_of_not_mem plain.undivided]
  simp [nonempty]

private theorem countedPieces_append {path slashed : String}
    (same : slashed.toList = path.toList ++ '/' :: name.toList) (plain : IsPlain name) :
    countedPieces slashed = countedPieces path ++ [(name.toList, slashed.toList.length)] := by
  have nonempty : name.toList ≠ [] := by simpa using plain.nonempty
  have noDot : name.toList ≠ ['.'] := by
    intro dot
    exact plain.not_here (String.toList_inj.mp dot)
  have length : 0 + path.toList.length + 1 + name.toList.length = slashed.toList.length := by
    rw [same, List.length_append, List.length_cons]
    omega
  unfold countedPieces
  rw [same, pieces_append, pieces_of_not_mem plain.undivided, ← same, length]
  cases pieces 0 [] path.toList with
  | nil => simp [nonempty]
  | cons first rest => simp [nonempty, noDot]

private theorem countedPieces_slash {path slashed : String}
    (same : slashed.toList = path.toList ++ ['/']) :
    countedPieces slashed = countedPieces path := by
  unfold countedPieces
  rw [same, pieces_append]
  cases pieces 0 [] path.toList with
  | nil => simp [pieces]
  | cons first rest => simp [pieces]

private theorem countedPieces_join (plain : IsPlain name) (base : String) :
    countedPieces (join base name) =
      countedPieces base ++ [(name.toList, (join base name).toList.length)] := by
  rw [join_eq plain]
  unfold stem
  by_cases empty : base = ""
  · subst base
    simpa [countedPieces, pieces] using countedPieces_of_plain plain
  · by_cases slash : base.toList.getLast? = some '/'
    · obtain ⟨before, ends⟩ := List.getLast?_eq_some_iff.mp slash
      have joined : (base ++ name).toList = (String.ofList before).toList ++ '/' :: name.toList := by
        simp [ends]
      have kept : base.toList = (String.ofList before).toList ++ ['/'] := by simp [ends]
      simp only [slash, BEq.rfl, Bool.or_true, if_true]
      rw [countedPieces_append joined plain, countedPieces_slash kept]
    · have joined : (base ++ "/" ++ name).toList = base.toList ++ '/' :: name.toList := by simp
      simp only [empty, slash, String.isEmpty_iff, beq_iff_eq, Bool.or_eq_true, or_self, if_false]
      exact countedPieces_append joined plain

/-- The parts of the path of something in a directory. -/
theorem parts_join (plain : IsPlain name) (base : String) :
    parts (join base name) = parts base ++ [name] := by
  rw [parts, countedPieces_join plain, List.map_append]
  simp [parts]

theorem isAbsolute_join (plain : IsPlain name) (base : String) :
    isAbsolute (join base name) = isAbsolute base := by
  have relative : name.toList.head? ≠ some '/' := by
    intro slash
    exact plain.undivided (List.mem_of_head? slash)
  rw [join_eq plain]
  unfold isAbsolute stem
  by_cases empty : base = ""
  · subst base
    simpa using relative
  · have nonempty : base.toList ≠ [] := by simpa using empty
    split <;> simp [List.head?_append, List.head?_eq_some_head nonempty]

theorem fileName?_join (plain : IsPlain name) (base : String) :
    fileName? (join base name) = some name := by
  unfold fileName?
  rw [parts_join plain, List.getLast?_concat]
  split
  next here => exact absurd (Option.some.inj here) plain.not_here
  next up => exact absurd (Option.some.inj up) plain.not_up
  next => rfl

/-- Another extension makes another name in the same directory. -/
theorem withExtension_join (plain : IsPlain name) (base extension : String)
    (changed : IsPlain ((splitName name).1 ++ "." ++ extension))
    (starts : (splitName name).1.toList <+: name.toList) :
    withExtension (join base name) extension =
      join base ((splitName name).1 ++ "." ++ extension) := by
  obtain ⟨after, cut⟩ := starts
  have long : name.toList.length = (splitName name).1.length + after.length := by
    rw [← cut, List.length_append, String.length_toList]
  have kept : (stem base ++ name).toList.length -
      (name.toList.length - (splitName name).1.length) =
        (stem base).toList.length + (splitName name).1.length := by
    rw [String.toList_append, List.length_append]
    omega
  unfold withExtension
  rw [fileName?_join plain, countedPieces_join plain, List.getLast?_concat, join_eq plain,
    join_eq changed]
  dsimp only
  rw [kept, String.toList_append, List.take_length_add_append, ← cut, ← String.length_toList,
    List.take_left]
  simp [String.append_assoc]

end CodeGraph.Path
