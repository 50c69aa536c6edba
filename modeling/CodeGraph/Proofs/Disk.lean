import CodeGraph.Disk
import Mathlib.Data.List.Induction

/-!
# What is on a disk after a change

On a sound disk everything is in a directory.  Every change is described by what is at
each location afterwards.  As long as no directory is removed, a path keeps leading where
it led, and it leads where its parts say.
-/

namespace CodeGraph

theorem lookup_filter {Key Value : Type} [BEq Key] [LawfulBEq Key] (keep : Key → Bool) (asked : Key)
    (entries : List (Key × Value)) :
    (entries.filter fun entry => keep entry.1).lookup asked =
      if keep asked then entries.lookup asked else none := by
  induction entries with
  | nil => simp
  | cons entry entries induction =>
      obtain ⟨key, value⟩ := entry
      by_cases same : asked = key
      · subst asked
        cases kept : keep key with
        | true => simp [kept]
        | false => simpa [List.filter_cons, kept] using induction
      · have different : (asked == key) = false := by simpa using same
        cases kept : keep key <;>
          simpa [List.filter_cons, kept, List.lookup_cons, different] using induction

namespace Disk

variable {disk after : Disk} {path : String} {location : Location}

theorem hasDirectory_iff : disk.hasDirectory location = true ↔
    disk.at? location = some .directory := by
  simp [hasDirectory]

/-! ## What is at a location -/

@[simp] theorem at?_nil (disk : Disk) : disk.at? [] = some .directory := rfl

theorem at?_put (disk : Disk) (location : Location) (entry : DiskEntry) (asked : Location) :
    (disk.put location entry).at? asked =
      if asked ≠ [] ∧ asked = location then some entry else disk.at? asked := by
  unfold at? put
  cases asked with
  | nil => rfl
  | cons name names =>
      have kept := lookup_filter (fun other => decide (other ≠ location)) (name :: names)
        disk.entries
      by_cases same : name :: names = location
      · subst location
        simp
      · have different : (name :: names == location) = false := by simpa using same
        simpa [List.lookup_cons, different, same] using kept

theorem at?_remove (disk : Disk) (location asked : Location) :
    (disk.remove location).at? asked =
      if asked ≠ [] ∧ location <+: asked then none else disk.at? asked := by
  unfold at? remove
  cases asked with
  | nil => rfl
  | cons name names =>
      have kept := lookup_filter (fun other => !location.isPrefixOf other) (name :: names)
        disk.entries
      have answer : location.isPrefixOf (name :: names) = true ↔ location <+: name :: names :=
        List.isPrefixOf_iff_prefix
      simp only [kept, List.isEmpty_cons, Bool.false_eq_true, if_false]
      cases below : location.isPrefixOf (name :: names) <;> simp [← answer, below]

/-! ## Sound disks -/

/-- Everything is in a directory, and the numbers of new files have not been used. -/
structure Sound (disk : Disk) : Prop where
  inDirectory : ∀ location entry, disk.at? location = some entry →
    disk.at? location.dropLast = some .directory
  numbered : ∀ location number content, disk.at? location = some (.file number content) →
    number < disk.nextFile
  locked : ∀ number ∈ disk.locked, number < disk.nextFile

/-- A disk with nothing on it is sound. -/
theorem sound_empty : Sound {} :=
  ⟨by simp [at?], by simp [at?], by simp⟩

/-- Everything above something is a directory. -/
theorem Sound.above (sound : Disk.Sound disk) {entry : DiskEntry} {name : String}
    {names : List String} (found : disk.at? (location ++ name :: names) = some entry) :
    disk.at? location = some .directory := by
  induction names using List.reverseRecOn generalizing entry with
  | nil =>
      have parent := sound.inDirectory _ _ found
      rwa [List.dropLast_concat] at parent
  | append_singleton names last induction =>
      have parent := sound.inDirectory _ _ found
      rw [← List.cons_append, ← List.append_assoc, List.dropLast_concat] at parent
      exact induction parent

/-- Nothing is below a file. -/
theorem Sound.at?_remove_file (sound : Disk.Sound disk) {number : Nat} {content : List UInt8}
    (file : disk.at? location = some (.file number content)) (asked : Location) :
    (disk.remove location).at? asked = if asked = location then none else disk.at? asked := by
  have somewhere : location ≠ [] := by
    rintro rfl
    cases file
  rw [at?_remove]
  by_cases same : asked = location
  · simp [same, somewhere]
  · rw [if_neg same]
    split
    next below =>
      obtain ⟨-, rest, rfl⟩ := below
      cases rest with
      | nil => exact absurd (List.append_nil _) same
      | cons name names =>
          cases found : disk.at? (location ++ name :: names) with
          | none => rfl
          | some entry =>
              have directory := sound.above found
              rw [file] at directory
              cases directory
    next => rfl

/-! ## Following paths -/

/-- Every directory stays, and so does the working directory. -/
structure KeepsDirectories (disk after : Disk) : Prop where
  directories : ∀ location, disk.hasDirectory location = true →
    after.hasDirectory location = true
  workingDirectory : after.workingDirectory = disk.workingDirectory

theorem KeepsDirectories.refl (disk : Disk) : KeepsDirectories disk disk := ⟨fun _ => id, rfl⟩

theorem KeepsDirectories.trans {between : Disk} (first : KeepsDirectories disk between)
    (second : KeepsDirectories between after) : KeepsDirectories disk after :=
  ⟨fun location here => second.directories location (first.directories location here),
    second.workingDirectory.trans first.workingDirectory⟩

/-- Where a part of a path leads from a directory. -/
def follow (location : Location) (part : String) : Location :=
  if part = "." then location
  else if part = ".." then location.dropLast
  else location ++ [part]

/-- Where the parts of a path lead, if every step starts from a directory. -/
def resolve (disk : Disk) (path : String) : Location :=
  (Path.parts path).foldl follow (if Path.isAbsolute path then [] else disk.workingDirectory)

theorem step_eq_some_iff {part : String} {next : Location} :
    disk.step location part = some next ↔
      disk.hasDirectory location = true ∧ follow location part = next := by
  unfold step follow
  cases disk.hasDirectory location with
  | false => simp
  | true =>
      simp only [Bool.not_true, Bool.false_eq_true, if_false, true_and]
      rw [← apply_ite some, ← apply_ite some, Option.some.injEq]

theorem locate?_of_keeps (keeps : KeepsDirectories disk after)
    (found : disk.locate? path = some location) : after.locate? path = some location := by
  have steps : ∀ (parts : List String) (start : Location),
      parts.foldlM disk.step start = some location →
      parts.foldlM after.step start = some location := by
    intro parts
    induction parts with
    | nil => exact fun _ => id
    | cons part parts induction =>
        intro start passed
        rw [List.foldlM_cons] at passed ⊢
        obtain ⟨next, first, rest⟩ := Option.bind_eq_some_iff.mp passed
        obtain ⟨directory, same⟩ := step_eq_some_iff.mp first
        have stepped := step_eq_some_iff.mpr ⟨keeps.directories start directory, same⟩
        exact Option.bind_eq_some_iff.mpr ⟨next, stepped, induction next rest⟩
  unfold locate? at found ⊢
  rw [keeps.workingDirectory]
  split at found
  · cases found
  next nonempty =>
    rw [if_neg nonempty]
    exact steps _ _ found

theorem resolve_of_locate? (found : disk.locate? path = some location) :
    disk.resolve path = location := by
  have steps : ∀ (parts : List String) (start : Location),
      parts.foldlM disk.step start = some location → parts.foldl follow start = location := by
    intro parts
    induction parts with
    | nil => exact fun _ => Option.some.inj
    | cons part parts induction =>
        intro start passed
        rw [List.foldlM_cons] at passed
        obtain ⟨next, first, rest⟩ := Option.bind_eq_some_iff.mp passed
        obtain ⟨-, same⟩ := step_eq_some_iff.mp first
        rw [List.foldl_cons, same]
        exact induction next rest
  unfold locate? at found
  split at found
  · cases found
  · exact steps _ _ found

theorem KeepsDirectories.resolve (keeps : KeepsDirectories disk after) (path : String) :
    after.resolve path = disk.resolve path := by
  unfold Disk.resolve
  rw [keeps.workingDirectory]

/-- Something in the directory that a path leads to. -/
theorem resolve_join {name : String} (plain : Path.IsPlain name) (disk : Disk) (base : String) :
    disk.resolve (Path.join base name) = disk.resolve base ++ [name] := by
  unfold resolve
  rw [Path.parts_join plain, Path.isAbsolute_join plain, List.foldl_append, List.foldl_cons,
    List.foldl_nil, follow, if_neg plain.not_here, if_neg plain.not_up]

/-! ## Files -/

theorem fileLocation?_eq_some_iff :
    disk.fileLocation? path = some location ↔
      disk.locate? path = some location ∧ asksDirectory path = false ∧
        disk.hasDirectory location = false ∧ disk.hasDirectory location.dropLast = true := by
  unfold fileLocation?
  cases disk.locate? path with
  | none => simp
  | some found => grind

theorem find?_eq_file_iff {number : Nat} {content : List UInt8} :
    disk.find? path = some (.file number content) ↔
      asksDirectory path = false ∧ ∃ location, disk.locate? path = some location ∧
        disk.at? location = some (.file number content) := by
  rw [← Option.bind_eq_some_iff]
  unfold find?
  cases found : (disk.locate? path).bind disk.at? with
  | none => simp
  | some entry =>
      cases entry with
      | directory => simp
      | file other bytes => cases asksDirectory path <;> simp

/-! ## Putting a file -/

/-- Afterwards a file is at a location where no directory was, and all else is as before. -/
structure PutsFile (disk : Disk) (location : Location) (number : Nat) (content : List UInt8)
    (after : Disk) : Prop where
  free : disk.hasDirectory location = false
  parent : disk.hasDirectory location.dropLast = true
  at?_eq : ∀ asked, after.at? asked =
    if asked = location then some (.file number content) else disk.at? asked
  locked : after.locked = disk.locked
  nextFile : disk.nextFile ≤ after.nextFile
  numbered : number < after.nextFile
  workingDirectory : after.workingDirectory = disk.workingDirectory

namespace PutsFile

variable {number : Nat} {content : List UInt8}

theorem at?_self (puts : PutsFile disk location number content after) :
    after.at? location = some (.file number content) := by
  rw [puts.at?_eq, if_pos rfl]

theorem at?_of_ne (puts : PutsFile disk location number content after) {asked : Location}
    (different : asked ≠ location) : after.at? asked = disk.at? asked := by
  rw [puts.at?_eq, if_neg different]

theorem at?_of_directory (puts : PutsFile disk location number content after) {asked : Location}
    (directory : disk.at? asked = some .directory) : after.at? asked = some .directory := by
  rw [puts.at?_of_ne, directory]
  rintro rfl
  have free := puts.free
  rw [hasDirectory_iff.mpr directory] at free
  cases free

theorem keeps (puts : PutsFile disk location number content after) :
    KeepsDirectories disk after :=
  ⟨fun _ here => hasDirectory_iff.mpr (puts.at?_of_directory (hasDirectory_iff.mp here)),
    puts.workingDirectory⟩

theorem sound (puts : PutsFile disk location number content after) (sound : Disk.Sound disk) :
    Disk.Sound after where
  inDirectory := by
    intro asked entry found
    apply puts.at?_of_directory
    by_cases same : asked = location
    · exact same ▸ hasDirectory_iff.mp puts.parent
    · exact sound.inDirectory asked entry (puts.at?_of_ne same ▸ found)
  numbered := by
    intro asked other bytes found
    by_cases same : asked = location
    · rw [same, puts.at?_self] at found
      cases found
      exact puts.numbered
    · have earlier := sound.numbered asked other bytes (puts.at?_of_ne same ▸ found)
      exact Nat.lt_of_lt_of_le earlier puts.nextFile
  locked := by
    rw [puts.locked]
    exact fun number member => Nat.lt_of_lt_of_le (sound.locked number member) puts.nextFile

end PutsFile

private theorem putsFile_put (number : Nat) (content : List UInt8) {nextFile : Nat}
    (free : disk.hasDirectory location = false)
    (parent : disk.hasDirectory location.dropLast = true) (later : disk.nextFile ≤ nextFile)
    (numbered : number < nextFile) :
    PutsFile disk location number content
      { disk.put location (.file number content) with nextFile } where
  free := free
  parent := parent
  at?_eq := by
    intro asked
    have put := at?_put disk location (.file number content) asked
    have somewhere : location ≠ [] := by
      rintro rfl
      cases free
    by_cases same : asked = location
    · rw [if_pos ⟨same ▸ somewhere, same⟩] at put
      rw [if_pos same]
      exact put
    · rw [if_neg fun both => same both.2] at put
      rw [if_neg same]
      exact put
  locked := rfl
  nextFile := later
  numbered := numbered
  workingDirectory := rfl

/-- Writing keeps the number of a file, and gives a new file a new number. -/
theorem Sound.putsFile_of_write (sound : Disk.Sound disk) {content : List UInt8}
    (written : disk.write path content = some after) :
    ∃ location number, disk.fileLocation? path = some location ∧
      PutsFile disk location number content after ∧
      (∀ old bytes, disk.at? location = some (.file old bytes) → number = old) ∧
      (disk.at? location = none → number = disk.nextFile) := by
  unfold write at written
  split at written
  · cases written
  next location found =>
    obtain ⟨-, -, free, parent⟩ := fileLocation?_eq_some_iff.mp found
    split at written
    next number bytes old =>
      cases written
      have used := sound.numbered location number bytes old
      refine ⟨location, number, found,
        putsFile_put number content free parent (Nat.le_refl _) used, ?_, ?_⟩
      · intro other more file
        rw [old] at file
        cases file
        rfl
      · intro nothing
        rw [old] at nothing
        cases nothing
    next noFile =>
      cases written
      refine ⟨location, disk.nextFile, found,
        putsFile_put disk.nextFile content free parent (Nat.le_succ _) (Nat.lt_succ_self _),
        ?_, ?_⟩
      · intro other more file
        exact absurd file (noFile other more)
      · exact fun _ => rfl

/-! ## Renaming a file -/

theorem Sound.keeps_remove_file (sound : Disk.Sound disk) {number : Nat} {content : List UInt8}
    (file : disk.at? location = some (.file number content)) :
    KeepsDirectories disk (disk.remove location) := by
  refine ⟨?_, rfl⟩
  intro asked directory
  rw [hasDirectory_iff] at directory ⊢
  rw [sound.at?_remove_file file, if_neg, directory]
  rintro rfl
  rw [file] at directory
  cases directory

theorem Sound.remove_file (sound : Disk.Sound disk) {number : Nat} {content : List UInt8}
    (file : disk.at? location = some (.file number content)) :
    Disk.Sound (disk.remove location) where
  inDirectory := by
    intro asked entry found
    rw [sound.at?_remove_file file] at found
    split at found
    · cases found
    · have directory := hasDirectory_iff.mpr (sound.inDirectory asked entry found)
      exact hasDirectory_iff.mp ((sound.keeps_remove_file file).directories _ directory)
  numbered := by
    intro asked other bytes found
    rw [sound.at?_remove_file file] at found
    split at found
    · cases found
    · exact sound.numbered asked other bytes found
  locked := sound.locked

/-- Renaming takes the file away from where it was, and puts it at the target. -/
theorem Sound.putsFile_of_rename (sound : Disk.Sound disk) {source target : String}
    (renamed : disk.rename source target = some after) :
    ∃ before location number content, disk.locate? source = some before ∧
      disk.at? before = some (.file number content) ∧
      disk.fileLocation? target = some location ∧
      PutsFile (disk.remove before) location number content after := by
  unfold rename at renamed
  split at renamed
  next before number content location located found targetFound =>
    cases renamed
    obtain ⟨-, other, otherLocated, file⟩ := find?_eq_file_iff.mp found
    rw [located] at otherLocated
    cases otherLocated
    obtain ⟨-, -, free, parent⟩ := fileLocation?_eq_some_iff.mp targetFound
    have keeps := sound.keeps_remove_file file
    have stillFree : (disk.remove before).hasDirectory location = false := by
      rw [hasDirectory, sound.at?_remove_file file]
      split
      · rfl
      · exact free
    refine ⟨before, location, number, content, located, file, targetFound, ?_⟩
    have used := sound.numbered before number content file
    exact putsFile_put number content stillFree (keeps.directories _ parent) (Nat.le_refl _) used
  next => cases renamed

/-! ## Making directories -/

/-- Nothing changes but that there may be more directories. -/
structure AddsDirectories (disk after : Disk) : Prop where
  kept : ∀ location entry, disk.at? location = some entry → after.at? location = some entry
  added : ∀ location number content, after.at? location = some (.file number content) →
    disk.at? location = some (.file number content)
  inDirectory : ∀ location entry, after.at? location = some entry →
    disk.at? location = some entry ∨ after.at? location.dropLast = some .directory
  locked : after.locked = disk.locked
  nextFile : after.nextFile = disk.nextFile
  workingDirectory : after.workingDirectory = disk.workingDirectory

namespace AddsDirectories

theorem refl (disk : Disk) : AddsDirectories disk disk where
  kept _ _ := id
  added _ _ _ := id
  inDirectory _ _ := .inl
  locked := rfl
  nextFile := rfl
  workingDirectory := rfl

theorem trans {between : Disk} (first : AddsDirectories disk between)
    (second : AddsDirectories between after) : AddsDirectories disk after where
  kept location entry found := second.kept location entry (first.kept location entry found)
  added location number content found :=
    first.added location number content (second.added location number content found)
  inDirectory := by
    intro location entry found
    rcases second.inDirectory location entry found with earlier | directory
    · rcases first.inDirectory location entry earlier with before | directory
      · exact .inl before
      · exact .inr (second.kept _ _ directory)
    · exact .inr directory
  locked := second.locked.trans first.locked
  nextFile := second.nextFile.trans first.nextFile
  workingDirectory := second.workingDirectory.trans first.workingDirectory

theorem keeps (adds : AddsDirectories disk after) : KeepsDirectories disk after :=
  ⟨fun location here => hasDirectory_iff.mpr (adds.kept location _ (hasDirectory_iff.mp here)),
    adds.workingDirectory⟩

theorem sound (adds : AddsDirectories disk after) (sound : Disk.Sound disk) :
    Disk.Sound after where
  inDirectory := by
    intro location entry found
    rcases adds.inDirectory location entry found with before | directory
    · exact adds.kept _ _ (sound.inDirectory location entry before)
    · exact directory
  numbered := by
    intro location number content found
    rw [adds.nextFile]
    exact sound.numbered location number content (adds.added location number content found)
  locked := by
    rw [adds.locked, adds.nextFile]
    exact sound.locked

end AddsDirectories

theorem addsDirectories_of_made (made : disk.makeDirectory path = .made after) :
    AddsDirectories disk after := by
  unfold makeDirectory at made
  split at made
  · split at made <;> cases made
  next location located =>
    split at made
    · cases made
    next vacant =>
      split at made
      next parent =>
        cases made
        have put := at?_put disk location .directory
        have nothing : disk.at? location = none := by simpa using vacant
        have directories : ∀ asked, disk.at? asked = some .directory →
            (disk.put location .directory).at? asked = some .directory := by
          intro asked directory
          rw [put]
          split
          · rfl
          · exact directory
        refine ⟨?_, ?_, ?_, rfl, rfl, rfl⟩
        · intro asked entry found
          rw [put, if_neg, found]
          rintro ⟨-, rfl⟩
          rw [nothing] at found
          cases found
        · intro asked number content found
          rw [put] at found
          split at found
          · cases found
          · exact found
        · intro asked entry found
          rw [put] at found
          split at found
          next here =>
            obtain ⟨-, rfl⟩ := here
            exact .inr (directories _ parent)
          · exact .inl found
      · cases made
      · cases made

private theorem addsDirectories_of_makeWay {fuel : Nat}
    (made : disk.makeWay fuel path = some after) : AddsDirectories disk after := by
  induction fuel generalizing disk after path with
  | zero => cases made
  | succ fuel induction =>
      rw [makeWay] at made
      split at made
      · cases made
        exact .refl disk
      · split at made
        next first =>
          cases made
          exact addsDirectories_of_made first
        · split at made
          · cases made
            exact .refl disk
          · cases made
        · split at made
          · cases made
          · split at made
            · cases made
            next way =>
              have before := induction way
              split at made
              next last =>
                cases made
                exact before.trans (addsDirectories_of_made last)
              · split at made
                · cases made
                  exact before
                · cases made

theorem addsDirectories_of_makeDirectories (made : disk.makeDirectories path = some after) :
    AddsDirectories disk after :=
  addsDirectories_of_makeWay made

end Disk

end CodeGraph
