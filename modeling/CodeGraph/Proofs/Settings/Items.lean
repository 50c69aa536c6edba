import CodeGraph.Settings.File
import Mathlib.Data.List.Forall2
import Mathlib.Data.List.TakeWhile

/-!
# Lists of texts in settings

A list of texts is written item by item, or as one text with semicolons between the items.  Both
give the items that are not blank, without the blanks at their ends, as long as no item has a
semicolon itself.
-/

namespace CodeGraph

namespace Text

/-! ## Trimming -/

def Blank (chars : List Char) : Prop := ∀ char ∈ chars, isBlank char = true

/-- The characters are the trimmed ones between blanks. -/
structure TrimsTo (chars trimmed : List Char) : Prop where
  blanks : ∃ before after, Blank before ∧ Blank after ∧ chars = before ++ trimmed ++ after
  first : ∀ char ∈ trimmed.head?, isBlank char = false
  last : ∀ char ∈ trimmed.getLast?, isBlank char = false

theorem Blank.append {first second : List Char} (blank : Blank first) (more : Blank second) :
    Blank (first ++ second) := by
  intro char member
  rcases List.mem_append.mp member with early | late
  · exact blank char early
  · exact more char late

theorem dropWhile_blank_append {before chars : List Char} (blank : Blank before)
    (first : ∀ char ∈ chars.head?, isBlank char = false) :
    (before ++ chars).dropWhile isBlank = chars := by
  rw [List.dropWhile_append_of_pos blank]
  cases chars with
  | nil => rfl
  | cons char chars => exact List.dropWhile_cons_of_neg (by simp [first char rfl])

theorem dropEndWhile_append_blank {chars after : List Char} (blank : Blank after)
    (last : ∀ char ∈ chars.getLast?, isBlank char = false) :
    dropEndWhile isBlank (chars ++ after) = chars := by
  have reversed : Blank after.reverse := fun char member => blank char (List.mem_reverse.mp member)
  rw [dropEndWhile, List.reverse_append, dropWhile_blank_append reversed, List.reverse_reverse]
  rwa [List.head?_reverse]

/-- There is only one way to trim. -/
theorem TrimsTo.trimChars_eq {chars trimmed : List Char} (trims : TrimsTo chars trimmed) :
    trimChars chars = trimmed := by
  obtain ⟨before, after, blankBefore, blankAfter, rfl⟩ := trims.blanks
  cases trimmed with
  | nil =>
      have blank : Blank (before ++ [] ++ after) := by
        rw [List.append_nil]
        exact blankBefore.append blankAfter
      rw [trimChars, List.dropWhile_eq_nil_iff.mpr blank]
      rfl
  | cons char rest =>
      have first : ∀ other ∈ (char :: rest ++ after).head?, isBlank other = false := trims.first
      rw [trimChars, List.append_assoc, dropWhile_blank_append blankBefore first]
      exact dropEndWhile_append_blank blankAfter trims.last

theorem trimsTo_trimChars (chars : List Char) : TrimsTo chars (trimChars chars) := by
  let rest := chars.dropWhile isBlank
  have split : chars.takeWhile isBlank ++ rest = chars := List.takeWhile_append_dropWhile
  have cut : trimChars chars ++ (rest.reverse.takeWhile isBlank).reverse = rest := by
    have whole := congrArg List.reverse
      (List.takeWhile_append_dropWhile (p := isBlank) (l := rest.reverse))
    rwa [List.reverse_append, List.reverse_reverse] at whole
  refine ⟨⟨chars.takeWhile isBlank, (rest.reverse.takeWhile isBlank).reverse, ?_, ?_, ?_⟩, ?_, ?_⟩
  · exact fun char => List.mem_takeWhile_imp
  · exact fun char member => List.mem_takeWhile_imp (List.mem_reverse.mp member)
  · rw [List.append_assoc, cut, split]
  · intro char isFirst
    have inRest : rest.head? = some char := by
      rw [← cut, List.head?_append, Option.mem_def.mp isFirst]
      rfl
    have first := List.head?_dropWhile_not isBlank chars
    rw [inRest] at first
    exact first
  · intro char isLast
    rw [trimChars, dropEndWhile, List.getLast?_reverse] at isLast
    have last := List.head?_dropWhile_not isBlank rest.reverse
    rw [Option.mem_def.mp isLast] at last
    exact last

theorem TrimsTo.refl {chars trimmed : List Char} (trims : TrimsTo chars trimmed) :
    TrimsTo trimmed trimmed :=
  ⟨⟨[], [], by simp [Blank], by simp [Blank], by simp⟩, trims.first, trims.last⟩

theorem TrimsTo.padded {chars trimmed before after : List Char} (trims : TrimsTo chars trimmed)
    (blankBefore : Blank before) (blankAfter : Blank after) :
    TrimsTo (before ++ chars ++ after) trimmed := by
  obtain ⟨inner, outer, blankInner, blankOuter, rfl⟩ := trims.blanks
  refine ⟨⟨before ++ inner, outer ++ after, blankBefore.append blankInner,
    blankOuter.append blankAfter, ?_⟩, trims.first, trims.last⟩
  simp only [List.append_assoc]

theorem TrimsTo.mem {chars trimmed : List Char} (trims : TrimsTo chars trimmed) {char : Char}
    (member : char ∈ trimmed) : char ∈ chars := by
  obtain ⟨before, after, -, -, rfl⟩ := trims.blanks
  simp [member]

/-- Only blanks trim to nothing. -/
theorem TrimsTo.eq_nil_iff {chars trimmed : List Char} (trims : TrimsTo chars trimmed) :
    trimmed = [] ↔ Blank chars := by
  obtain ⟨before, after, blankBefore, blankAfter, rfl⟩ := trims.blanks
  constructor
  · rintro rfl
    rw [List.append_nil]
    exact blankBefore.append blankAfter
  · intro blank
    cases trimmed with
    | nil => rfl
    | cons char rest =>
        have isBlank := blank char (by simp)
        rw [trims.first char rfl] at isBlank
        cases isBlank

/-! ## Pieces between separators -/

variable {isSeparator : Char → Bool}

theorem splitChars_piece {piece : List Char} (plain : ∀ char ∈ piece, isSeparator char = false) :
    splitChars isSeparator piece = [piece] := by
  induction piece with
  | nil => rfl
  | cons char piece induction =>
      obtain ⟨here, rest⟩ := List.forall_mem_cons.mp plain
      rw [splitChars, here, induction rest]
      rfl

theorem splitChars_append {piece : List Char} {separator : Char}
    (plain : ∀ char ∈ piece, isSeparator char = false) (separates : isSeparator separator = true)
    (more : List Char) :
    splitChars isSeparator (piece ++ separator :: more) = piece :: splitChars isSeparator more := by
  induction piece with
  | nil => rw [List.nil_append, splitChars, if_pos separates]
  | cons char piece induction =>
      obtain ⟨here, rest⟩ := List.forall_mem_cons.mp plain
      rw [List.cons_append, splitChars, here, induction rest]
      rfl

/-- Splitting undoes joining, if there is something to be joined. -/
theorem splitChars_intercalate {separator : Char} (separates : isSeparator separator = true)
    (piece : List Char) (pieces : List (List Char))
    (plain : ∀ chars ∈ piece :: pieces, ∀ char ∈ chars, isSeparator char = false) :
    splitChars isSeparator ([separator].intercalate (piece :: pieces)) = piece :: pieces := by
  induction pieces generalizing piece with
  | nil =>
      rw [List.intercalate_singleton]
      exact splitChars_piece (plain piece List.mem_cons_self)
  | cons next pieces induction =>
      obtain ⟨here, rest⟩ := List.forall_mem_cons.mp plain
      rw [List.intercalate_cons_cons, List.append_assoc, List.singleton_append,
        splitChars_append here separates, induction next rest]

end Text

/-! ## Items in one text -/

theorem splitItems_intercalate {texts : List String} (apart : ∀ text ∈ texts, ';' ∉ text.toList) :
    splitItems (";".intercalate texts) = trimItems texts := by
  have trimmed : trimItems texts =
      (((texts.map String.toList).map Text.trimChars).filter (! ·.isEmpty)).map String.ofList := by
    rw [trimItems, List.map_map, List.filter_map, List.filter_map, List.map_map]
    refine congrArg _ (List.filter_congr fun text _ => congrArg (! ·) ?_)
    rw [Bool.eq_iff_iff, Function.comp_apply, String.isEmpty_iff, Text.trim,
      String.ofList_eq_empty_iff]
    exact List.isEmpty_iff.symm
  rw [splitItems, trimmed, String.toList_intercalate]
  cases texts with
  | nil => rfl
  | cons text texts =>
      rw [List.map_cons]
      refine congrArg (fun pieces => List.map String.ofList
        ((List.map Text.trimChars pieces).filter (! ·.isEmpty))) ?_
      refine Text.splitChars_intercalate rfl _ _ fun chars member char inPiece => ?_
      rw [← List.map_cons] at member
      obtain ⟨item, isItem, rfl⟩ := List.mem_map.mp member
      rw [beq_eq_false_iff_ne]
      rintro rfl
      exact apart item isItem inPiece

/-- An item with blanks around it, as it may stand between semicolons. -/
structure PaddedItem where
  before : String := ""
  item : String
  after : String := ""
  blankBefore : Text.Blank before.toList
  blankAfter : Text.Blank after.toList
  noSemicolon : ';' ∉ item.toList

def PaddedItem.text (padded : PaddedItem) : String := padded.before ++ padded.item ++ padded.after

theorem PaddedItem.trim_text (padded : PaddedItem) :
    Text.trim padded.text = Text.trim padded.item := by
  rw [text, Text.trim, String.toList_append, String.toList_append]
  have trims := Text.trimsTo_trimChars padded.item.toList
  exact congrArg String.ofList (trims.padded padded.blankBefore padded.blankAfter).trimChars_eq

theorem PaddedItem.semicolon_not_mem_text (padded : PaddedItem) : ';' ∉ padded.text.toList := by
  have notBlank : Text.isBlank ';' = false := by decide
  rw [text, String.toList_append, String.toList_append, List.mem_append, List.mem_append]
  rintro ((before | inside) | after)
  · exact absurd (padded.blankBefore _ before) (by simp [notBlank])
  · exact padded.noSemicolon inside
  · exact absurd (padded.blankAfter _ after) (by simp [notBlank])

/-- Is there anything but blanks in the item? -/
def notBlank (item : String) : Bool := item.toList.any (! Text.isBlank ·)

theorem isEmpty_trim (item : String) : (Text.trim item).isEmpty = ! notBlank item := by
  rw [Bool.eq_iff_iff, String.isEmpty_iff, Text.trim, String.ofList_eq_empty_iff,
    (Text.trimsTo_trimChars item.toList).eq_nil_iff]
  simp [notBlank, Text.Blank]

theorem trimItems_eq (items : List String) :
    trimItems items = (items.filter notBlank).map Text.trim := by
  rw [trimItems, List.filter_map]
  refine congrArg _ (List.filter_congr fun item _ => ?_)
  rw [Function.comp_apply, isEmpty_trim, Bool.not_not]

theorem trimsTo_trim (item : String) : Text.TrimsTo item.toList (Text.trim item).toList := by
  rw [Text.trim, String.toList_ofList]
  exact Text.trimsTo_trimChars item.toList

theorem trim_trim (item : String) : Text.trim (Text.trim item) = Text.trim item := by
  have again := (trimsTo_trim item).refl.trimChars_eq
  rw [Text.trim, again, String.ofList_toList]

/-- Trimming items again changes nothing. -/
theorem trimItems_trimItems (items : List String) :
    trimItems (trimItems items) = trimItems items := by
  have same : (trimItems items).map Text.trim = trimItems items := by
    rw [trimItems_eq, List.map_map]
    exact List.map_congr_left fun item _ => trim_trim item
  rw [trimItems, same, trimItems, List.filter_filter]
  simp only [Bool.and_self]

namespace Settings

theorem mapM_text? (items : List String) : (items.map Toml.Value.text).mapM text? = some items := by
  induction items with
  | nil => rfl
  | cons item items induction =>
      rw [List.map_cons, List.mapM_cons, induction]
      rfl

/-- A list of items without semicolons may be given item by item, or as one text with semicolons
between the items and any blanks around them.  Both give the items that are not blank, in order,
each without the blanks at its ends; and these, joined by semicolons, are split into themselves. -/
theorem items?_spellings (items : List PaddedItem) :
    ∃ list : List String,
      items? (.list (items.map fun padded => .text padded.item)) = some list ∧
      items? (.text (";".intercalate (items.map (·.text)))) = some list ∧
      List.Forall₂ (fun item trimmed => Text.TrimsTo item.toList trimmed.toList)
        ((items.map (·.item)).filter notBlank) list ∧
      (∀ item ∈ list, item ≠ "") ∧
      splitItems (";".intercalate list) = list := by
  have apart : ∀ text ∈ items.map (·.text), ';' ∉ text.toList := by
    intro text member
    obtain ⟨padded, -, rfl⟩ := List.mem_map.mp member
    exact padded.semicolon_not_mem_text
  have samePieces : trimItems (items.map (·.text)) = trimItems (items.map (·.item)) := by
    rw [trimItems, trimItems, List.map_map, List.map_map]
    exact congrArg _ (List.map_congr_left fun padded _ => padded.trim_text)
  refine ⟨trimItems (items.map (·.item)), ?_, ?_, ?_, ?_, ?_⟩
  · have texts := mapM_text? (items.map (·.item))
    rw [List.map_map] at texts
    exact congrArg (Option.map trimItems) texts
  · rw [items?, splitItems_intercalate apart, samePieces]
  · rw [trimItems_eq, List.forall₂_map_right_iff, List.forall₂_same]
    exact fun item _ => trimsTo_trim item
  · intro item member
    have filled := (List.mem_filter.mp member).2
    rintro rfl
    cases filled
  · rw [splitItems_intercalate, trimItems_trimItems]
    intro item member inItem
    rw [trimItems_eq] at member
    obtain ⟨whole, isItem, rfl⟩ := List.mem_map.mp member
    obtain ⟨padded, -, rfl⟩ := List.mem_map.mp (List.mem_filter.mp isItem).1
    exact padded.noSemicolon ((trimsTo_trim padded.item).mem inItem)

example : items? (.text " a b ;\t; c\u00a0;") = some ["a b", "c"] := by decide

end Settings

end CodeGraph
