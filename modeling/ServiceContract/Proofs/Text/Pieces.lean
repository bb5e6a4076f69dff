import Mathlib.Data.List.Basic
import Mathlib.Data.List.DropRight
import Mathlib.Data.List.Infix
import Mathlib.Data.List.TakeWhile
import Mathlib.Order.Basic
import ServiceContract.Text.Blank

/-!
# Pieces of a text

A text is cut at each place of a separator, and joining the pieces gives it back. White space is taken
off both ends of a text and nowhere else.
-/

namespace ServiceContract.Text

variable {separator : Char} {cs ds piece : List Char} {pieces : List (List Char)}

/-! ## Pieces between separators -/

/-- A separator ends a piece, whatever stands around it. -/
theorem splitAt_append :
    splitAt separator (cs ++ separator :: ds) = splitAt separator cs ++ splitAt separator ds := by
  induction cs with
  | nil => simp [splitAt]
  | cons c cs ih =>
    obtain ⟨first, rest, hsplit⟩ := List.exists_cons_of_ne_nil (splitAt_ne_nil separator cs)
    rw [List.cons_append, splitAt, ih, hsplit, splitAt, hsplit]
    split <;> rfl

theorem splitAt_of_not_mem (h : separator ∉ cs) : splitAt separator cs = [cs] := by
  induction cs with
  | nil => rfl
  | cons c cs ih =>
    obtain ⟨hne, hrest⟩ := List.ne_and_not_mem_of_not_mem_cons h
    rw [splitAt, ih hrest, if_neg (Ne.symm hne)]

theorem not_mem_of_mem_splitAt (h : piece ∈ splitAt separator cs) : separator ∉ piece := by
  induction cs generalizing piece with
  | nil => simp_all [splitAt]
  | cons c cs ih =>
    obtain ⟨first, rest, hsplit⟩ := List.exists_cons_of_ne_nil (splitAt_ne_nil separator cs)
    rw [splitAt, hsplit] at h
    rw [hsplit] at ih
    split at h
    · rcases List.mem_cons.1 h with rfl | h
      · exact List.not_mem_nil
      · exact ih h
    · next hne =>
      rcases List.mem_cons.1 h with rfl | h
      · exact List.not_mem_cons_of_ne_of_not_mem (Ne.symm hne) (ih (List.mem_cons_self ..))
      · exact ih (List.mem_cons_of_mem _ h)

theorem mem_of_mem_splitAt {c : Char} (h : piece ∈ splitAt separator cs) (hc : c ∈ piece) : c ∈ cs := by
  induction cs generalizing piece with
  | nil => simp_all [splitAt]
  | cons d cs ih =>
    obtain ⟨first, rest, hsplit⟩ := List.exists_cons_of_ne_nil (splitAt_ne_nil separator cs)
    rw [splitAt, hsplit] at h
    rw [hsplit] at ih
    split at h
    · rcases List.mem_cons.1 h with rfl | h
      · cases hc
      · exact List.mem_cons_of_mem _ (ih h hc)
    · rcases List.mem_cons.1 h with rfl | h
      · rcases List.mem_cons.1 hc with rfl | hc
        · exact List.mem_cons_self ..
        · exact List.mem_cons_of_mem _ (ih (List.mem_cons_self ..) hc)
      · exact List.mem_cons_of_mem _ (ih (List.mem_cons_of_mem _ h) hc)

/-- Pieces without separators are what joining them is cut into. -/
theorem splitAt_intercalate (hne : pieces ≠ []) (h : ∀ piece ∈ pieces, separator ∉ piece) :
    splitAt separator (List.intercalate [separator] pieces) = pieces := by
  induction pieces with
  | nil => exact absurd rfl hne
  | cons piece pieces ih =>
    obtain ⟨hpiece, hrest⟩ := List.forall_mem_cons.1 h
    cases pieces with
    | nil => rw [List.intercalate_singleton, splitAt_of_not_mem hpiece]
    | cons next pieces =>
      rw [List.intercalate_cons_cons, List.append_assoc, List.singleton_append, splitAt_append,
        ih (List.cons_ne_nil _ _) hrest, splitAt_of_not_mem hpiece]
      rfl

/-- The length of pieces with a separator for each. -/
def extent : List (List Char) → Nat
  | [] => 0
  | piece :: pieces => piece.length + 1 + extent pieces

@[simp]
theorem extent_nil : extent [] = 0 := rfl

@[simp]
theorem extent_cons : extent (piece :: pieces) = piece.length + 1 + extent pieces := rfl

@[simp]
theorem extent_append {pieces' : List (List Char)} :
    extent (pieces ++ pieces') = extent pieces + extent pieces' := by
  induction pieces with
  | nil => simp
  | cons piece pieces ih => rw [List.cons_append, extent_cons, extent_cons, ih, ← Nat.add_assoc]

/-- A text has a separator less than pieces. -/
theorem extent_splitAt : extent (splitAt separator cs) = cs.length + 1 := by
  induction cs with
  | nil => rfl
  | cons c cs ih =>
    obtain ⟨first, rest, hsplit⟩ := List.exists_cons_of_ne_nil (splitAt_ne_nil separator cs)
    rw [hsplit, extent_cons] at ih
    rw [splitAt, hsplit]
    split <;> simp only [extent_cons, List.length_cons, List.length_nil] <;> omega

theorem length_intercalate :
    (List.intercalate [separator] pieces).length = extent pieces - 1 := by
  induction pieces with
  | nil => rfl
  | cons piece pieces ih =>
    cases pieces with
    | nil => simp
    | cons next pieces =>
      rw [List.intercalate_cons_cons, List.length_append, List.length_append, ih]
      simp only [extent_cons, List.length_singleton]
      omega

/-- What is not a separator stands in one of the pieces. -/
theorem mem_intercalate {c : Char} (h : c ≠ separator) :
    c ∈ List.intercalate [separator] pieces ↔ ∃ piece ∈ pieces, c ∈ piece := by
  induction pieces with
  | nil => simp
  | cons piece pieces ih =>
    cases pieces with
    | nil => simp
    | cons next pieces =>
      rw [List.intercalate_cons_cons, List.mem_append, List.mem_append, ih, List.mem_singleton,
        List.exists_mem_cons_iff]
      simp [h]

theorem toList_join {separator : String} {texts : List String} :
    (join separator texts).toList =
      List.intercalate separator.toList (texts.map String.toList) := by
  induction texts with
  | nil => rfl
  | cons text texts ih =>
    cases texts with
    | nil => simp [join]
    | cons next texts =>
      rw [join, String.toList_append, String.toList_append, ih, List.map_cons, List.map_cons,
        List.map_cons, List.intercalate_cons_cons]
      exact List.cons_ne_nil _ _

/-- The first place of a character is where the longest beginning without it ends. -/
theorem cutAt_eq : cutAt separator cs = (cs.dropWhile (· ≠ separator)).tail?.map fun behind =>
    (cs.takeWhile (· ≠ separator), behind) := by
  induction cs with
  | nil => rfl
  | cons c cs ih =>
    rw [cutAt]
    by_cases h : c = separator
    · simp [h]
    · simp [h, ih, Function.comp_def]

section Cut

variable {before behind : List Char}

theorem cutAt_append (h : separator ∉ before) :
    cutAt separator (before ++ separator :: behind) = some (before, behind) := by
  induction before with
  | nil => simp [cutAt]
  | cons c before ih =>
    obtain ⟨hc, hbefore⟩ := List.ne_and_not_mem_of_not_mem_cons h
    rw [List.cons_append, cutAt, if_neg (Ne.symm hc), ih hbefore]
    rfl

/-- There is no separator before the place where a text is cut. -/
theorem append_of_cutAt (h : cutAt separator cs = some (before, behind)) :
    cs = before ++ separator :: behind ∧ separator ∉ before := by
  induction cs generalizing before with
  | nil => cases h
  | cons c cs ih =>
    rw [cutAt] at h
    by_cases hc : c = separator
    · rw [if_pos hc] at h
      cases h
      exact ⟨by rw [hc]; rfl, List.not_mem_nil⟩
    · rw [if_neg hc] at h
      obtain ⟨⟨rest, _⟩, hrest, heq⟩ := Option.map_eq_some_iff.1 h
      cases heq
      obtain ⟨rfl, hmem⟩ := ih hrest
      exact ⟨rfl, List.not_mem_cons_of_ne_of_not_mem (Ne.symm hc) hmem⟩

end Cut

theorem stripFront_eq_some_iff {front rest : List Char} :
    stripFront front cs = some rest ↔ cs = front ++ rest := by
  induction front generalizing cs with
  | nil => simp [stripFront]
  | cons e front ih =>
    cases cs with
    | nil => simp [stripFront]
    | cons c cs =>
      rw [stripFront]
      by_cases h : e = c
      · simp [h, ih]
      · simp [h, Ne.symm h]

/-! ## White space at the ends -/

theorem trimChars_within : trimChars cs <:+: cs := by
  have hfront : cs.dropWhile isWhiteSpace <:+ cs := List.dropWhile_suffix _
  have hback : ((cs.dropWhile isWhiteSpace).reverse.dropWhile isWhiteSpace).reverse <+:
      cs.dropWhile isWhiteSpace := List.reverse_suffix.1 (by
    rw [List.reverse_reverse]
    exact List.dropWhile_suffix _)
  exact hback.isInfix.trans hfront.isInfix

/-- A text with something else at both ends has no white space there. -/
theorem trimChars_of_ends {c d : Char} (hc : isWhiteSpace c = false) (hd : isWhiteSpace d = false) :
    trimChars (c :: (cs ++ [d])) = c :: (cs ++ [d]) := by
  unfold trimChars
  rw [List.dropWhile_cons_of_neg (by rw [hc]; exact Bool.false_ne_true), ← List.cons_append,
    List.reverse_append, List.reverse_singleton, List.singleton_append,
    List.dropWhile_cons_of_neg (by rw [hd]; exact Bool.false_ne_true), List.reverse_cons,
    List.reverse_reverse]

theorem trimChars_eq : trimChars cs = (cs.dropWhile isWhiteSpace).rdropWhile isWhiteSpace := rfl

/-- Nothing is left of a text of white space, and of no other one. -/
theorem trimChars_eq_nil_iff : trimChars cs = [] ↔ ∀ c ∈ cs, isWhiteSpace c = true := by
  rw [trimChars_eq, List.rdropWhile_eq_nil_iff]
  constructor
  · intro h c hc
    rw [← List.takeWhile_append_dropWhile (p := isWhiteSpace) (l := cs)] at hc
    rcases List.mem_append.1 hc with hc | hc
    · exact List.mem_takeWhile_imp hc
    · exact h c hc
  · intro h c hc
    exact h c ((List.dropWhile_suffix _).subset hc)

theorem trimChars_trimChars : trimChars (trimChars cs) = trimChars cs := by
  have hprefix : trimChars cs <+: cs.dropWhile isWhiteSpace := List.rdropWhile_prefix _ _
  have hfront : (trimChars cs).dropWhile isWhiteSpace = trimChars cs := by
    rcases htrim : trimChars cs with _ | ⟨c, rest⟩
    · rfl
    · -- The first character is the one that stopped the white space at the front.
      rw [htrim] at hprefix
      obtain ⟨behind, hbehind⟩ := hprefix
      have hc : isWhiteSpace c = false := by
        have hhead := List.head?_dropWhile_not isWhiteSpace cs
        rw [← hbehind] at hhead
        simpa using hhead
      exact List.dropWhile_cons_of_neg (by rw [hc]; exact Bool.false_ne_true)
  rw [trimChars_eq, hfront, trimChars_eq, List.rdropWhile_idempotent]

theorem length_trimChars_lt (h : trimChars cs ≠ cs) : (trimChars cs).length < cs.length :=
  lt_of_le_of_ne trimChars_within.length_le fun hlength => h (trimChars_within.eq_of_length hlength)

end ServiceContract.Text
