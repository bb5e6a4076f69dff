import Mathlib.Data.List.TakeDrop
import Mathlib.Data.List.TakeWhile
import ServiceContract.Version

/-!
# A version is written as it was read

Superfluous zeros are refused, and what stands behind the dash or the plus is kept as it is. So the
written form of a version that was read is the text that it was read from, and two versions that were
read are equal if their written forms are.
-/

namespace ServiceContract.Version

/-! ## Numbers -/

/-- A digit is worth less than ten, and what it is worth is written as that digit. -/
theorem toDigits_toNat_sub {c : Char} (h : isDigit c = true) :
    c.toNat - '0'.toNat < 10 ∧ Nat.toDigits 10 (c.toNat - '0'.toNat) = [c] := by
  obtain ⟨hlow, hhigh⟩ := Char.isDigit_iff_toNat.1 h
  have hzero : '0'.toNat = 48 := rfl
  have hnine : '9'.toNat = 57 := rfl
  have hdigit : ∀ n < 10, Nat.digitChar n = Char.ofNat (n + 48) := by decide
  have hless : c.toNat - '0'.toNat < 10 := by omega
  refine ⟨hless, ?_⟩
  rw [Nat.toDigits_of_lt_base hless, hdigit _ hless, hzero, Nat.sub_add_cancel (by omega),
    Char.ofNat_toNat]

/-- Digits behind a positive number are put behind its digits. -/
theorem toDigits_foldl {n : Nat} {digits : List Char} (hn : 0 < n)
    (hall : ∀ c ∈ digits, isDigit c = true) :
    Nat.toDigits 10 (digits.foldl (fun n c => n * 10 + (c.toNat - '0'.toNat)) n) =
      Nat.toDigits 10 n ++ digits := by
  induction digits generalizing n with
  | nil => exact (List.append_nil _).symm
  | cons c digits ih =>
    obtain ⟨hless, hdigit⟩ := toDigits_toNat_sub (hall c List.mem_cons_self)
    rw [List.foldl_cons, ih (by omega) fun d hd => hall d (List.mem_cons_of_mem c hd), Nat.mul_comm n,
      ← Nat.toDigits_append_toDigits (by decide) hn hless, hdigit, List.append_assoc,
      List.singleton_append]

/-- A positive number, or zero alone, has the digits that it was read from. -/
theorem toDigits_of_not_hasLeadingZero {digits : List Char} (hne : digits ≠ [])
    (hall : ∀ c ∈ digits, isDigit c = true) (hzero : hasLeadingZero digits = false) :
    Nat.toDigits 10 (digits.foldl (fun n c => n * 10 + (c.toNat - '0'.toNat)) 0) = digits := by
  obtain ⟨c, digits, rfl⟩ := List.exists_cons_of_ne_nil hne
  have hdigit := (toDigits_toNat_sub (hall c List.mem_cons_self)).2
  rw [List.foldl_cons, Nat.zero_mul, Nat.zero_add]
  cases digits with
  | nil => exact hdigit
  | cons d digits =>
    have hpos : 0 < c.toNat - '0'.toNat := by
      refine Nat.pos_of_ne_zero fun hworth => ?_
      rw [hworth] at hdigit
      cases hdigit
      cases hzero
    rw [toDigits_foldl hpos fun e he => hall e (List.mem_cons_of_mem c he), hdigit,
      List.singleton_append]

theorem number?_eq_some {cs rest : List Char} {n : Nat} (h : number? cs = some (n, rest)) :
    cs = (toString n).toList ++ rest := by
  unfold number? at h
  rw [List.span_eq_takeWhile_dropWhile] at h
  dsimp only at h
  split at h
  · cases h
  · next hgood =>
    simp only [Bool.or_eq_true, not_or, Bool.not_eq_true, List.isEmpty_eq_false_iff] at hgood
    obtain ⟨⟨hne, hzero⟩, -⟩ := hgood
    obtain ⟨hn, hrest⟩ := Prod.mk.inj (Option.some.inj h)
    have hdigits := toDigits_of_not_hasLeadingZero hne
      (fun c hc => List.mem_takeWhile_imp hc) hzero
    rw [hn] at hdigits
    rw [Nat.toString_eq_repr, Nat.toList_repr, hdigits, ← hrest, List.takeWhile_append_dropWhile]

/-! ## The other parts -/

theorem dot?_eq_some {cs rest : List Char} (h : dot? cs = some rest) : cs = '.' :: rest := by
  unfold dot? at h
  split at h
  · rw [Option.some.inj h]
  · cases h

/-- There are identifiers only if there is anything at all. -/
theorem ne_nil_of_areIdentifiers {zerosAllowed : Bool} {cs : List Char}
    (h : areIdentifiers zerosAllowed cs = true) : cs ≠ [] := by
  rintro rfl
  cases h

/-- What is written behind a mark, unless there is nothing. -/
def marked (mark : Char) (cs : List Char) : List Char := if cs = [] then [] else mark :: cs

theorem preRelease?_eq_some {cs pre rest : List Char} (h : preRelease? cs = some (pre, rest)) :
    cs = marked '-' pre ++ rest := by
  unfold preRelease? at h
  split at h
  · rw [List.span_eq_takeWhile_dropWhile] at h
    dsimp only at h
    split at h
    · next hidentifiers =>
      obtain ⟨rfl, rfl⟩ := Prod.mk.inj (Option.some.inj h)
      rw [marked, if_neg (ne_nil_of_areIdentifiers hidentifiers), List.cons_append,
        List.takeWhile_append_dropWhile]
    · cases h
  · obtain ⟨rfl, rfl⟩ := Prod.mk.inj (Option.some.inj h)
    rfl

theorem build?_eq_some {cs build : List Char} (h : build? cs = some build) :
    cs = marked '+' build := by
  unfold build? at h
  split at h
  · obtain rfl := Option.some.inj h
    rfl
  · split at h
    · next hidentifiers =>
      obtain rfl := Option.some.inj h
      rw [marked, if_neg (ne_nil_of_areIdentifiers hidentifiers)]
    · cases h
  · cases h

/-! ## Versions -/

theorem toList_marked {mark : Char} {front : String} (hfront : front.toList = [mark])
    (cs : List Char) :
    (if String.ofList cs = "" then "" else front ++ String.ofList cs).toList = marked mark cs := by
  unfold marked
  by_cases hempty : cs = []
  · rw [if_pos (String.ofList_eq_empty_iff.2 hempty), if_pos hempty]
    rfl
  · rw [if_neg fun h => hempty (String.ofList_eq_empty_iff.1 h), if_neg hempty, String.toList_append,
      String.toList_ofList, hfront, List.singleton_append]

/-- Reading a version and writing it back gives the same text. -/
theorem text_of_ofText? {s : String} {v : Version} (h : ofText? s = some v) : v.text = s := by
  unfold ofText? at h
  simp only [Option.bind_eq_bind, Option.bind_eq_some_iff, Option.pure_def, Option.some.injEq,
    Prod.exists] at h
  obtain ⟨major, cs₁, hmajor, cs₂, hdot₁, minor, cs₃, hminor, cs₄, hdot₂, patch, cs₅, hpatch, pre, cs₆,
    hpre, build, hbuild, rfl⟩ := h
  refine String.toList_inj.1 ?_
  rw [number?_eq_some hmajor, dot?_eq_some hdot₁, number?_eq_some hminor, dot?_eq_some hdot₂,
    number?_eq_some hpatch, preRelease?_eq_some hpre, build?_eq_some hbuild]
  have hpoint : (toString ".").toList = ['.'] := rfl
  have hdash : "-".toList = ['-'] := rfl
  have hplus : "+".toList = ['+'] := rfl
  unfold text
  simp only [String.toList_append, toList_marked hdash, toList_marked hplus, hpoint,
    List.append_assoc, List.cons_append, List.nil_append]

/-- Two versions that were read are equal if their written forms are. -/
theorem eq_of_text_eq {s t : String} {v w : Version} (hv : ofText? s = some v)
    (hw : ofText? t = some w) (h : v.text = w.text) : v = w := by
  rw [text_of_ofText? hv, text_of_ofText? hw] at h
  subst h
  exact Option.some.inj (hv.symm.trans hw)

end ServiceContract.Version
