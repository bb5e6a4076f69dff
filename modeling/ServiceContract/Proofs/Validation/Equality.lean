import Mathlib.Algebra.Divisibility.Basic
import Mathlib.Algebra.Group.Int.Defs
import Mathlib.Data.Int.Order.Basic
import Mathlib.Data.Nat.Init
import ServiceContract.Json.Value

/-!
# Equality by value

Two JSON values are equal by value if they differ at most in the form of their numbers and in the
order of their members. Numbers are compared by what they are worth: integers as they are, and a
number that was written as a floating-point number, or is compared with one, as the floating-point
number nearest to it. `equivalent_iff` says that the comparison of the validator decides this
relation.
-/

namespace ServiceContract.Json

namespace Number

/-- The first number is worth less. Integers are compared exactly over their whole range. -/
def LessThan : Number → Number → Prop
  | .integer m _, .integer n _ => m < n
  | a, b => a.toBinary64.scaled < b.toBinary64.scaled

/-- The two numbers are worth the same. -/
def EqualTo : Number → Number → Prop
  | .integer m _, .integer n _ => m = n
  | a, b => a.toBinary64.scaled = b.toBinary64.scaled

theorem order_eq_lt_iff {a b : Number} : a.order b = .lt ↔ a.LessThan b := by
  cases a <;> cases b <;> simp only [order, Binary64.order, LessThan, compare_lt_iff_lt]

theorem order_eq_gt_iff {a b : Number} : a.order b = .gt ↔ b.LessThan a := by
  cases a <;> cases b <;> simp only [order, Binary64.order, LessThan, compare_gt_iff_gt]

theorem order_eq_eq_iff {a b : Number} : a.order b = .eq ↔ a.EqualTo b := by
  cases a <;> cases b <;> simp only [order, Binary64.order, EqualTo, compare_eq_iff_eq]

/-- The number is worth a whole number of ones, in whichever form it was written. -/
def IsWhole : Number → Prop
  | .integer .. => True
  | .float x => ∃ m : Int, x.scaled = m * Binary64.unitsPerOne

theorem isWhole_iff {n : Number} : n.isWhole = true ↔ n.IsWhole := by
  cases n with
  | integer m hm => simp [isWhole, IsWhole]
  | float x =>
    have hdvd : (Binary64.unitsPerOne : Int) ∣ x.scaled ↔ Binary64.unitsPerOne ∣ x.magnitude := by
      unfold Binary64.scaled
      split
      · rw [Int.dvd_neg, Int.natCast_dvd_natCast]
      · rw [Int.natCast_dvd_natCast]
    rw [isWhole, Binary64.isWhole, beq_iff_eq, ← Nat.dvd_iff_mod_eq_zero, ← hdvd, IsWhole]
    exact dvd_iff_exists_eq_mul_left

end Number

namespace Value

/-- Equality by value. Arrays are compared item by item; of two objects with equally many members,
each member on the left needs one of its key and of an equal value on the right. -/
inductive EqualTo : Value → Value → Prop where
  /-- The null value. -/
  | null : EqualTo .null .null
  /-- Truth values. -/
  | bool (b : Bool) : EqualTo (.bool b) (.bool b)
  /-- Numbers that are worth the same. -/
  | number {a b : Number} (h : a.EqualTo b) : EqualTo (.number a) (.number b)
  /-- Texts. -/
  | string (s : String) : EqualTo (.string s) (.string s)
  /-- Arrays with equal items. -/
  | array {xs ys : List Value} (hlen : xs.length = ys.length)
      (hitems : ∀ x y, (x, y) ∈ xs.zip ys → EqualTo x y) : EqualTo (.array xs) (.array ys)
  /-- Objects with equal members. -/
  | object {xs ys : Members} (hlen : xs.length = ys.length)
      (hkeys : ∀ key x, (key, x) ∈ xs → (ys.lookup key).isSome)
      (hmembers : ∀ key x y, (key, x) ∈ xs → ys.lookup key = some y → EqualTo x y) :
      EqualTo (.object xs) (.object ys)

theorem sizeOf_item_lt {item : Value} {items : List Value} (h : item ∈ items) :
    sizeOf item < sizeOf (Value.array items) := by
  have := List.sizeOf_lt_of_mem h
  simp only [array.sizeOf_spec]
  omega

theorem sizeOf_member_lt {key : String} {value : Value} {members : Members}
    (h : (key, value) ∈ members) : sizeOf value < sizeOf (Value.object members) := by
  have := List.sizeOf_lt_of_mem h
  simp only [object.sizeOf_spec, Prod.mk.sizeOf_spec] at *
  omega

theorem sameItems_iff {numbers : Number → Number → Bool} {xs ys : List Value} :
    sameItems numbers xs ys = true ↔
      xs.length = ys.length ∧ ∀ x y, (x, y) ∈ xs.zip ys → sameUpTo numbers x y = true := by
  induction xs generalizing ys with
  | nil => cases ys <;> simp [sameItems]
  | cons x xs ih =>
    cases ys with
    | nil => simp [sameItems]
    | cons y ys =>
      simp only [sameItems, Bool.and_eq_true, ih, List.length_cons, List.zip_cons_cons,
        List.mem_cons, Prod.mk.injEq]
      constructor
      · rintro ⟨hxy, hlen, hrest⟩
        refine ⟨by rw [hlen], ?_⟩
        rintro a b (⟨rfl, rfl⟩ | h)
        · exact hxy
        · exact hrest a b h
      · rintro ⟨hlen, h⟩
        exact ⟨h x y (.inl ⟨rfl, rfl⟩), by omega, fun a b hab => h a b (.inr hab)⟩

theorem sameMembers_iff {numbers : Number → Number → Bool} {xs ys : Members} :
    sameMembers numbers xs ys = true ↔
      ∀ key x, (key, x) ∈ xs → ∃ y, ys.lookup key = some y ∧ sameUpTo numbers x y = true := by
  induction xs with
  | nil => simp [sameMembers]
  | cons entry rest ih =>
    obtain ⟨k, v⟩ := entry
    have hhead : sameMembers numbers ((k, v) :: rest) ys = true ↔
        (∃ y, ys.lookup k = some y ∧ sameUpTo numbers v y = true) ∧
          sameMembers numbers rest ys = true := by
      rw [sameMembers, Bool.and_eq_true]
      cases ys.lookup k <;> simp
    simp only [hhead, ih, List.mem_cons, Prod.mk.injEq]
    constructor
    · rintro ⟨h, hrest⟩ key x (⟨rfl, rfl⟩ | hx)
      · exact h
      · exact hrest key x hx
    · intro h
      exact ⟨h k v (.inl ⟨rfl, rfl⟩), fun key x hx => h key x (.inr hx)⟩

/-- The validator's comparison decides equality by value. -/
theorem equivalent_iff {x y : Value} : x.equivalent y = true ↔ EqualTo x y := by
  -- The parts of arrays and objects are smaller than the whole, wherever they stand in it.
  induction h : sizeOf x using Nat.strong_induction_on generalizing x y with
  | _ size ih =>
    subst h
    unfold equivalent at ih ⊢
    constructor
    · intro hsame
      cases x <;> cases y <;> simp only [sameUpTo, Bool.false_eq_true, beq_iff_eq,
        Bool.and_eq_true] at hsame
      case null.null => exact .null
      case bool.bool => exact hsame ▸ .bool _
      case number.number => exact .number (Number.order_eq_eq_iff.1 hsame)
      case string.string => exact hsame ▸ .string _
      case array.array xs ys =>
        obtain ⟨hlen, hitems⟩ := sameItems_iff.1 hsame
        refine .array hlen fun a b hab => ?_
        exact (ih _ (sizeOf_item_lt (List.of_mem_zip hab).1) rfl).1 (hitems a b hab)
      case object.object xs ys =>
        have hmembers := sameMembers_iff.1 hsame.2
        refine .object hsame.1 (fun key a ha => ?_) fun key a b ha hb => ?_
        · obtain ⟨b, hb, -⟩ := hmembers key a ha
          simp [hb]
        · obtain ⟨b', hb', hab⟩ := hmembers key a ha
          obtain rfl : b = b' := Option.some.inj (hb.symm.trans hb')
          exact (ih _ (sizeOf_member_lt ha) rfl).1 hab
    · intro heq
      cases heq with
      | null => simp [sameUpTo]
      | bool => simp [sameUpTo]
      | number h => simpa [sameUpTo] using Number.order_eq_eq_iff.2 h
      | string => simp [sameUpTo]
      | array hlen hitems =>
        rw [sameUpTo, sameItems_iff]
        refine ⟨hlen, fun a b hab => ?_⟩
        exact (ih _ (sizeOf_item_lt (List.of_mem_zip hab).1) rfl).2 (hitems a b hab)
      | object hlen hkeys hmembers =>
        rw [sameUpTo, Bool.and_eq_true, beq_iff_eq, sameMembers_iff]
        refine ⟨hlen, fun key a ha => ?_⟩
        obtain ⟨b, hb⟩ := Option.isSome_iff_exists.1 (hkeys key a ha)
        exact ⟨b, hb, (ih _ (sizeOf_member_lt ha) rfl).2 (hmembers key a b ha hb)⟩

end Value

end ServiceContract.Json
