import Mathlib.Data.List.Perm.Subperm
import ServiceContract.Proofs.Validation.Reordering

/-!
# Laws of equality by value

Each value is equal to itself, and two values are equal in one direction if they are in the other. For
objects this takes counting, as members are only looked up from the left to the right: where no key is
repeated, equally many keys that are all found on the right are all the keys there are on the right. With
this the order of members matters on neither side. What is missing to an equivalence is that equality is
passed on, which numbers of the two forms stand in the way of.
-/

namespace ServiceContract.Json

theorem Number.EqualTo.refl (n : Number) : n.EqualTo n := by
  cases n <;> rfl

theorem Number.EqualTo.symm {a b : Number} (h : a.EqualTo b) : b.EqualTo a := by
  cases a <;> cases b <;> exact Eq.symm h

namespace Value

variable {v w x y : Value} {xs ys : Members}

/-- A value without repeated keys is equal to itself. -/
theorem EqualTo.refl (h : v.DistinctKeys) : EqualTo v v := by
  induction h with
  | null => exact .null
  | bool b => exact .bool b
  | number n => exact .number (.refl n)
  | string s => exact .string s
  | array _ ih =>
    refine .array rfl fun x y hxy => ?_
    obtain ⟨index, hindex, heq⟩ := List.mem_iff_getElem.1 hxy
    rw [List.getElem_zip] at heq
    obtain ⟨rfl, rfl⟩ := Prod.mk.inj heq
    exact ih _ (List.getElem_mem _)
  | object hkeys _ ih =>
    refine .object rfl (fun key x hx => ?_) fun key x y hx hy => ?_
    · rw [lookup_of_nodup hkeys hx]
      rfl
    · rw [lookup_of_nodup hkeys hx] at hy
      cases hy
      exact ih _ hx

/-- Different keys that are all found among equally many are the same keys. -/
theorem perm_keys_of_found (hkeys : (xs.map Prod.fst).Nodup) (hlen : xs.length = ys.length)
    (hfound : ∀ key x, (key, x) ∈ xs → (ys.lookup key).isSome) :
    (xs.map Prod.fst).Perm (ys.map Prod.fst) := by
  have hsubset : xs.map Prod.fst ⊆ ys.map Prod.fst := by
    intro key hkey
    obtain ⟨⟨_, x⟩, hmem, rfl⟩ := List.mem_map.1 hkey
    obtain ⟨y, hy⟩ := Option.isSome_iff_exists.1 (hfound _ x hmem)
    exact List.mem_map.2 ⟨_, mem_of_lookup hy, rfl⟩
  refine (List.subperm_of_subset hkeys hsubset).perm_of_length_le ?_
  rw [List.length_map, List.length_map, hlen]

theorem EqualTo.symm (h : EqualTo v w) (hv : v.DistinctKeys) (hw : w.DistinctKeys) : EqualTo w v := by
  induction h with
  | null => exact .null
  | bool b => exact .bool b
  | number h => exact .number h.symm
  | string s => exact .string s
  | @array xs ys hlen _ ih =>
    rw [distinctKeys_array] at hv hw
    have hitems : List.Forall₂ (fun x y => EqualTo y x) xs ys := by
      refine List.forall₂_iff_zip.2 ⟨hlen, fun {x y} hmem => ?_⟩
      obtain ⟨hx, hy⟩ := List.of_mem_zip hmem
      exact ih x y hmem (hv x hx) (hw y hy)
    obtain ⟨hlen, hitems⟩ := List.forall₂_iff_zip.1 hitems.flip
    exact .array hlen fun _ _ hmem => hitems hmem
  | @object xs ys hlen hfound _ ih =>
    rw [distinctKeys_object] at hv hw
    have hperm := perm_keys_of_found hv.1 hlen hfound
    refine .object hlen.symm (fun key y hy => ?_) fun key y x hy hx => ?_
    · have hkey : key ∈ xs.map Prod.fst := hperm.mem_iff.2 (List.mem_map_of_mem hy)
      rw [Option.isSome_iff_ne_none]
      exact fun hnone => lookup_eq_none.1 hnone hkey
    · have hxs := mem_of_lookup hx
      exact ih key x y hxs (lookup_of_nodup hw.1 hy) (hv.2 _ hxs) (hw.2 _ hy)

theorem equalTo_comm (hv : v.DistinctKeys) (hw : w.DistinctKeys) : EqualTo v w ↔ EqualTo w v :=
  ⟨fun h => h.symm hv hw, fun h => h.symm hw hv⟩

/-- Where the value on the right is put into another order, it is equal to the same values. -/
theorem equalTo_reordered_iff (hy : y.DistinctKeys) (h : y.Reordered w) :
    EqualTo x y ↔ EqualTo x w :=
  ⟨fun heq => heq.reordered hy h, fun heq => heq.reordered (h.distinctKeys hy) h.symm⟩

/-- For values in which no object has a key twice, equality by value is reflexive and symmetric, and the
order of members does not matter to it, at any depth of either value. -/
theorem equivalent_laws {x y : Value} (hx : x.DistinctKeys) (hy : y.DistinctKeys) :
    x.equivalent x = true ∧ x.equivalent y = y.equivalent x ∧
    (∀ x', x.Reordered x' → x'.equivalent y = x.equivalent y) ∧
    ∀ y', y.Reordered y' → x.equivalent y' = x.equivalent y := by
  refine ⟨equivalent_iff.2 (.refl hx), ?_, fun x' hx' => ?_, fun y' hy' => ?_⟩
  · rw [Bool.eq_iff_iff, equivalent_iff, equivalent_iff]
    exact equalTo_comm hx hy
  · rw [Bool.eq_iff_iff, equivalent_iff, equivalent_iff, equalTo_comm (hx'.distinctKeys hx) hy,
      equalTo_comm hx hy]
    exact (equalTo_reordered_iff hx hx').symm
  · rw [Bool.eq_iff_iff, equivalent_iff, equivalent_iff]
    exact (equalTo_reordered_iff hy hy').symm

end Value

end ServiceContract.Json

namespace ServiceContract

open Json (Number Value)

namespace Sample

/-- Marks with their number in front. -/
def counted (count : Number) (marks : Value) : Value := .array [.number count, marks]

/-- One, as a floating-point number. -/
def oneAsFloat : Number := .float { Binary64.zero false with exponent := ⟨1023, by decide⟩ }

end Sample

/-- Marks that are counted in two forms are equal, in both directions, and also if their members come the
other way round on one side. -/
theorem Json.Value.equivalent_laws_marks :
    (Sample.counted (.ofNat 1) Sample.marks).DistinctKeys ∧
    (Sample.counted Sample.oneAsFloat Sample.marks).DistinctKeys ∧
    (Sample.counted (.ofNat 1) Sample.marks).Reordered
      (Sample.counted (.ofNat 1) Sample.marksReversed) ∧
    (Sample.counted (.ofNat 1) Sample.marks).equivalent
      (Sample.counted Sample.oneAsFloat Sample.marks) = true ∧
    (Sample.counted Sample.oneAsFloat Sample.marks).equivalent
      (Sample.counted (.ofNat 1) Sample.marks) = true ∧
    (Sample.counted (.ofNat 1) Sample.marksReversed).equivalent
      (Sample.counted Sample.oneAsFloat Sample.marks) = true := by
  have hkeys : ∀ count, (Sample.counted count Sample.marks).DistinctKeys := by
    intro count
    refine .array ?_
    simp [Sample.marks, Sample.mark, Sample.sides, Value.DistinctKeys.number count]
  have hreordered : (Sample.counted (.ofNat 1) Sample.marks).Reordered
      (Sample.counted (.ofNat 1) Sample.marksReversed) :=
    Value.reordered_array_iff.2 (.cons (.number _) (.cons Sample.reordered_marks .nil))
  have hequal : (Sample.counted (.ofNat 1) Sample.marks).equivalent
      (Sample.counted Sample.oneAsFloat Sample.marks) = true := by decide +kernel
  obtain ⟨-, hsymm, hleft, -⟩ := equivalent_laws (hkeys (.ofNat 1)) (hkeys Sample.oneAsFloat)
  exact ⟨hkeys _, hkeys _, hreordered, hequal, hsymm ▸ hequal, (hleft _ hreordered).trans hequal⟩

end ServiceContract
