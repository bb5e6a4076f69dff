import Mathlib.Data.List.Perm.Basic
import ServiceContract.Proofs.Json.ValueText
import ServiceContract.Proofs.Validation.Selection

/-!
# The order of members

Two values may differ in the order in which the members of their objects come, at any depth. A schema
reads members by their keys: fields are looked up, a closed object asks of each key whether it is
declared, and literals are compared without regard to order. So values that differ in nothing else
conform to the same schemas, and the same alternative is chosen for them.
-/

namespace ServiceContract

open Json (Number Value Members)

/-! ## Values in another order -/

namespace Json.Value

/-- The second value is the first one with the members of its objects in another order. -/
inductive Reordered : Value → Value → Prop where
  /-- The null value. -/
  | null : Reordered .null .null
  /-- A truth value. -/
  | bool (b : Bool) : Reordered (.bool b) (.bool b)
  /-- A number. -/
  | number (n : Number) : Reordered (.number n) (.number n)
  /-- A text. -/
  | string (s : String) : Reordered (.string s) (.string s)
  /-- Arrays keep the order of their items. -/
  | array {items items' : List Value} (hlen : items.length = items'.length)
      (hitems : ∀ item item', (item, item') ∈ items.zip items' → Reordered item item') :
      Reordered (.array items) (.array items')
  /-- The members of an object come in another order, and their values may be reordered as well. -/
  | object {members between members' : Members} (horder : members.Perm between)
      (hlen : between.length = members'.length)
      (hkeys : ∀ entry entry', (entry, entry') ∈ between.zip members' → entry'.1 = entry.1)
      (hvalues : ∀ entry entry', (entry, entry') ∈ between.zip members' →
        Reordered entry.2 entry'.2) : Reordered (.object members) (.object members')

/-- Two members of the same key with values that are reordered. -/
def ReorderedMember (entry entry' : String × Value) : Prop :=
  entry'.1 = entry.1 ∧ entry.2.Reordered entry'.2

section Reordered

variable {v w expected : Value} {items items' : List Value} {members members' : Members}

theorem reordered_array_iff : (Value.array items).Reordered (.array items') ↔
    List.Forall₂ Reordered items items' := by
  rw [List.forall₂_iff_zip]
  exact ⟨fun | .array hlen hitems => ⟨hlen, fun h => hitems _ _ h⟩,
    fun ⟨hlen, hitems⟩ => .array hlen fun _ _ h => hitems h⟩

theorem reordered_object_iff : (Value.object members).Reordered (.object members') ↔
    ∃ between, members.Perm between ∧ List.Forall₂ ReorderedMember between members' := by
  simp only [List.forall₂_iff_zip]
  constructor
  · rintro (_ | _ | _ | _ | _ | ⟨horder, hlen, hkeys, hvalues⟩)
    exact ⟨_, horder, hlen, fun h => ⟨hkeys _ _ h, hvalues _ _ h⟩⟩
  · rintro ⟨between, horder, hlen, hmembers⟩
    exact .object horder hlen (fun _ _ h => (hmembers h).1) fun _ _ h => (hmembers h).2

/-! What reordered values look like, told by the first of them. -/

theorem Reordered.of_array (h : (Value.array items).Reordered w) :
    ∃ items', w = .array items' ∧ List.Forall₂ Reordered items items' := by
  cases h with
  | array hlen hitems => exact ⟨_, rfl, reordered_array_iff.1 (.array hlen hitems)⟩

theorem Reordered.of_object (h : (Value.object members).Reordered w) :
    ∃ members', w = .object members' ∧ (Value.object members).Reordered (.object members') := by
  cases h with
  | object horder hlen hkeys hvalues => exact ⟨_, rfl, .object horder hlen hkeys hvalues⟩

theorem Reordered.symm (h : v.Reordered w) : w.Reordered v := by
  induction h with
  | null => exact .null
  | bool b => exact .bool b
  | number n => exact .number n
  | string s => exact .string s
  | array hlen _ ih =>
    rw [reordered_array_iff]
    exact (List.forall₂_iff_zip.2 ⟨hlen, fun h => ih _ _ h⟩).flip
  | object horder hlen hkeys _ ih =>
    have hmembers : List.Forall₂ (flip ReorderedMember) _ _ :=
      List.forall₂_iff_zip.2 ⟨hlen, fun h => ⟨(hkeys _ _ h).symm, ih _ _ h⟩⟩
    -- The members are first put back one by one and then brought back into their order.
    obtain ⟨between, hmembers, horder⟩ := List.perm_comp_forall₂ horder hmembers
    exact reordered_object_iff.2 ⟨between, horder.symm, hmembers.flip⟩

/-! ## Keys and members -/

/-- Both objects have the same keys. -/
theorem Reordered.perm_keys (h : (Value.object members).Reordered (.object members')) :
    (members.map Prod.fst).Perm (members'.map Prod.fst) := by
  obtain ⟨between, horder, hmembers⟩ := reordered_object_iff.1 h
  have hsame : between.map Prod.fst = members'.map Prod.fst :=
    map_eq_map_of_forall₂ hmembers fun _ _ h => h.1.symm
  rw [← hsame]
  exact horder.map Prod.fst

/-- Under each key of an object stand values that are reordered. -/
theorem Reordered.lookup (h : (Value.object members).Reordered (.object members'))
    (hkeys : (members.map Prod.fst).Nodup) (key : String) :
    Option.Rel Reordered (members.lookup key) (members'.lookup key) := by
  obtain ⟨between, horder, hmembers⟩ := reordered_object_iff.1 h
  rw [← lookup_of_perm hkeys horder]
  exact rel_lookup (r := fun _ => Reordered) hmembers key

theorem Reordered.distinctKeys (h : v.Reordered w) (hv : v.DistinctKeys) : w.DistinctKeys := by
  induction h with
  | null | bool | number | string => exact hv
  | array hlen _ ih =>
    rw [distinctKeys_array] at hv ⊢
    have hpairs := List.forall₂_iff_zip.2 ⟨hlen, fun hmem => ih _ _ hmem⟩
    intro item' hitem'
    obtain ⟨item, hitem, h⟩ := exists_of_forall₂_right hpairs hitem'
    exact h (hv item hitem)
  | object horder hlen hkeys hvalues ih =>
    rw [distinctKeys_object] at hv ⊢
    have hpairs := List.forall₂_iff_zip.2 ⟨hlen, fun hmem => ih _ _ hmem⟩
    refine ⟨(Reordered.object horder hlen hkeys hvalues).perm_keys.nodup_iff.1 hv.1, ?_⟩
    intro entry' hentry'
    obtain ⟨entry, hentry, h⟩ := exists_of_forall₂_right hpairs hentry'
    exact h (hv.2 entry (horder.mem_iff.2 hentry))

/-- What is said of each item in its place and of every reordering of it is said of reordered items. -/
theorem forall₂_reordered {α : Type} {R : α → Value → Prop} {as : List α}
    (hlen : as.length = items.length)
    (h : ∀ a item, (a, item) ∈ as.zip items → ∀ {item'}, item.Reordered item' → R a item')
    (hitems : List.Forall₂ Reordered items items') : List.Forall₂ R as items' := by
  have hleft : List.Forall₂ (fun a item => ∀ {item'}, item.Reordered item' → R a item') as items :=
    List.forall₂_iff_zip.2 ⟨hlen, fun hmem => h _ _ hmem⟩
  exact (forall₂_comp hleft hitems).imp fun _ _ ⟨_, ha, hsame⟩ => ha hsame

/-- A literal is equal to a value in whichever order the members of the value come. -/
theorem EqualTo.reordered (heq : EqualTo expected v) (hkeys : v.DistinctKeys) (h : v.Reordered w) :
    EqualTo expected w := by
  induction heq generalizing w with
  | null | bool | string =>
    cases h
    constructor
  | number heq =>
    cases h
    exact .number heq
  | @array xs ys hlen _ ih =>
    obtain ⟨zs, rfl, hitems⟩ := h.of_array
    rw [distinctKeys_array] at hkeys
    have hequal : List.Forall₂ EqualTo xs zs :=
      forall₂_reordered hlen (fun x y hmem => ih x y hmem (hkeys y (List.of_mem_zip hmem).2)) hitems
    obtain ⟨hlen, hequal⟩ := List.forall₂_iff_zip.1 hequal
    exact .array hlen fun _ _ hmem => hequal hmem
  | @object xs ys hlen hfound _ ih =>
    obtain ⟨zs, rfl, h⟩ := h.of_object
    rw [distinctKeys_object] at hkeys
    have hlength : ys.length = zs.length := by simpa using h.perm_keys.length_eq
    refine .object (hlen.trans hlength) ?_ ?_
    · intro key x hmem
      rw [← rel_isSome (h.lookup hkeys.1 key)]
      exact hfound key x hmem
    · intro key x z hmem hz
      obtain ⟨y, hy, hyz⟩ := exists_of_rel_some (h.lookup hkeys.1 key) hz
      exact ih key x y hmem hy (hkeys.2 (key, y) (mem_of_lookup hy)) hyz

end Reordered

end Json.Value

/-! ## Conformance -/

section Conformance

variable {allowed : Nat → Prop} {depth maxDepth count : Nat} {schema inner : Schema}
  {registry home : Registry} {v w : Value} {answer : Option Nat}

/-- A value that a primitive allows has no parts. -/
theorem Primitive.Allows.reordered {p : Primitive} (hv : p.Allows v) (h : v.Reordered w) :
    p.Allows w := by
  cases hv with
  | null hkind =>
    cases h
    exact .null hkind
  | boolean hkind b =>
    cases h
    exact .boolean hkind b
  | integer hkind hwhole hn =>
    cases h
    exact .integer hkind hwhole hn
  | number hkind hn =>
    cases h
    exact .number hkind hn
  | string hkind htext =>
    cases h
    exact .string hkind htext

/-- A derivation holds for a reordered value as well: what it says of a member is said of its key. -/
theorem Conforms.reordered (hv : Conforms allowed depth schema registry v) (hkeys : v.DistinctKeys)
    (h : v.Reordered w) : Conforms allowed depth schema registry w := by
  induction hv generalizing w with
  | const hdepth heq => exact .const hdepth (heq.reordered hkeys h)
  | enum hdepth hmem heq => exact .enum hdepth hmem (heq.reordered hkeys h)
  | primitive hdepth hallows => exact .primitive hdepth (hallows.reordered h)
  | @object _ registry fields closed members hdepth hrequired _ hclosed ih =>
    obtain ⟨members', rfl, h⟩ := h.of_object
    rw [Value.distinctKeys_object] at hkeys
    refine .object hdepth ?_ ?_ ?_
    · intro field hfield hfieldRequired
      rw [← rel_isSome (h.lookup hkeys.1 field.name)]
      exact hrequired field hfield hfieldRequired
    · intro field hfield value' hvalue'
      obtain ⟨value, hvalue, hsame⟩ := exists_of_rel_some (h.lookup hkeys.1 field.name) hvalue'
      exact ih field hfield value hvalue (hkeys.2 _ (mem_of_lookup hvalue)) hsame
    · intro hcl entry' hentry'
      obtain ⟨entry, hentry, hname⟩ :=
        List.mem_map.1 (h.perm_keys.mem_iff.2 (List.mem_map_of_mem hentry'))
      rw [← hname]
      exact hclosed hcl entry hentry
  | @tuple depth registry schemas items hdepth hlen _ ih =>
    obtain ⟨items', rfl, hsame⟩ := h.of_array
    rw [Value.distinctKeys_array] at hkeys
    have hconform : List.Forall₂ (fun schema item => Conforms allowed (depth + 1) schema registry item)
        schemas items' :=
      Value.forall₂_reordered hlen.symm
        (fun schema item hmem => ih schema item hmem (hkeys item (List.of_mem_zip hmem).2)) hsame
    obtain ⟨hlen, hconform⟩ := List.forall₂_iff_zip.1 hconform
    exact .tuple hdepth hlen.symm fun _ _ hmem => hconform hmem
  | @array depth registry schema minItems maxItems items hdepth hmin hmax _ ih =>
    obtain ⟨items', rfl, hsame⟩ := h.of_array
    rw [Value.distinctKeys_array] at hkeys
    rw [hsame.length_eq] at hmin hmax
    refine .array hdepth hmin hmax fun item' hitem' => ?_
    obtain ⟨item, hitem, hitemSame⟩ := exists_of_forall₂_right hsame hitem'
    exact ih item hitem (hkeys item hitem) hitemSame
  | union hdepth hmem _ ih => exact .union hdepth hmem (ih hkeys h)
  | reference hdepth hlookup _ ih => exact .reference hdepth hlookup (ih hkeys h)
  | anything hdepth => exact .anything hdepth

theorem conforms_reordered_iff (hkeys : v.DistinctKeys) (h : v.Reordered w) :
    Conforms allowed depth schema registry v ↔ Conforms allowed depth schema registry w :=
  ⟨fun hv => hv.reordered hkeys h, fun hw => hw.reordered (h.distinctKeys hkeys) h.symm⟩

namespace Validator

theorem check_reordered_iff {validator : Validator} (hkeys : v.DistinctKeys) (h : v.Reordered w) :
    validator.check v = .ok () ↔ validator.check w = .ok () := by
  rw [check_ok_iff_conforms, check_ok_iff_conforms, conforms_reordered_iff hkeys h]

/-- From a union the same alternative is chosen, since each is tried on both values alike. -/
theorem chosen_reordered_iff (hkeys : v.DistinctKeys) (h : v.Reordered w) :
    Chosen maxDepth home v inner answer ↔ Chosen maxDepth home w inner answer := by
  have htried : (fun schema => check ⟨schema, home, maxDepth⟩ v = .ok ()) =
      fun schema => check ⟨schema, home, maxDepth⟩ w = .ok () :=
    funext fun _ => propext (check_reordered_iff hkeys h)
  constructor
  · rintro (hfirst | ⟨hreference, hunion, hv⟩)
    · exact .alternative (htried ▸ hfirst)
    · exact .whole hreference hunion ((check_reordered_iff hkeys h).1 hv)
  · rintro (hfirst | ⟨hreference, hunion, hw⟩)
    · exact .alternative (htried ▸ hfirst)
    · exact .whole hreference hunion ((check_reordered_iff hkeys h).2 hw)

/-- Values that differ in nothing but the order of their members pass the same checks, and the same
alternative is chosen for them. -/
theorem verdict_reordered_iff (validator : Validator) {v w : Value} (hkeys : v.DistinctKeys)
    (h : v.Reordered w) :
    (validator.check v = .ok () ↔ validator.check w = .ok ()) ∧
    ∀ answer, validator.selectAlternative v = .ok answer ↔
      validator.selectAlternative w = .ok answer := by
  refine ⟨check_reordered_iff hkeys h, fun answer => ?_⟩
  simp only [selectAlternative, selectFrom_eq_ok_iff, chosen_reordered_iff hkeys h]

end Validator

end Conformance

namespace Sample

/-- A mark with two members inside a list. -/
def mark (inner : Members) : Value :=
  .object [("kind", .string "box"), ("sides", .array [.object inner])]

/-- The members of the mark inside. -/
def sides : Members := [("height", .string "low"), ("width", .string "narrow")]

/-- Objects with a fixed mark and nothing else but another such object, next to arrays. -/
def marked : Registry :=
  ⟨[⟨"marked", "A sample.", .union [.array .anything none none, .object
    [⟨"mark", .const (mark sides), true⟩, ⟨"next", .reference (.inside "marked"), false⟩] true]⟩], []⟩

/-- A check of this type. -/
def marking : Validator := ⟨.reference (.inside "marked"), marked, defaultMaxDepth⟩

/-- Two marks, one inside the other. -/
def marks : Value := .object [("mark", mark sides), ("next", .object [("mark", mark sides)])]

/-- The same marks with all members the other way round. -/
def marksReversed : Value :=
  .object [("next", .object [("mark", mark sides.reverse)]), ("mark", mark sides.reverse)]

theorem reordered_mark : (mark sides).Reordered (mark sides.reverse) := by
  have hsides : (Value.object sides).Reordered (.object sides.reverse) :=
    Value.reordered_object_iff.2 ⟨_, sides.reverse_perm.symm,
      .cons ⟨rfl, .string _⟩ (.cons ⟨rfl, .string _⟩ .nil)⟩
  exact Value.reordered_object_iff.2 ⟨_, .refl _, .cons ⟨rfl, .string _⟩
    (.cons ⟨rfl, Value.reordered_array_iff.2 (.cons hsides .nil)⟩ .nil)⟩

theorem reordered_marks : marks.Reordered marksReversed := by
  have hnext : (Value.object [("mark", mark sides)]).Reordered
      (.object [("mark", mark sides.reverse)]) :=
    Value.reordered_object_iff.2 ⟨_, .refl _, .cons ⟨rfl, reordered_mark⟩ .nil⟩
  exact Value.reordered_object_iff.2 ⟨_, .swap _ _ [],
    .cons ⟨rfl, hnext⟩ (.cons ⟨rfl, reordered_mark⟩ .nil)⟩

end Sample

/-- The second alternative is chosen for both orders of the marks. -/
theorem Validator.verdict_reordered_iff_marks :
    Sample.marks.DistinctKeys ∧ Sample.marks.Reordered Sample.marksReversed ∧
    Sample.marking.check Sample.marks = .ok () ∧ Sample.marking.check Sample.marksReversed = .ok () ∧
    Sample.marking.selectAlternative Sample.marks = .ok (some 1) ∧
    Sample.marking.selectAlternative Sample.marksReversed = .ok (some 1) := by
  have hkeys : Sample.marks.DistinctKeys := by simp [Sample.marks, Sample.mark, Sample.sides]
  obtain ⟨hcheck, hselect⟩ := verdict_reordered_iff Sample.marking hkeys Sample.reordered_marks
  have hchecked : Sample.marking.check Sample.marks = .ok () := by rfl
  have hselected : Sample.marking.selectAlternative Sample.marks = .ok (some 1) := by rfl
  exact ⟨hkeys, Sample.reordered_marks, hchecked, hcheck.1 hchecked, hselected,
    (hselect (some 1)).1 hselected⟩

end ServiceContract
