import ServiceContract.Proofs.Json.NumberText

/-!
# Values with their numbers read again

A value whose text is read comes out with each number as its own text is read, and is refused for its
nesting or for a number that comes out too large, whichever is met first. So it comes out as itself
exactly if it nests no deeper than the reader goes and each of its floating-point numbers is read as
itself. If all of them are, nothing but the nesting is in the way.
-/

namespace ServiceContract.Json.Value

/-- Induction over a value with a hypothesis for every item and every member. -/
@[elab_as_elim]
theorem inductionOnParts {motive : Value → Prop} (v : Value) (null : motive .null)
    (bool : ∀ b, motive (.bool b)) (number : ∀ n, motive (.number n))
    (string : ∀ s, motive (.string s))
    (array : ∀ items, (∀ item ∈ items, motive item) → motive (.array items))
    (object : ∀ members : Members, (∀ member ∈ members, motive member.2) →
      motive (.object members)) : motive v := by
  induction h : sizeOf v using Nat.strongRecOn generalizing v with
  | ind n ih =>
    subst h
    cases v with
    | null => exact null
    | bool b => exact bool b
    | number n => exact number n
    | string s => exact string s
    | array items =>
      refine array items fun item hitem => ih _ ?_ item rfl
      have hsize := List.sizeOf_lt_of_mem hitem
      simp only [Value.array.sizeOf_spec]
      omega
    | object members =>
      refine object members fun member hmember => ih _ ?_ member.2 rfl
      have hsize := List.sizeOf_lt_of_mem hmember
      have hpair : sizeOf member = 1 + sizeOf member.1 + sizeOf member.2 := rfl
      simp only [Value.object.sizeOf_spec]
      omega

theorem nestingOfItems_le_iff {items : List Value} {depth : Nat} :
    nestingOfItems items ≤ depth ↔ ∀ item ∈ items, item.nesting ≤ depth := by
  induction items with
  | nil => exact ⟨fun _ => nofun, fun _ => Nat.zero_le depth⟩
  | cons item items ih => rw [nestingOfItems, Nat.max_le, ih, List.forall_mem_cons]

theorem nestingOfMembers_le_iff {members : Members} {depth : Nat} :
    nestingOfMembers members ≤ depth ↔ ∀ member ∈ members, member.2.nesting ≤ depth := by
  induction members with
  | nil => exact ⟨fun _ => nofun, fun _ => Nat.zero_le depth⟩
  | cons member members ih => rw [nestingOfMembers, Nat.max_le, ih, List.forall_mem_cons]

/-! ## What texts are read as -/

mutual

/-- What the text of a value is read as where arrays and objects may nest `depth` deep: the value, with
each number as its own text is read. -/
def reread : Nat → Value → Except Fault Value
  | _, .number n => n.reread.map .number
  | 0, .array _ => .error .nestingTooDeep
  | depth + 1, .array items => (rereadItems depth items).map .array
  | 0, .object _ => .error .nestingTooDeep
  | depth + 1, .object members => (rereadMembers depth members).map .object
  | _, v => .ok v
termination_by structural _ v => v

/-- What the texts of items are read as, one after the other. -/
def rereadItems (depth : Nat) : List Value → Except Fault (List Value)
  | [] => .ok []
  | item :: items => do return (← reread depth item) :: (← rereadItems depth items)
termination_by structural items => items

/-- What the texts of members are read as: their keys stay. -/
def rereadMembers (depth : Nat) : List (String × Value) → Except Fault Members
  | [] => .ok []
  | (key, v) :: members => do return (key, ← reread depth v) :: (← rereadMembers depth members)
termination_by structural members => members

end

theorem rereadItems_eq (depth : Nat) (items : List Value) :
    rereadItems depth items = items.mapM (reread depth) := by
  induction items with
  | nil => rfl
  | cons item items ih => rw [rereadItems, ih, List.mapM_cons]

theorem rereadMembers_eq (depth : Nat) (members : Members) :
    rereadMembers depth members =
      members.mapM fun m => (reread depth m.2).map fun v => (m.1, v) := by
  induction members with
  | nil => rfl
  | cons m members ih =>
    rw [rereadMembers, ih, List.mapM_cons]
    cases reread depth m.2 <;> rfl

/-- What is read has the same keys in the same order. -/
theorem map_fst_rereadMembers {depth : Nat} {members read : Members}
    (h : rereadMembers depth members = .ok read) : read.map Prod.fst = members.map Prod.fst := by
  rw [rereadMembers_eq, mapM_eq_ok] at h
  induction h with
  | nil => rfl
  | @cons m m' members read hm _ ih =>
    obtain ⟨v, -, rfl⟩ := map_eq_ok.1 hm
    rw [List.map_cons, List.map_cons, ih]

/-- Every floating-point number in the value, at any depth, is read as itself. -/
inductive FloatsReadBack : Value → Prop where
  /-- The null value. -/
  | null : FloatsReadBack .null
  /-- A truth value. -/
  | bool (b : Bool) : FloatsReadBack (.bool b)
  /-- An integer. -/
  | integer {n : Int} (hrange : -9223372036854775808 ≤ n ∧ n < 18446744073709551616) :
      FloatsReadBack (.number (.integer n hrange))
  /-- A floating-point number, if it is read as itself. -/
  | float {x : Binary64} (h : (Number.float x).reread = .ok (.float x)) :
      FloatsReadBack (.number (.float x))
  /-- A text. -/
  | string (s : String) : FloatsReadBack (.string s)
  /-- An array of such values. -/
  | array {items : List Value} (h : ∀ item ∈ items, FloatsReadBack item) :
      FloatsReadBack (.array items)
  /-- An object of such values. -/
  | object {members : Members} (h : ∀ m ∈ members, FloatsReadBack m.2) :
      FloatsReadBack (.object members)

@[simp]
theorem floatsReadBack_string {s : String} : (Value.string s).FloatsReadBack := .string s

@[simp]
theorem floatsReadBack_array {items : List Value} :
    (Value.array items).FloatsReadBack ↔ ∀ item ∈ items, item.FloatsReadBack :=
  ⟨fun | .array h => h, .array⟩

@[simp]
theorem floatsReadBack_object {members : Members} :
    (Value.object members).FloatsReadBack ↔ ∀ m ∈ members, m.2.FloatsReadBack :=
  ⟨fun | .object h => h, .object⟩

/-- If each element either fits and stays or is refused with one fault, so does the list. -/
theorem mapM_eq_ite {α : Type} {outcome : α → Except Fault α} {Fits : α → Prop} [DecidablePred Fits]
    {fault : Fault} {xs : List α}
    (h : ∀ x ∈ xs, outcome x = if Fits x then .ok x else .error fault) :
    xs.mapM outcome = if ∀ x ∈ xs, Fits x then .ok xs else .error fault := by
  induction xs with
  | nil => rfl
  | cons x xs ih =>
    have hx := h x List.mem_cons_self
    have hxs := ih fun y hy => h y (List.mem_cons_of_mem x hy)
    rw [List.mapM_cons, hx, hxs]
    by_cases hfits : Fits x
    · by_cases hall : ∀ y ∈ xs, Fits y
      · rw [if_pos hfits, if_pos hall, if_pos (List.forall_mem_cons.2 ⟨hfits, hall⟩)]
        rfl
      · rw [if_pos hfits, if_neg hall, if_neg fun hboth => hall (List.forall_mem_cons.1 hboth).2]
        rfl
    · rw [if_neg hfits, if_neg fun hboth => hfits (List.forall_mem_cons.1 hboth).1]
      rfl

theorem reread_of_flat {v : Value} {depth : Nat} (hflat : v.nesting = 0) (h : v.reread depth = .ok v) :
    v.reread depth = if v.nesting ≤ depth then .ok v else .error .nestingTooDeep := by
  rw [h, hflat, if_pos (Nat.zero_le depth)]

/-- A value whose floating-point numbers are read as themselves is read as itself, unless it nests too
deeply. -/
theorem reread_of_floatsReadBack {v : Value} (h : v.FloatsReadBack) (depth : Nat) :
    v.reread depth = if v.nesting ≤ depth then .ok v else .error .nestingTooDeep := by
  induction h generalizing depth with
  | null => exact reread_of_flat rfl (by cases depth <;> rfl)
  | bool b => exact reread_of_flat rfl (by cases depth <;> rfl)
  | string s => exact reread_of_flat rfl (by cases depth <;> rfl)
  | integer hrange =>
    refine reread_of_flat rfl ?_
    rw [reread, Number.reread_integer]
    rfl
  | float hfloat =>
    refine reread_of_flat rfl ?_
    rw [reread, hfloat]
    rfl
  | @array items _ ih =>
    cases depth with
    | zero => rfl
    | succ depth =>
      have hfits : (Value.array items).nesting ≤ depth + 1 ↔ ∀ item ∈ items, item.nesting ≤ depth :=
        Nat.succ_le_succ_iff.trans nestingOfItems_le_iff
      rw [reread, rereadItems_eq, mapM_eq_ite fun item hitem => ih item hitem depth]
      by_cases hall : ∀ item ∈ items, item.nesting ≤ depth
      · rw [if_pos hall, if_pos (hfits.2 hall)]
        rfl
      · rw [if_neg hall, if_neg fun hdeep => hall (hfits.1 hdeep)]
        rfl
  | @object members _ ih =>
    cases depth with
    | zero => rfl
    | succ depth =>
      have hfits : (Value.object members).nesting ≤ depth + 1 ↔ ∀ m ∈ members, m.2.nesting ≤ depth :=
        Nat.succ_le_succ_iff.trans nestingOfMembers_le_iff
      have hmember : ∀ m ∈ members, ((m.2.reread depth).map fun v => (m.1, v)) =
          if m.2.nesting ≤ depth then .ok m else .error .nestingTooDeep := by
        intro m hm
        rw [ih m hm depth]
        split <;> rfl
      rw [reread, rereadMembers_eq, mapM_eq_ite hmember]
      by_cases hall : ∀ m ∈ members, m.2.nesting ≤ depth
      · rw [if_pos hall, if_pos (hfits.2 hall)]
        rfl
      · rw [if_neg hall, if_neg fun hdeep => hall (hfits.1 hdeep)]
        rfl

/-- What is read as itself has floating-point numbers that are. -/
theorem floatsReadBack_of_reread {v : Value} {depth : Nat} (h : v.reread depth = .ok v) :
    v.FloatsReadBack := by
  induction v using Value.inductionOnParts generalizing depth with
  | null => exact .null
  | bool b => exact .bool b
  | string s => exact .string s
  | number n =>
    rw [reread] at h
    obtain ⟨m, hread, hm⟩ := map_eq_ok.1 h
    cases hm
    cases n with
    | integer n hrange => exact .integer hrange
    | float x => exact .float hread
  | array items ih =>
    cases depth with
    | zero => cases h
    | succ depth =>
      rw [reread, rereadItems_eq] at h
      obtain ⟨read, hread, hitems⟩ := map_eq_ok.1 h
      cases hitems
      exact .array fun item hitem =>
        ih item hitem (List.forall₂_same.1 (mapM_eq_ok.1 hread) item hitem)
  | object members ih =>
    cases depth with
    | zero => cases h
    | succ depth =>
      rw [reread, rereadMembers_eq] at h
      obtain ⟨read, hread, hmembers⟩ := map_eq_ok.1 h
      cases hmembers
      refine .object fun m hm => ?_
      obtain ⟨v, hv, hpair⟩ := map_eq_ok.1 (List.forall₂_same.1 (mapM_eq_ok.1 hread) m hm)
      have hvalue : v = m.2 := (Prod.mk.inj hpair).2
      exact ih m hm (hvalue ▸ hv)

/-- Reading undoes writing if neither the nesting nor a floating-point number is in the way. -/
theorem reread_eq_self_iff {v : Value} {depth : Nat} :
    v.reread depth = .ok v ↔ v.nesting ≤ depth ∧ v.FloatsReadBack := by
  constructor
  · intro h
    have hfloats := floatsReadBack_of_reread h
    rw [reread_of_floatsReadBack hfloats] at h
    split at h
    · exact ⟨‹_›, hfloats⟩
    · cases h
  · rintro ⟨hfits, hfloats⟩
    rw [reread_of_floatsReadBack hfloats, if_pos hfits]

/-- What is refused nests too deeply or has a number that comes out too large. -/
theorem reread_error {v : Value} {depth : Nat} {fault : Fault} (h : v.reread depth = .error fault) :
    fault = .nestingTooDeep ∨ fault = .numberOutOfRange := by
  induction v using Value.inductionOnParts generalizing depth with
  | null => cases depth <;> cases h
  | bool b => cases depth <;> cases h
  | string s => cases depth <;> cases h
  | number n =>
    rw [reread, map_eq_error] at h
    exact .inr (Number.reread_error h)
  | array items ih =>
    cases depth with
    | zero =>
      cases h
      exact .inl rfl
    | succ depth =>
      rw [reread, map_eq_error, rereadItems_eq] at h
      obtain ⟨item, hitem, hfault⟩ := exists_of_mapM_eq_error h
      exact ih item hitem hfault
  | object members ih =>
    cases depth with
    | zero =>
      cases h
      exact .inl rfl
    | succ depth =>
      rw [reread, map_eq_error, rereadMembers_eq] at h
      obtain ⟨m, hm, hfault⟩ := exists_of_mapM_eq_error h
      exact ih m hm (map_eq_error.1 hfault)

end ServiceContract.Json.Value
