import Mathlib.Data.List.Forall2
import ServiceContract.Document.Resolution
import ServiceContract.Text.NameOrder

/-!
# Tables and sets by name

What is found in a table after an entry was put in or taken out, what is in a set of names, which
element a list stops at that is gone through in order, and that two lists whose elements are related one
by one lead to related elements when they are searched in the same way.
-/

namespace ServiceContract

variable {α β : Type}

/-- The first entry of a key counts. -/
theorem lookup_cons {name key : String} {value : α} {rest : List (String × α)} :
    ((name, value) :: rest).lookup key = if key = name then some value else rest.lookup key := by
  by_cases hkey : key = name
  · simp [hkey]
  · have hne : (key == name) = false := by simpa using hkey
    rw [List.lookup_cons, hne, if_neg hkey]

/-- Putting an entry in changes what is found under its name and nothing else. -/
theorem lookup_putEntry {name key : String} {value : α} {entries : List (String × α)} :
    (putEntry name value entries).lookup key =
      if key = name then some value else entries.lookup key := by
  induction entries with
  | nil => rw [putEntry, lookup_cons]
  | cons entry rest ih =>
    obtain ⟨n, v⟩ := entry
    unfold putEntry
    by_cases hlt : name < n
    · rw [if_pos hlt, lookup_cons]
    · by_cases hname : name = n
      · subst hname
        rw [if_neg hlt, if_pos rfl, lookup_cons, lookup_cons]
        by_cases hkey : key = name <;> simp [hkey]
      · rw [if_neg hlt, if_neg hname, lookup_cons, lookup_cons, ih]
        by_cases hkey : key = n
        · have hne : n ≠ name := Ne.symm hname
          simp [hkey, hne]
        · simp [hkey]

theorem lookup_putEntry_self {name : String} {value : α} {entries : List (String × α)} :
    (putEntry name value entries).lookup name = some value := by
  rw [lookup_putEntry, if_pos rfl]

theorem lookup_putEntry_of_ne {name key : String} {value : α} {entries : List (String × α)}
    (h : key ≠ name) : (putEntry name value entries).lookup key = entries.lookup key := by
  rw [lookup_putEntry, if_neg h]

/-- Entries that are found are still found after one under a new name was put in. -/
theorem lookup_putEntry_of_some {name key : String} {value found : α}
    {entries : List (String × α)} (hnew : entries.lookup name = none)
    (h : entries.lookup key = some found) :
    (putEntry name value entries).lookup key = some found := by
  have hne : key ≠ name := by
    rintro rfl
    rw [hnew] at h
    cases h
  rw [lookup_putEntry_of_ne hne, h]

/-- What holds of all entries that are found and of the one that is put in holds of all that are found
then. -/
theorem forall_lookup_putEntry {name key : String} {value found : α} {entries : List (String × α)}
    {P : String → α → Prop} (hentries : ∀ k v, entries.lookup k = some v → P k v)
    (hnew : P name value) (h : (putEntry name value entries).lookup key = some found) :
    P key found := by
  rw [lookup_putEntry] at h
  by_cases hkey : key = name
  · rw [if_pos hkey] at h
    cases h
    rw [hkey]
    exact hnew
  · rw [if_neg hkey] at h
    exact hentries key found h

theorem mem_putEntry {name : String} {value : α} {entries : List (String × α)}
    {entry : String × α} (h : entry ∈ putEntry name value entries) :
    entry = (name, value) ∨ entry ∈ entries := by
  induction entries with
  | nil => simpa [putEntry] using h
  | cons head rest ih =>
    obtain ⟨n, v⟩ := head
    unfold putEntry at h
    split at h
    · exact List.mem_cons.1 h
    · split at h
      · rcases List.mem_cons.1 h with h | h
        · exact .inl h
        · exact .inr (List.mem_cons_of_mem _ h)
      · rcases List.mem_cons.1 h with h | h
        · exact .inr (h ▸ List.mem_cons_self ..)
        · exact (ih h).imp_right (List.mem_cons_of_mem _)

/-- Nothing is found under a key if and only if there is no entry with it. -/
theorem lookup_eq_none {key : String} {entries : List (String × α)} :
    entries.lookup key = none ↔ key ∉ entries.map Prod.fst := by
  induction entries with
  | nil => simp
  | cons entry rest ih =>
    obtain ⟨name, value⟩ := entry
    rw [lookup_cons, List.map_cons, List.mem_cons, not_or, ← ih]
    by_cases hkey : key = name <;> simp [hkey]

/-- Putting an entry in puts its name in. -/
theorem keys_putEntry {name : String} {value : α} {entries : List (String × α)} :
    (putEntry name value entries).map Prod.fst = insertName name (entries.map Prod.fst) := by
  induction entries with
  | nil => rfl
  | cons entry rest ih =>
    obtain ⟨n, v⟩ := entry
    unfold putEntry
    rw [List.map_cons, insertName]
    split
    · rfl
    · split
      · next heq => simp [heq]
      · rw [List.map_cons, ih]

theorem perm_insertName {name : String} {names : List String} (hnew : name ∉ names) :
    (insertName name names).Perm (name :: names) := by
  induction names with
  | nil => exact .refl _
  | cons n rest ih =>
    rw [List.mem_cons, not_or] at hnew
    unfold insertName
    split
    · exact .refl _
    · rw [if_neg hnew.1]
      exact ((ih hnew.2).cons n).trans (.swap name n rest)

theorem ascending_putEntry {name : String} {value : α} {entries : List (String × α)}
    (h : Ascending (entries.map Prod.fst)) :
    Ascending ((putEntry name value entries).map Prod.fst) := by
  rw [keys_putEntry]
  exact ascending_insertName h

theorem ascending_nameTable (entries : List (String × α)) :
    Ascending ((nameTable entries).map Prod.fst) := by
  have hfold : ∀ (entries table : List (String × α)), Ascending (table.map Prod.fst) →
      Ascending ((entries.foldl (fun table entry => putEntry entry.1 entry.2 table) table).map
        Prod.fst) := by
    intro entries
    induction entries with
    | nil => exact fun _ h => h
    | cons entry rest ih => exact fun table h => ih _ (ascending_putEntry h)
  exact hfold entries [] List.Pairwise.nil

/-- An entry behind all others is put at the end. -/
theorem putEntry_of_last {name : String} {value : α} {entries : List (String × α)}
    (h : ∀ key ∈ entries.map Prod.fst, key < name) :
    putEntry name value entries = entries ++ [(name, value)] := by
  induction entries with
  | nil => rfl
  | cons entry rest ih =>
    obtain ⟨key, v⟩ := entry
    rw [List.map_cons, List.forall_mem_cons] at h
    have hlt : ¬ name < key := String.lt_asymm h.1
    have hne : name ≠ key := (Std.ne_of_lt h.1).symm
    rw [putEntry, if_neg hlt, if_neg hne, ih h.2, List.cons_append]

theorem foldl_putEntry_of_ascending {entries table : List (String × α)}
    (h : Ascending ((table ++ entries).map Prod.fst)) :
    entries.foldl (fun table entry => putEntry entry.1 entry.2 table) table = table ++ entries := by
  induction entries generalizing table with
  | nil => rw [List.foldl_nil, List.append_nil]
  | cons entry rest ih =>
    have hlast : ∀ key ∈ table.map Prod.fst, key < entry.1 := by
      intro key hkey
      rw [List.map_append, List.map_cons] at h
      exact (List.pairwise_append.1 h).2.2 key hkey entry.1 List.mem_cons_self
    rw [List.foldl_cons, putEntry_of_last hlast, ih, List.append_assoc, List.singleton_append]
    rw [List.append_assoc, List.singleton_append]
    exact h

/-- A table that is in order already is made of its entries again. -/
theorem nameTable_of_ascending {entries : List (String × α)} (h : Ascending (entries.map Prod.fst)) :
    nameTable entries = entries :=
  foldl_putEntry_of_ascending h

/-- Nothing is found under the names before the first one. -/
theorem lookup_of_ascending {name key : String} {value : α} {rest : List (String × α)}
    (h : Ascending (((name, value) :: rest).map Prod.fst)) (hle : key ≤ name) :
    rest.lookup key = none := by
  rw [lookup_eq_none]
  intro hmem
  have hlt : name < key := (List.pairwise_cons.1 h).1 key hmem
  exact String.not_lt.2 hle hlt

/-- Two tables in which the same is found are equal. -/
theorem eq_of_lookup_eq {entries entries' : List (String × α)}
    (h : Ascending (entries.map Prod.fst)) (h' : Ascending (entries'.map Prod.fst))
    (hsame : ∀ key, entries.lookup key = entries'.lookup key) : entries = entries' := by
  induction entries generalizing entries' with
  | nil =>
    cases entries' with
    | nil => rfl
    | cons entry' rest' =>
      obtain ⟨n', v'⟩ := entry'
      have hfound := hsame n'
      rw [lookup_cons, if_pos rfl] at hfound
      cases hfound
  | cons entry rest ih =>
    obtain ⟨n, v⟩ := entry
    cases entries' with
    | nil =>
      have hfound := hsame n
      rw [lookup_cons, if_pos rfl] at hfound
      cases hfound
    | cons entry' rest' =>
      obtain ⟨n', v'⟩ := entry'
      have hfirst : n = n' := by
        by_contra hne
        rcases String.le_total n n' with hle | hle
        · have hfound := hsame n
          rw [lookup_cons, if_pos rfl, lookup_cons, if_neg hne, lookup_of_ascending h' hle] at hfound
          cases hfound
        · have hfound := hsame n'
          rw [lookup_cons, if_neg (Ne.symm hne), lookup_of_ascending h hle, lookup_cons,
            if_pos rfl] at hfound
          cases hfound
      subst hfirst
      have hvalue := hsame n
      rw [lookup_cons, if_pos rfl, lookup_cons, if_pos rfl] at hvalue
      cases hvalue
      have hrest : rest = rest' := by
        refine ih (List.Pairwise.of_cons h) (List.Pairwise.of_cons h') fun key => ?_
        by_cases hkey : key = n
        · rw [hkey, lookup_of_ascending h (String.le_refl n),
            lookup_of_ascending h' (String.le_refl n)]
        · have hkey' := hsame key
          rwa [lookup_cons, if_neg hkey, lookup_cons, if_neg hkey] at hkey'
      rw [hrest]

theorem mem_nameTable {entries : List (String × α)} {entry : String × α}
    (h : entry ∈ nameTable entries) : entry ∈ entries := by
  have hfold : ∀ entries table : List (String × α),
      entry ∈ entries.foldl (fun table entry => putEntry entry.1 entry.2 table) table →
        entry ∈ table ∨ entry ∈ entries := by
    intro entries
    induction entries with
    | nil => simp
    | cons first rest ih =>
      intro table h
      rcases ih _ h with h | h
      · rcases mem_putEntry h with rfl | h
        · exact .inr (List.mem_cons_self ..)
        · exact .inl h
      · exact .inr (List.mem_cons_of_mem _ h)
  exact (hfold entries [] h).resolve_left List.not_mem_nil

theorem isSome_lookup_putEntry {key name : String} {value : α} {entries : List (String × α)}
    (h : key = name ∨ (entries.lookup key).isSome) :
    ((putEntry name value entries).lookup key).isSome := by
  rw [lookup_putEntry]
  split
  · rfl
  · next hne => exact h.resolve_left hne

/-- Every entry is there under its key, or a later one with this key. -/
theorem isSome_lookup_nameTable {entries : List (String × α)} {entry : String × α}
    (h : entry ∈ entries) : ((nameTable entries).lookup entry.1).isSome := by
  have hfold : ∀ entries table : List (String × α),
      (table.lookup entry.1).isSome ∨ entry ∈ entries →
        ((entries.foldl (fun table entry => putEntry entry.1 entry.2 table) table).lookup
          entry.1).isSome := by
    intro entries
    induction entries with
    | nil => simp
    | cons first rest ih =>
      rintro table (hthere | hmem)
      · exact ih _ (.inl (isSome_lookup_putEntry (.inr hthere)))
      · rcases List.mem_cons.1 hmem with rfl | hmem
        · exact ih _ (.inl (isSome_lookup_putEntry (.inl rfl)))
        · exact ih _ (.inr hmem)
  exact hfold entries [] (.inr h)

theorem mem_of_lookup {key : String} {value : α} {entries : List (String × α)}
    (h : entries.lookup key = some value) : (key, value) ∈ entries := by
  obtain ⟨before, after, rfl, -⟩ := List.lookup_eq_some_iff.1 h
  exact List.mem_append_right before (List.mem_cons_self ..)

/-- Among entries with different keys, each is found under its key. -/
theorem lookup_of_nodup {key : String} {value : α} {entries : List (String × α)}
    (hkeys : (entries.map Prod.fst).Nodup) (h : (key, value) ∈ entries) :
    entries.lookup key = some value := by
  induction entries with
  | nil => cases h
  | cons entry rest ih =>
    obtain ⟨k, v⟩ := entry
    rw [List.map_cons, List.nodup_cons] at hkeys
    rw [lookup_cons]
    rcases List.mem_cons.1 h with heq | hrest
    · obtain ⟨rfl, rfl⟩ := Prod.mk.inj heq
      rw [if_pos rfl]
    · have hne : key ≠ k := by
        rintro rfl
        exact hkeys.1 (List.mem_map.2 ⟨_, hrest, rfl⟩)
      rw [if_neg hne, ih hkeys.2 hrest]

/-- In a table in order an entry is found under its key. -/
theorem lookup_eq_some_iff_mem {key : String} {value : α} {entries : List (String × α)}
    (h : Ascending (entries.map Prod.fst)) : entries.lookup key = some value ↔ (key, value) ∈ entries :=
  ⟨mem_of_lookup, lookup_of_nodup (h.imp Std.ne_of_lt)⟩

theorem lookup_withoutKey {name key : String} {entries : List (String × α)} :
    (withoutKey name entries).lookup key =
      if key = name then none else entries.lookup key := by
  induction entries with
  | nil => simp [withoutKey]
  | cons entry rest ih =>
    obtain ⟨k, v⟩ := entry
    unfold withoutKey at ih ⊢
    by_cases hk : k = name
    · subst hk
      rw [List.filter_cons_of_neg (by simp), ih]
      by_cases hkey : key = k <;> simp [lookup_cons, hkey]
    · rw [List.filter_cons_of_pos (by simpa using hk), lookup_cons, lookup_cons, ih]
      by_cases hkey : key = k
      · simp [hkey, hk]
      · simp [hkey]

theorem lookup_of_lookup_withoutKey {name key : String} {entries : List (String × α)} {value : α}
    (h : (withoutKey name entries).lookup key = some value) : entries.lookup key = some value := by
  rw [lookup_withoutKey] at h
  by_cases hkey : key = name
  · simp [hkey] at h
  · simpa [hkey] using h

theorem mem_nameSet {name : String} {names : List String} : name ∈ nameSet names ↔ name ∈ names := by
  have hfold : ∀ (names set : List String),
      name ∈ names.foldl (fun set name => insertName name set) set ↔ name ∈ set ∨ name ∈ names := by
    intro names
    induction names with
    | nil => simp
    | cons n rest ih =>
      intro set
      rw [List.foldl_cons, ih, mem_insertName, List.mem_cons]
      tauto
  unfold nameSet
  rw [hfold]
  simp

theorem find?_name_eq_none [BEq β] [LawfulBEq β] {name : α → β} {as : List α} {n : β} :
    (as.find? fun a => name a == n) = none ↔ n ∉ as.map name := by
  rw [List.find?_eq_none]
  constructor
  · rintro h hname
    obtain ⟨a, ha, rfl⟩ := List.mem_map.1 hname
    exact h a ha (beq_self_eq_true _)
  · intro h a ha hname
    exact h (List.mem_map.2 ⟨a, ha, eq_of_beq hname⟩)

/-- Among elements with different names, each is found under its name. -/
theorem find?_of_nodup [BEq β] [LawfulBEq β] {name : α → β} {as : List α}
    (hnames : (as.map name).Nodup) {a : α} (h : a ∈ as) : (as.find? fun b => name b == name a) = some a := by
  induction as with
  | nil => cases h
  | cons b rest ih =>
    rw [List.map_cons, List.nodup_cons] at hnames
    rcases List.mem_cons.1 h with rfl | h
    · rw [List.find?_cons_of_pos (by simp)]
    · have hne : name b ≠ name a := fun heq => hnames.1 (heq ▸ List.mem_map_of_mem h)
      rw [List.find?_cons_of_neg (by simpa using hne), ih hnames.2 h]

/-! Where keys and names are different, the order does not matter. -/

theorem lookup_of_perm {key : String} {entries entries' : List (String × α)}
    (hkeys : (entries.map Prod.fst).Nodup) (h : entries.Perm entries') :
    entries'.lookup key = entries.lookup key := by
  cases hfound : entries'.lookup key with
  | some value => exact (lookup_of_nodup hkeys (h.mem_iff.2 (mem_of_lookup hfound))).symm
  | none =>
    rw [lookup_eq_none, ← (h.map Prod.fst).mem_iff, ← lookup_eq_none] at hfound
    exact hfound.symm

theorem find?_of_perm [BEq β] [LawfulBEq β] {name : α → β} {as as' : List α} {n : β}
    (hnames : (as.map name).Nodup) (h : as.Perm as') :
    (as'.find? fun a => name a == n) = as.find? fun a => name a == n := by
  cases hfound : as'.find? fun a => name a == n with
  | some a =>
    have hname : name a = n := by simpa using List.find?_some hfound
    have hmem : a ∈ as := h.mem_iff.2 (List.mem_of_find?_eq_some hfound)
    rw [← hname, find?_of_nodup hnames hmem]
  | none =>
    refine (List.find?_eq_none.2 fun a hmem => ?_).symm
    exact List.find?_eq_none.1 hfound a (h.mem_iff.1 hmem)

/-! ## The first of a list -/

/-- A list that is gone through in order, and not to its end, has a first element that this stops at. The
positions may be counted from any number on. -/
theorem exists_first {P : Nat → List α → Prop} {Q : α → Prop} {R : Nat → α → Prop}
    (hnil : ∀ start, ¬ P start [])
    (hcons : ∀ start a rest, P start (a :: rest) → R start a ∨ Q a ∧ P (start + 1) rest)
    (start : Nat) {as : List α} (h : P start as) :
    ∃ (index : Nat) (a : α), as[index]? = some a ∧ (∀ earlier ∈ as.take index, Q earlier) ∧
      R (start + index) a := by
  induction as generalizing start with
  | nil => exact absurd h (hnil start)
  | cons a rest ih =>
    rcases hcons start a rest h with hstop | ⟨hpass, hrest⟩
    · exact ⟨0, a, rfl, List.forall_mem_nil _, hstop⟩
    · obtain ⟨index, b, hget, hbefore, hstop⟩ := ih (start + 1) hrest
      have hposition : start + (index + 1) = start + 1 + index := by omega
      refine ⟨index + 1, b, hget, List.forall_mem_cons.2 ⟨hpass, hbefore⟩, ?_⟩
      rw [hposition]
      exact hstop

/-! ## Searching related lists -/

/-- Lists related one by one, searched by conditions that agree on related elements. -/
theorem rel_find? {r : α → β → Prop} {p : α → Bool} {q : β → Bool} {as : List α} {bs : List β}
    (h : List.Forall₂ r as bs) (hpq : ∀ {a b}, r a b → p a = q b) :
    Option.Rel r (as.find? p) (bs.find? q) := by
  induction h with
  | nil => exact .none
  | @cons a b as bs hab _ ih =>
    rw [List.find?_cons, List.find?_cons, hpq hab]
    cases q b with
    | true => exact .some hab
    | false => exact ih

/-- Tables with the same keys in the same order lead under each key to related values. -/
theorem rel_lookup {r : (key : String) → α → β → Prop} {entries : List (String × α)}
    {entries' : List (String × β)}
    (h : List.Forall₂ (fun entry entry' => entry'.1 = entry.1 ∧ r entry.1 entry.2 entry'.2) entries
      entries') (key : String) :
    Option.Rel (r key) (entries.lookup key) (entries'.lookup key) := by
  induction h with
  | nil => exact .none
  | @cons entry entry' _ _ hentry _ ih =>
    obtain ⟨name, value⟩ := entry
    obtain ⟨_, value'⟩ := entry'
    obtain ⟨rfl, hrelated⟩ := hentry
    rw [lookup_cons, lookup_cons]
    split
    · next heq => exact .some (heq ▸ hrelated)
    · exact ih

theorem forall₂_comp {γ : Type} {r : α → β → Prop} {t : β → γ → Prop} {as : List α} {bs : List β}
    {cs : List γ} (h : List.Forall₂ r as bs) (h' : List.Forall₂ t bs cs) :
    List.Forall₂ (fun a c => ∃ b, r a b ∧ t b c) as cs := by
  induction h generalizing cs with
  | nil =>
    cases h'
    exact .nil
  | cons hab _ ih =>
    cases h' with
    | cons hbc hrest => exact .cons ⟨_, hab, hbc⟩ (ih hrest)

theorem exists_of_forall₂_right {r : α → β → Prop} {as : List α} {bs : List β}
    (h : List.Forall₂ r as bs) {b : β} (hb : b ∈ bs) : ∃ a ∈ as, r a b := by
  induction h with
  | nil => cases hb
  | cons hhead _ ih =>
    rcases List.mem_cons.1 hb with rfl | hb
    · exact ⟨_, List.mem_cons_self .., hhead⟩
    · obtain ⟨a, ha, hr⟩ := ih hb
      exact ⟨a, List.mem_cons_of_mem _ ha, hr⟩

theorem map_eq_map_of_forall₂ {γ : Type} {r : α → β → Prop} {f : α → γ} {g : β → γ} {as : List α}
    {bs : List β} (h : List.Forall₂ r as bs) (hfg : ∀ a b, r a b → f a = g b) :
    as.map f = bs.map g := by
  have hsame : List.Forall₂ Eq (as.map f) (bs.map g) := by
    rw [List.forall₂_map_left_iff, List.forall₂_map_right_iff]
    exact h.imp hfg
  exact List.forall₂_eq_eq_eq ▸ hsame

/-- Conditions that agree on related elements hold of some element of both lists or of neither. -/
theorem exists_mem_iff_of_forall₂ {r : α → β → Prop} {P : α → Prop} {Q : β → Prop} {as : List α}
    {bs : List β} (h : List.Forall₂ r as bs) (hPQ : ∀ {a b}, r a b → (P a ↔ Q b)) :
    (∃ a ∈ as, P a) ↔ ∃ b ∈ bs, Q b := by
  induction h with
  | nil => simp
  | cons hhead _ ih => simp only [List.exists_mem_cons_iff, hPQ hhead, ih]

theorem forall_mem_iff_of_forall₂ {r : α → β → Prop} {P : α → Prop} {Q : β → Prop} {as : List α}
    {bs : List β} (h : List.Forall₂ r as bs) (hPQ : ∀ {a b}, r a b → (P a ↔ Q b)) :
    (∀ a ∈ as, P a) ↔ ∀ b ∈ bs, Q b := by
  induction h with
  | nil => simp
  | cons hhead _ ih => simp only [List.forall_mem_cons, hPQ hhead, ih]

/-- Conditions that agree on related elements hold of all pairs with a third list, for
both lists or for neither. -/
theorem forall_mem_zip_iff_of_forall₂ {γ : Type} {r : α → β → Prop} {P : α → γ → Prop}
    {Q : β → γ → Prop} {as : List α} {bs : List β} {cs : List γ} (h : List.Forall₂ r as bs)
    (hPQ : ∀ {a b}, r a b → ∀ c, P a c ↔ Q b c) :
    (∀ a c, (a, c) ∈ as.zip cs → P a c) ↔ ∀ b c, (b, c) ∈ bs.zip cs → Q b c := by
  have hpairs : (∀ pair ∈ as.zip cs, P pair.1 pair.2) ↔ ∀ pair ∈ bs.zip cs, Q pair.1 pair.2 := by
    induction h generalizing cs with
    | nil => simp
    | cons hhead _ ih =>
      cases cs with
      | nil => simp
      | cons c cs => simp only [List.zip_cons_cons, List.forall_mem_cons, hPQ hhead, ih]
  rw [Prod.forall, Prod.forall] at hpairs
  exact hpairs

theorem rel_self {r : α → α → Prop} (hself : ∀ a, r a a) : (a : Option α) → Option.Rel r a a
  | none => .none
  | some a => .some (hself a)

theorem eq_of_rel_eq {a b : Option α} (h : Option.Rel Eq a b) : b = a := by
  cases h with
  | none => rfl
  | some h => rw [h]

theorem rel_isSome {r : α → β → Prop} {a : Option α} {b : Option β} (h : Option.Rel r a b) :
    a.isSome = b.isSome := by
  cases h <;> rfl

theorem exists_of_rel_some {r : α → β → Prop} {a : Option α} {b : Option β} {y : β}
    (h : Option.Rel r a b) (hy : b = some y) : ∃ x, a = some x ∧ r x y := by
  cases h with
  | none => cases hy
  | some hxy =>
    cases hy
    exact ⟨_, rfl, hxy⟩

theorem rel_mono {r t : α → β → Prop} {a : Option α} {b : Option β} (h : Option.Rel r a b)
    (hrt : ∀ {x y}, r x y → t x y) : Option.Rel t a b := by
  cases h with
  | none => exact .none
  | some hab => exact .some (hrt hab)

theorem rel_flip {r : α → β → Prop} {t : β → α → Prop} {a : Option α} {b : Option β}
    (h : Option.Rel r a b) (hrt : ∀ {x y}, r x y → t y x) : Option.Rel t b a := by
  cases h with
  | none => exact .none
  | some hab => exact .some (hrt hab)

/-- What follows from the relation may also use that there are values. -/
theorem rel_mono_of_some {r t : α → β → Prop} {a : Option α} {b : Option β} (h : Option.Rel r a b)
    (hrt : ∀ {x y}, a = some x → b = some y → r x y → t x y) : Option.Rel t a b := by
  cases h with
  | none => exact .none
  | some hab => exact .some (hrt rfl rfl hab)

/-- Related options stay related under maps that keep the relation. -/
theorem rel_bind {γ δ : Type} {r : α → β → Prop} {t : γ → δ → Prop} {a : Option α} {b : Option β}
    {f : α → Option γ} {g : β → Option δ} (h : Option.Rel r a b)
    (hfg : ∀ {x y}, r x y → Option.Rel t (f x) (g y)) : Option.Rel t (a.bind f) (b.bind g) := by
  cases h with
  | none => exact .none
  | some hab => exact hfg hab

end ServiceContract
