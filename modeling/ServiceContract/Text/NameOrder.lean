/-!
# Names in order

Sets of names and tables by name are lists in the order of the names, each name once. Names are
ordered by code points, which is also the order of their UTF-8 bytes. Since the order is strict,
two lists that hold the same names are equal.
-/

namespace ServiceContract

/-- Names in strictly ascending order. -/
def Ascending (names : List String) : Prop := names.Pairwise (· < ·)

/-- Puts a name in at its place, unless it is there. -/
def insertName (name : String) : List String → List String
  | [] => [name]
  | n :: rest =>
    if name < n then name :: n :: rest
    else if name = n then n :: rest
    else n :: insertName name rest

/-- The set of some names. -/
def nameSet (names : List String) : List String :=
  names.foldl (fun set name => insertName name set) []

/-- Puts an entry in at its place; an entry of the same name is replaced. -/
def putEntry {α : Type} (name : String) (value : α) : List (String × α) → List (String × α)
  | [] => [(name, value)]
  | (n, v) :: rest =>
    if name < n then (name, value) :: (n, v) :: rest
    else if name = n then (name, value) :: rest
    else (n, v) :: putEntry name value rest

/-- The table of some entries; of two with one name the later is kept. -/
def nameTable {α : Type} (entries : List (String × α)) : List (String × α) :=
  entries.foldl (fun table entry => putEntry entry.1 entry.2 table) []

theorem mem_insertName {x name : String} {names : List String} :
    x ∈ insertName name names ↔ x = name ∨ x ∈ names := by
  induction names with
  | nil => simp [insertName]
  | cons n rest ih =>
    simp only [insertName]
    split
    · simp
    · split
      · next h => subst h; simp
      · simp only [List.mem_cons, ih]
        constructor
        · rintro (h | h | h) <;> simp [h]
        · rintro (h | h | h) <;> simp [h]

theorem ascending_insertName {name : String} {names : List String} (h : Ascending names) :
    Ascending (insertName name names) := by
  induction names with
  | nil => simp [insertName, Ascending]
  | cons n rest ih =>
    have hrest : Ascending rest := List.Pairwise.of_cons h
    have hn : ∀ x ∈ rest, n < x := (List.pairwise_cons.1 h).1
    simp only [insertName]
    split
    · next hlt =>
      refine List.pairwise_cons.2 ⟨fun x hx => ?_, h⟩
      rcases List.mem_cons.1 hx with rfl | hx
      · exact hlt
      · exact String.lt_trans hlt (hn x hx)
    · next hnlt =>
      split
      · exact h
      · next hne =>
        refine List.pairwise_cons.2 ⟨fun x hx => ?_, ih hrest⟩
        rcases mem_insertName.1 hx with rfl | hx
        · exact Std.lt_of_le_of_ne (String.not_lt.1 hnlt) (Ne.symm hne)
        · exact hn x hx

end ServiceContract
