import ServiceContract.Document.Outline
import ServiceContract.Schema.Finite

/-!
# Types without values

Named types may be recursive, but each must have a finite value. Types that have one are found in
rounds: a round adds every type that has a finite value given those found before it. After as many
rounds as there are types nothing more is added. A type that is left over needs another one that is
left over, so following such needs from it comes back around, and that circle is the error.
-/

namespace ServiceContract

/-- Adds a type if it has a finite value given the types found so far. -/
def admitType (finite : List String) (t : NamedType) : List String :=
  if t.name ∈ finite then finite
  else if t.schema.hasFiniteValue finite then finite ++ [t.name] else finite

/-- One round over all types. -/
def admitRound (types : List NamedType) (finite : List String) : List String :=
  types.foldl admitType finite

/-- Several rounds over all types. -/
def admitRounds (types : List NamedType) : Nat → List String → List String
  | 0, finite => finite
  | rounds + 1, finite => admitRounds types rounds (admitRound types finite)

/-- The types with a finite value. -/
def finiteTypes (types : List NamedType) : List String := admitRounds types types.length []

/-- The types with other names. -/
def otherTypes (name : String) (types : List NamedType) : List NamedType :=
  types.filter fun t => t.name != name

theorem length_otherTypes_lt {types : List NamedType} {name : String} {t : NamedType}
    (h : types.find? (fun t => t.name == name) = some t) :
    (otherTypes name types).length < types.length := by
  have hmem := List.mem_of_find?_eq_some h
  have hname := List.find?_some h
  exact List.length_filter_lt_length_iff_exists.2 ⟨t, hmem, by simpa using hname⟩

/-- The error that a type without a finite value leads to. The path holds the types followed so far,
`current` last, and `rest` the types that are not on it. -/
def endlessFrom (locate : String → String) (finite : List String) (rest : List NamedType)
    (path : List String) (current : NamedType) : Error :=
  match current.schema.ownTypes.find? fun name => decide (name ∉ finite) with
  | none => noValue current.name
  | some next =>
    if next ∈ path then
      let circle := path.dropWhile (· ≠ next) ++ [next]
      .cyclicReference (locate s!"/types/{next}/schema")
        (Text.join " -> " (circle.map fun name => "#/types/" ++ name) ++ " (no finite value)")
    else
      match _found : rest.find? fun t => t.name == next with
      | none => noValue next
      | some t => endlessFrom locate finite (otherTypes next rest) (path ++ [next]) t
termination_by rest.length
decreasing_by exact length_otherTypes_lt _found
where
  /-- The error of a type that needs no other type and yet has no value. -/
  noValue (name : String) : Error :=
    .document (locate s!"/types/{name}/schema") s!"type '{name}' admits no value"

/-- Refuses types without a finite value. -/
def checkInhabited (locate : String → String) (types : List NamedType) : Except Error Unit :=
  let finite := finiteTypes types
  match types.find? fun t => decide (t.name ∉ finite) with
  | none => .ok ()
  | some first =>
    .error (endlessFrom locate finite (otherTypes first.name types) [first.name] first)

end ServiceContract
