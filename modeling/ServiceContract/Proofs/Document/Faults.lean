import ServiceContract.Document.Outline
import ServiceContract.Interface.Inhabited

/-!
# Faults of a single document

Reading the outline of a document and checking that its types have values look at that document
alone. Reading the outline fails for flaws of the document as it is written; the check may also
report a circle of types. Neither reports that a document is asked for while it is being resolved, or
that a fragment reaches itself.
-/

namespace ServiceContract

open Json (Value Members)

variable {α β : Type} {allowed : Error → Prop}

/-- The computation fails only with faults that are allowed. -/
def FailsOnly (allowed : Error → Prop) (x : Except Error α) : Prop := ∀ e, x = .error e → allowed e

namespace FailsOnly

theorem ok {a : α} : FailsOnly allowed (.ok a) := fun _ h => by cases h

theorem error {e : Error} (h : allowed e) : FailsOnly allowed (.error e : Except Error α) := by
  rintro e' ⟨⟩
  exact h

theorem imp {allowed' : Error → Prop} {x : Except Error α} (h : FailsOnly allowed x)
    (hmore : ∀ e, allowed e → allowed' e) : FailsOnly allowed' x :=
  fun e he => hmore e (h e he)

theorem bind {x : Except Error α} {f : α → Except Error β} (hx : FailsOnly allowed x)
    (hf : ∀ a, FailsOnly allowed (f a)) : FailsOnly allowed (x >>= f) := by
  cases x with
  | ok a => exact hf a
  | error e => exact error (hx e rfl)

theorem refuse {p : Prop} [Decidable p] {e : Error} {f : PUnit → Except Error α}
    (he : allowed e) (hf : FailsOnly allowed (f ⟨⟩)) :
    FailsOnly allowed (if p then throw e >>= f else f ⟨⟩) := by
  by_cases hp : p
  · rw [if_pos hp]
    exact error he
  · rw [if_neg hp]
    exact hf

theorem mapM {f : α → Except Error β} {l : List α} (hf : ∀ a, FailsOnly allowed (f a)) :
    FailsOnly allowed (l.mapM f) := by
  induction l with
  | nil => exact ok
  | cons a l ih =>
    rw [List.mapM_cons]
    exact (hf a).bind fun _ => ih.bind fun _ => ok

theorem forM {f : α → Except Error PUnit} {l : List α} (hf : ∀ a, FailsOnly allowed (f a)) :
    FailsOnly allowed (l.forM f) := by
  induction l with
  | nil => exact ok
  | cons a l ih => exact (hf a).bind fun _ => ih

end FailsOnly

/-- The computation does not fail because a document is asked for while it is being resolved. -/
def NeverStalls (x : Except Error α) : Prop := ∀ key, x ≠ .error (.stalled key)

theorem neverStalls_iff {x : Except Error α} :
    NeverStalls x ↔ FailsOnly (fun e => ∀ key, e ≠ .stalled key) x := by
  constructor
  · rintro h e rfl key rfl
    exact h key rfl
  · intro h key heq
    exact h _ heq key rfl

/-- A flaw of a document as it is written: of a name, of two declarations that are confused, or of
its form. -/
def Error.IsFlaw : Error → Prop
  | .naming _ | .identifierCollision _ | .document .. => True
  | _ => False

/-! ## Names -/

theorem checkKebabCase_flaws {role : Role} {name : String} :
    FailsOnly Error.IsFlaw (checkKebabCase role name) := by
  unfold checkKebabCase
  split
  · exact .ok
  · exact .error trivial

theorem IdentifierRules.derive_flaws {rules : IdentifierRules} {role : Role} {name : String} :
    FailsOnly Error.IsFlaw (rules.derive role name) :=
  checkKebabCase_flaws.bind fun _ => .ok

/-! ## Outlines -/

namespace Outline

variable {location : String} {members : Members} {rules : IdentifierRules}

theorem requiredMember_flaws {key : String} :
    FailsOnly Error.IsFlaw (requiredMember members key location) := by
  unfold requiredMember
  split
  · exact .ok
  · exact .error trivial

theorem stringMember_flaws {key : String} :
    FailsOnly Error.IsFlaw (stringMember members key location) := by
  unfold stringMember
  split
  · exact .ok
  · exact .error trivial

theorem descriptionMember_flaws : FailsOnly Error.IsFlaw (descriptionMember members location) :=
  stringMember_flaws.bind fun _ => .refuse trivial .ok

theorem readService_flaws {locate : String → String} :
    FailsOnly Error.IsFlaw (readService locate members) := by
  unfold readService
  split
  · refine stringMember_flaws.bind fun _ => checkKebabCase_flaws.bind fun _ => ?_
    refine stringMember_flaws.bind fun _ => ?_
    split
    · exact .error trivial
    · exact descriptionMember_flaws.bind fun _ => .ok
  · exact .error trivial

theorem readHeader_flaws {role : Role} {raw : Value} :
    FailsOnly Error.IsFlaw (readHeader role location raw) := by
  unfold readHeader
  split
  · refine stringMember_flaws.bind fun _ => checkKebabCase_flaws.bind fun _ => ?_
    exact descriptionMember_flaws.bind fun _ => .ok
  · exact .error trivial

theorem readHeaders_flaws {role : Role} {locate : Nat → String}
    {repeated : String → String → Error} {index : Nat} {earlier : List String} {raws : List Value}
    (hrepeated : ∀ name location, (repeated name location).IsFlaw) :
    FailsOnly Error.IsFlaw (readHeaders role locate repeated index earlier raws) := by
  induction raws generalizing index earlier with
  | nil => exact .ok
  | cons raw rest ih =>
    rw [readHeaders]
    exact readHeader_flaws.bind fun _ =>
      .refuse (hrepeated _ _) (ih.bind fun _ => .ok)

theorem readSection_flaws {locate : String → String} {name : String} {role : Role} :
    FailsOnly Error.IsFlaw (readSection locate members name role) := by
  unfold readSection
  split
  · exact .ok
  · exact readHeaders_flaws fun _ _ => trivial
  · exact .error trivial

theorem readArguments_flaws {locate : String → String} {function : Header} :
    FailsOnly Error.IsFlaw (readArguments locate function) := by
  unfold readArguments
  split
  · exact .ok
  · refine FailsOnly.bind (readHeaders_flaws fun _ _ => ?_) fun _ => .ok
    trivial
  · exact .error trivial

theorem readFragments_flaws {locate : String → String} :
    FailsOnly Error.IsFlaw (readFragments locate members) := by
  unfold readFragments
  split
  · exact .ok
  · exact .ok
  · exact .error trivial

theorem checkCallables_flaws {earlier : List (String × String)}
    {callables : List (Role × String)} : FailsOnly Error.IsFlaw (checkCallables rules earlier callables) := by
  induction callables generalizing earlier with
  | nil => exact .ok
  | cons callable rest ih =>
    rw [checkCallables]
    refine IdentifierRules.derive_flaws.bind fun identifier => ?_
    split
    · exact .error trivial
    · exact ih

theorem checkArguments_flaws {function : String} {earlier : List (String × String)}
    {arguments : List Header} : FailsOnly Error.IsFlaw (checkArguments rules function earlier arguments) := by
  induction arguments generalizing earlier with
  | nil => exact .ok
  | cons argument rest ih =>
    rw [checkArguments]
    refine IdentifierRules.derive_flaws.bind fun identifier => ?_
    split
    · exact .error trivial
    · exact ih

theorem ofValue_flaws {document : Option String} {raw : Value} :
    FailsOnly Error.IsFlaw (ofValue rules document raw) := by
  unfold ofValue
  split
  · refine readService_flaws.bind fun _ => readSection_flaws.bind fun _ => ?_
    refine readSection_flaws.bind fun _ => readSection_flaws.bind fun _ => ?_
    refine readFragments_flaws.bind fun _ => ?_
    refine (FailsOnly.mapM fun _ => readArguments_flaws).bind fun _ => ?_
    have hcheck : ∀ outline : Outline, FailsOnly Error.IsFlaw (outline.checkIdentifiers rules) := fun outline =>
      checkCallables_flaws.bind fun _ => .forM fun _ => checkArguments_flaws
    exact (hcheck _).bind fun _ => .ok
  · exact .error trivial

end Outline

/-! ## Types without values -/

/-- A flaw, or a circle of types. -/
def Error.IsEndless (e : Error) : Prop :=
  e.IsFlaw ∨ ∃ location first rest, e = .cyclicReference location
    (Text.join " -> " ((first :: rest).map fun name => "#/types/" ++ name) ++ " (no finite value)")

theorem endlessFrom_isEndless {locate : String → String} {finite : List String}
    {rest : List NamedType} {path : List String} {current : NamedType} :
    (endlessFrom locate finite rest path current).IsEndless := by
  fun_induction endlessFrom locate finite rest path current with
  | case1 | case3 => exact .inl trivial
  | case2 rest path current next _ _ circle =>
    cases hcircle : circle with
    | nil => simp [circle] at hcircle
    | cons first rest => exact .inr ⟨_, first, rest, rfl⟩
  | case4 => assumption

theorem checkInhabited_isEndless {locate : String → String} {types : List NamedType} :
    FailsOnly Error.IsEndless (checkInhabited locate types) := by
  unfold checkInhabited
  dsimp only
  split
  · exact .ok
  · exact .error endlessFrom_isEndless

/-! ## Documents that are being resolved -/

theorem Error.IsFlaw.ne_stalled {e : Error} (h : e.IsFlaw) (key : String) : e ≠ .stalled key := by
  rintro rfl
  exact h

theorem FailsOnly.neverStalls {x : Except Error α} (h : FailsOnly Error.IsFlaw x) : NeverStalls x :=
  neverStalls_iff.2 fun e he => (h e he).ne_stalled

theorem checkInhabited_neverStalls {locate : String → String} {types : List NamedType} :
    NeverStalls (checkInhabited locate types) := by
  refine neverStalls_iff.2 fun e he key heq => ?_
  rcases checkInhabited_isEndless e he with hflaw | ⟨location, first, rest, hcircle⟩
  · exact hflaw.ne_stalled key heq
  · cases heq.symm.trans hcircle

end ServiceContract
