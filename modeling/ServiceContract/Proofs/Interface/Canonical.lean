import ServiceContract.Document.Store
import ServiceContract.Interface.Fingerprint
import ServiceContract.Proofs.Document.Sites
import ServiceContract.Proofs.Json.Uniqueness
import ServiceContract.Proofs.Runs
import ServiceContract.Proofs.Schema.Relocation

/-!
# Interfaces that are the same, and their canonical texts

Sameness of interfaces leaves open how literals are written: constants and listed values may have their
members in another order, and a bound of zero may have either sign. The canonical text writes literals
out. So of two interfaces that are the same, the canonical texts agree exactly if the literals in them
are written alike, and only then need the fingerprints agree.
-/

namespace ServiceContract

open Json (Value Members Number)

/-! ## Descriptions and the literals in them -/

/-- Two sequences of descriptions, with the literals that stand in them: there are equally many of
either, and the descriptions are equal exactly if the literals are. -/
structure Agree {γ : Type} (xs ys : List γ) (as bs : List Value) : Prop where
  /-- The literals make the difference. -/
  iff : xs = ys ↔ as = bs
  /-- There are equally many descriptions. -/
  length : xs.length = ys.length
  /-- There are equally many literals. -/
  literals : as.length = bs.length

namespace Agree

variable {γ δ : Type} {xs ys zs ws : List γ} {as bs cs ds : List Value}

/-- A description without literals. -/
theorem refl (xs : List γ) : Agree xs xs [] [] := ⟨⟨fun _ => rfl, fun _ => rfl⟩, rfl, rfl⟩

/-- Literals describe themselves. -/
theorem self (h : as.length = bs.length) : Agree as bs as bs := ⟨Iff.rfl, h, h⟩

theorem append (h : Agree xs ys as bs) (h' : Agree zs ws cs ds) :
    Agree (xs ++ zs) (ys ++ ws) (as ++ cs) (bs ++ ds) := by
  refine ⟨⟨fun heq => ?_, fun heq => ?_⟩, ?_, ?_⟩
  · obtain ⟨hfirst, hsecond⟩ := List.append_inj heq h.length
    rw [h.iff.1 hfirst, h'.iff.1 hsecond]
  · obtain ⟨hfirst, hsecond⟩ := List.append_inj heq h.literals
    rw [h.iff.2 hfirst, h'.iff.2 hsecond]
  · rw [List.length_append, List.length_append, h.length, h'.length]
  · rw [List.length_append, List.length_append, h.literals, h'.literals]

/-- A description that is the same on both sides, in front of others. -/
theorem cons (x : γ) (h : Agree xs ys as bs) : Agree (x :: xs) (x :: ys) as bs :=
  (refl [x]).append h

theorem map {f : γ → δ} (hf : f.Injective) (h : Agree xs ys as bs) :
    Agree (xs.map f) (ys.map f) as bs :=
  ⟨(List.map_injective_iff.2 hf).eq_iff.trans h.iff, by
    rw [List.length_map, List.length_map, h.length], h.literals⟩

/-- Descriptions that are put together into one. -/
theorem wrap {f : List γ → δ} (hf : f.Injective) (h : Agree xs ys as bs) :
    Agree [f xs] [f ys] as bs := by
  refine ⟨⟨fun heq => h.iff.1 (hf (List.cons.inj heq).1), fun heq => ?_⟩, rfl, h.literals⟩
  rw [h.iff.2 heq]

/-- Things that are the same one by one are described by descriptions that agree. -/
theorem sameList {α : Type} {same : α → α → Bool} {describe : α → γ} {literals : α → List Value}
    {as bs : List α} (h : ServiceContract.sameList same as bs = true)
    (heach : ∀ a ∈ as, ∀ b, same a b = true → Agree [describe a] [describe b] (literals a)
      (literals b)) :
    Agree (as.map describe) (bs.map describe) (as.flatMap literals) (bs.flatMap literals) := by
  induction as generalizing bs with
  | nil =>
    cases bs with
    | nil => exact refl []
    | cons b bs => exact absurd h Bool.false_ne_true
  | cons a as ih =>
    cases bs with
    | nil => exact absurd h Bool.false_ne_true
    | cons b bs =>
      rw [ServiceContract.sameList, Bool.and_eq_true] at h
      have hrest := ih h.2 fun x hx => heach x (List.mem_cons_of_mem a hx)
      exact (heach a List.mem_cons_self b h.1).append hrest

/-- An optional member. -/
theorem optionalMember {α : Type} {same : α → α → Bool} {describe : α → Value}
    {literals : α → List Value} {a b : Option α} (key : String)
    (h : Schema.sameOption same a b = true)
    (heach : ∀ x y, same x y = true → Agree [describe x] [describe y] (literals x) (literals y)) :
    Agree (ServiceContract.optionalMember key describe a)
      (ServiceContract.optionalMember key describe b)
      (a.toList.flatMap literals) (b.toList.flatMap literals) := by
  cases a with
  | none =>
    cases b with
    | none => exact refl []
    | some y => exact absurd h Bool.false_ne_true
  | some x =>
    cases b with
    | none => exact absurd h Bool.false_ne_true
    | some y =>
      have hone := (heach x y h).map (Prod.mk_right_injective key)
      show Agree [(key, describe x)] [(key, describe y)] ([x].flatMap literals) ([y].flatMap literals)
      rw [List.flatMap_singleton, List.flatMap_singleton]
      exact hone

/-- Descriptions that are the same on both sides, behind others. -/
theorem append_fixed (h : Agree xs ys as bs) (tail : List γ) :
    Agree (xs ++ tail) (ys ++ tail) as bs := by
  have hboth := h.append (refl tail)
  rwa [List.append_nil, List.append_nil] at hboth

/-- A description under a key. -/
theorem member {v w : Value} (key : String) (h : Agree [v] [w] as bs) :
    Agree [(key, v)] [(key, w)] as bs := h.map (Prod.mk_right_injective key)

/-- A list of descriptions under a key. -/
theorem arrayMember {vs ws : List Value} (key : String) (h : Agree vs ws as bs) :
    Agree [(key, Value.array vs)] [(key, Value.array ws)] as bs :=
  (h.wrap fun _ _ heq => Value.array.inj heq).member key

theorem object {ms ns : Members} (h : Agree ms ns as bs) :
    Agree [Value.object ms] [Value.object ns] as bs :=
  h.wrap fun _ _ heq => Value.object.inj heq

theorem node {ms ns : Members} (form : String) (h : Agree ms ns as bs) :
    Agree [Schema.node form ms] [Schema.node form ns] as bs := by
  unfold Schema.node
  exact (h.cons ("node", .string form)).object

end Agree

/-! ## Literals of schemas -/

/-- The bounds that are set. -/
def Primitive.literals (p : Primitive) : List Value :=
  p.minimum.toList.flatMap (fun n => [.number n]) ++
    p.maximum.toList.flatMap (fun n => [.number n]) ++
    p.exclusiveMinimum.toList.flatMap (fun n => [.number n]) ++
    p.exclusiveMaximum.toList.flatMap (fun n => [.number n])

namespace Schema

mutual

/-- The constants, listed values and bounds in a schema, in the order in which they are described. -/
def literals : Schema → List Value
  | .const value => [value]
  | .enum values => values
  | .primitive p => p.literals
  | .object fields _ => literalsOfFields fields
  | .tuple items => literalsOfAll items
  | .array items _ _ => items.literals
  | .union alternatives => literalsOfAll alternatives
  | .reference _ => []
  | .anything => []
termination_by structural s => s

/-- The literals of several schemas. -/
def literalsOfAll : List Schema → List Value
  | [] => []
  | s :: rest => s.literals ++ literalsOfAll rest
termination_by structural schemas => schemas

/-- The literals of fields. -/
def literalsOfFields : List Field → List Value
  | [] => []
  | ⟨_, schema, _⟩ :: rest => schema.literals ++ literalsOfFields rest
termination_by structural fields => fields

end

theorem literalsOfAll_eq (schemas : List Schema) :
    literalsOfAll schemas = schemas.flatMap literals := by
  induction schemas with
  | nil => rfl
  | cons s rest ih => rw [literalsOfAll, List.flatMap_cons, ih]

theorem describeAll_eq (schemas : List Schema) : describeAll schemas = schemas.map describe := by
  induction schemas with
  | nil => rfl
  | cons s rest ih => rw [describeAll, List.map_cons, ih]

theorem sameSchemas_eq (as bs : List Schema) : sameSchemas as bs = sameList same as bs := by
  induction as generalizing bs with
  | nil => cases bs <;> rfl
  | cons a as ih =>
    cases bs with
    | nil => rfl
    | cons b bs => rw [sameSchemas, sameList, ih]

/-- The description of a field. -/
def describeField (field : Field) : Value :=
  .object [("name", .string field.name), ("schema", field.schema.describe),
    ("required", .bool field.required)]

/-- The same field. -/
def sameField (f g : Field) : Bool :=
  f.name == g.name && f.schema.same g.schema && f.required == g.required

theorem literalsOfFields_eq (fields : List Field) :
    literalsOfFields fields = fields.flatMap fun field => field.schema.literals := by
  induction fields with
  | nil => rfl
  | cons field rest ih =>
    obtain ⟨name, schema, required⟩ := field
    rw [literalsOfFields, List.flatMap_cons, ih]

theorem describeFields_eq (fields : List Field) :
    describeFields fields = fields.map describeField := by
  induction fields with
  | nil => rfl
  | cons field rest ih =>
    obtain ⟨name, schema, required⟩ := field
    rw [describeFields, List.map_cons, ih, describeField]

theorem sameFields_eq (fs gs : List Field) : sameFields fs gs = sameList sameField fs gs := by
  induction fs generalizing gs with
  | nil => cases gs <;> rfl
  | cons f fs ih =>
    obtain ⟨name, schema, required⟩ := f
    cases gs with
    | nil => rfl
    | cons g gs => rw [sameFields, sameList, ih, sameField]

/-- Values that are the same one by one are equally many. -/
theorem length_eq_of_sameItems {numbers : Number → Number → Bool} {vs ws : List Value}
    (h : Value.sameItems numbers vs ws = true) : vs.length = ws.length := by
  induction vs generalizing ws with
  | nil =>
    cases ws with
    | nil => rfl
    | cons w ws => exact absurd h Bool.false_ne_true
  | cons v vs ih =>
    cases ws with
    | nil => exact absurd h Bool.false_ne_true
    | cons w ws =>
      rw [Value.sameItems, Bool.and_eq_true] at h
      rw [List.length_cons, List.length_cons, ih h.2]

theorem agree_primitive {p q : Primitive} (h : samePrimitive p q = true) :
    Agree p.members q.members p.literals q.literals := by
  unfold samePrimitive at h
  simp only [Bool.and_eq_true, beq_iff_eq] at h
  obtain ⟨⟨⟨⟨⟨⟨⟨hkind, hmin⟩, hmax⟩, hexmin⟩, hexmax⟩, hminLength⟩, hmaxLength⟩, hpattern⟩ := h
  have hone : ∀ m n : Number, m.same n = true →
      Agree [Value.number m] [Value.number n] [.number m] [.number n] := fun _ _ _ => .self rfl
  have hsource : optionalMember "pattern" (fun pattern => Value.string pattern.source) p.pattern =
      optionalMember "pattern" (fun pattern => Value.string pattern.source) q.pattern := by
    cases hp : p.pattern with
    | none =>
      cases hq : q.pattern with
      | none => rfl
      | some b =>
        rw [hp, hq] at hpattern
        cases hpattern
    | some a =>
      cases hq : q.pattern with
      | none =>
        rw [hp, hq] at hpattern
        cases hpattern
      | some b =>
        rw [hp, hq] at hpattern
        show [("pattern", Value.string a.source)] = [("pattern", Value.string b.source)]
        rw [Option.some.inj hpattern]
  unfold Primitive.members Primitive.literals
  rw [hkind, hminLength, hmaxLength, hsource]
  refine .cons _ (.append_fixed (.append_fixed (.append_fixed ?_ _) _) _)
  exact (((Agree.optionalMember "minimum" hmin hone).append
    (Agree.optionalMember "maximum" hmax hone)).append
    (Agree.optionalMember "exclusive_minimum" hexmin hone)).append
    (Agree.optionalMember "exclusive_maximum" hexmax hone)

theorem agree_schemas {as bs : List Schema} (h : sameSchemas as bs = true)
    (hparts : ∀ a ∈ as, ∀ b : Schema, a.same b = true →
      Agree [a.describe] [b.describe] a.literals b.literals) :
    Agree (describeAll as) (describeAll bs) (literalsOfAll as) (literalsOfAll bs) := by
  rw [sameSchemas_eq] at h
  rw [describeAll_eq, describeAll_eq, literalsOfAll_eq, literalsOfAll_eq]
  exact .sameList h hparts

theorem agree_fields {fields others : List Field} (h : sameFields fields others = true)
    (hparts : ∀ f ∈ fields, ∀ t : Schema, f.schema.same t = true →
      Agree [f.schema.describe] [t.describe] f.schema.literals t.literals) :
    Agree (describeFields fields) (describeFields others) (literalsOfFields fields)
      (literalsOfFields others) := by
  rw [sameFields_eq] at h
  rw [describeFields_eq, describeFields_eq, literalsOfFields_eq, literalsOfFields_eq]
  refine .sameList h fun f hf g hfg => ?_
  unfold sameField at hfg
  simp only [Bool.and_eq_true, beq_iff_eq] at hfg
  obtain ⟨⟨hname, hschema⟩, hrequired⟩ := hfg
  unfold describeField
  rw [hname, hrequired]
  exact (((hparts f hf g.schema hschema).member "schema").append_fixed _).cons _ |>.object

/-- Schemas that are the same are described alike exactly if their literals are written alike. -/
theorem agree_describe {s t : Schema} (h : s.same t = true) :
    Agree [s.describe] [t.describe] s.literals t.literals := by
  induction s using inductionOnParts generalizing t with
  | step s ih =>
    cases s with
    | const v =>
      cases t with
      | const w =>
        have hvalue : Agree [v] [w] [v] [w] := .self rfl
        exact (hvalue.member "value").node "const"
      | _ => exact absurd h Bool.false_ne_true
    | enum vs =>
      cases t with
      | enum ws =>
        exact ((Agree.self (length_eq_of_sameItems h)).arrayMember "values").node "enum"
      | _ => exact absurd h Bool.false_ne_true
    | primitive p =>
      cases t with
      | primitive q => exact (agree_primitive h).node "primitive"
      | _ => exact absurd h Bool.false_ne_true
    | object fields closed =>
      cases t with
      | object others closed' =>
        rw [same, Bool.and_eq_true, beq_iff_eq] at h
        obtain ⟨hfields, rfl⟩ := h
        have hagree := agree_fields hfields fun f hf _ hsame => ih f.schema (.field hf) hsame
        exact ((hagree.arrayMember "fields").append_fixed _).node "object"
      | _ => exact absurd h Bool.false_ne_true
    | tuple items =>
      cases t with
      | tuple others =>
        have hagree := agree_schemas h fun a ha _ hsame => ih a (.position ha) hsame
        exact (hagree.arrayMember "items").node "tuple"
      | _ => exact absurd h Bool.false_ne_true
    | array items minItems maxItems =>
      cases t with
      | array others minItems' maxItems' =>
        rw [same, Bool.and_eq_true, Bool.and_eq_true, beq_iff_eq, beq_iff_eq] at h
        obtain ⟨⟨hitems, rfl⟩, rfl⟩ := h
        exact (((ih items .item hitems).member "items").append_fixed _).node "array"
      | _ => exact absurd h Bool.false_ne_true
    | union alternatives =>
      cases t with
      | union others =>
        have hagree := agree_schemas h fun a ha _ hsame => ih a (.alternative ha) hsame
        exact (hagree.arrayMember "alternatives").node "union"
      | _ => exact absurd h Bool.false_ne_true
    | reference target =>
      cases t with
      | reference other =>
        rw [same, beq_iff_eq] at h
        rw [h]
        exact .refl _
      | _ => exact absurd h Bool.false_ne_true
    | anything =>
      cases t with
      | anything => exact .refl _
      | _ => exact absurd h Bool.false_ne_true

end Schema

/-! ## Literals of interfaces -/

/-- The literals in a function. -/
def Function.literals (f : Function) : List Value :=
  (f.arguments.flatMap fun a => a.schema.literals) ++
    f.returns.toList.flatMap fun r => r.schema.literals

namespace Interface

/-- The literals in an interface, in the order of its canonical text, which does not go into the
documents that are reached beyond their types. -/
def literals (i : Interface) : List Value :=
  i.functions.flatMap Function.literals ++
    (i.messages.flatMap fun m => m.schema.literals) ++
    (i.types.flatMap fun t => t.schema.literals) ++
    (i.fragments.flatMap fun fragment => fragment.2.literals) ++
    i.registry.externals.flatMap fun external => external.2.types.flatMap fun t => t.schema.literals

end Interface

/-- A schema that is declared under a name. -/
theorem agree_declaration {name name' description description' : String} {s t : Schema}
    (h : (name == name' && description == description' && s.same t) = true) :
    Agree
      [Value.object [("name", .string name), ("description", .string description),
        ("schema", s.describe)]]
      [Value.object [("name", .string name'), ("description", .string description'),
        ("schema", t.describe)]] s.literals t.literals := by
  simp only [Bool.and_eq_true, beq_iff_eq] at h
  obtain ⟨⟨hname, hdescription⟩, hschema⟩ := h
  rw [hname, hdescription]
  exact (((Schema.agree_describe hschema).member "schema").cons _).cons _ |>.object

theorem NamedType.agree_describe {a b : NamedType} (h : a.same b = true) :
    Agree [a.describe] [b.describe] a.schema.literals b.schema.literals := agree_declaration h

theorem Argument.agree_describe {a b : Argument} (h : a.same b = true) :
    Agree [a.describe] [b.describe] a.schema.literals b.schema.literals := agree_declaration h

theorem Message.agree_describe {a b : Message} (h : a.same b = true) :
    Agree [a.describe] [b.describe] a.schema.literals b.schema.literals := agree_declaration h

theorem Returns.agree_describe {a b : Returns} (h : a.same b = true) :
    Agree [a.describe] [b.describe] a.schema.literals b.schema.literals := by
  unfold Returns.same at h
  rw [Bool.and_eq_true, beq_iff_eq] at h
  obtain ⟨hdescription, hschema⟩ := h
  unfold describe
  rw [hdescription]
  exact ((Schema.agree_describe hschema).member "schema").cons _ |>.object

theorem Function.agree_describe {f g : Function} (h : f.same g = true) :
    Agree [f.describe] [g.describe] f.literals g.literals := by
  unfold Function.same at h
  simp only [Bool.and_eq_true, beq_iff_eq] at h
  obtain ⟨⟨⟨hname, hdescription⟩, harguments⟩, hreturns⟩ := h
  have hargs := Agree.sameList harguments fun a _ b hab => Argument.agree_describe hab
  have hret := Agree.optionalMember "returns" hreturns fun _ _ hab => Returns.agree_describe hab
  unfold describe literals
  rw [hname, hdescription]
  exact ((((hargs.arrayMember "arguments").cons _).cons _).append hret).object

theorem Registry.same_parts {a b : Registry} (h : a.same b = true) :
    sameList NamedType.same a.types b.types = true ∧
      sameExternals a.externals b.externals = true := by
  obtain ⟨types, externals⟩ := a
  rw [same, Bool.and_eq_true] at h
  exact h

/-- Registries that are the same have the same types in every document they reach. -/
theorem Registry.agree_externals {externals others : List (String × Registry)}
    (h : sameExternals externals others = true) :
    Agree (externals.map fun external => (external.1, Value.array
        (external.2.types.map NamedType.describe)))
      (others.map fun external => (external.1, Value.array
        (external.2.types.map NamedType.describe)))
      (externals.flatMap fun external => external.2.types.flatMap fun t => t.schema.literals)
      (others.flatMap fun external => external.2.types.flatMap fun t => t.schema.literals) := by
  induction externals generalizing others with
  | nil =>
    cases others with
    | nil => exact .refl []
    | cons other others => exact absurd h Bool.false_ne_true
  | cons external externals ih =>
    obtain ⟨key, types, inner⟩ := external
    cases others with
    | nil => exact absurd h Bool.false_ne_true
    | cons other others =>
      rw [sameExternals, Bool.and_eq_true, Bool.and_eq_true, beq_iff_eq] at h
      obtain ⟨⟨hkey, hsame⟩, hrest⟩ := h
      have hfirst := Agree.sameList (same_parts hsame).1
        fun a _ b hab => NamedType.agree_describe hab
      subst hkey
      exact (hfirst.arrayMember _).append (ih hrest)

/-- Interfaces that are the same are described alike exactly if their literals are written alike. -/
theorem Interface.agree_canonical {l r : Interface} (h : l.same r = true) :
    Agree [l.canonical] [r.canonical] l.literals r.literals := by
  unfold Interface.same at h
  simp only [Bool.and_eq_true, decide_eq_true_eq] at h
  obtain ⟨⟨⟨⟨⟨-, hservice⟩, hfunctions⟩, hmessages⟩, hregistry⟩, hfragments⟩ := h
  have hfunctions := Agree.sameList hfunctions fun f _ g hfg => Function.agree_describe hfg
  have hmessages := Agree.sameList hmessages fun a _ b hab => Message.agree_describe hab
  obtain ⟨htypes, hexternals⟩ := Registry.same_parts hregistry
  have htypes := Agree.sameList htypes fun a _ b hab => NamedType.agree_describe hab
  have hexternals := Registry.agree_externals hexternals
  have hfragments : Agree
      (l.fragments.map fun fragment => (fragment.1, fragment.2.describe))
      (r.fragments.map fun fragment => (fragment.1, fragment.2.describe))
      (l.fragments.flatMap fun fragment => fragment.2.literals)
      (r.fragments.flatMap fun fragment => fragment.2.literals) := by
    refine .sameList hfragments fun f _ g hfg => ?_
    rw [Bool.and_eq_true, beq_iff_eq] at hfg
    rw [hfg.1]
    exact (Schema.agree_describe hfg.2).member g.1
  unfold canonical literals
  rw [hservice]
  exact ((((hfunctions.arrayMember "functions").append (hmessages.arrayMember "messages")).append
    (htypes.arrayMember "types")).append (hfragments.object.member "schemas")).append
    (hexternals.object.member "externals") |>.cons _ |>.object

/-- If interfaces are the same, their canonical texts are equal exactly if their literals are written
alike, with members in one order and zeros of one sign; then their fingerprints are equal too. -/
theorem Interface.canonical_eq_iff_of_same {l r : Interface} (h : l.same r = true) :
    (l.canonical.encode = r.canonical.encode ↔ l.literals = r.literals) ∧
      (l.literals = r.literals → l.fingerprint = r.fingerprint) := by
  have hagree := (agree_canonical h).iff
  have hcanonical : l.canonical = r.canonical ↔ l.literals = r.literals :=
    (List.singleton_inj.symm).trans hagree
  refine ⟨Value.encode_injective.eq_iff.trans hcanonical, fun hliterals => ?_⟩
  unfold fingerprint
  rw [hcanonical.2 hliterals]

namespace Sample

/-- A document with a type of one constant. -/
def constant (v : Value) : Value :=
  document [("types", .array [.object (declaration "only" [("schema", .object [("const", v)])])])]

/-- Two members. -/
def inOrder : Value := .object [("a", .null), ("b", .null)]

/-- The same members the other way round. -/
def reversed : Value := .object [("b", .null), ("a", .null)]

theorem constants_are_same : ∃ l r,
    resolveAlone .none (constant inOrder) = .ok l ∧ resolveAlone .none (constant reversed) = .ok r ∧
      l.same r = true ∧ l.literals.map Value.encode ≠ r.literals.map Value.encode ∧
        l.fingerprint ≠ r.fingerprint := by
  have hcompare : ((resolveAlone .none (constant inOrder)).toOption.bind fun l =>
      (resolveAlone .none (constant reversed)).toOption.map fun r =>
        l.same r && decide (l.literals.map Value.encode ≠ r.literals.map Value.encode) &&
          decide (l.fingerprint ≠ r.fingerprint)) = some true := by decide +kernel
  obtain ⟨l, hl, hrest⟩ := Option.bind_eq_some_iff.1 hcompare
  obtain ⟨r, hr, hdiffer⟩ := Option.map_eq_some_iff.1 hrest
  simp only [Bool.and_eq_true, decide_eq_true_eq] at hdiffer
  exact ⟨l, r, eq_ok_of_toOption hl, eq_ok_of_toOption hr, hdiffer.1.1, hdiffer.1.2, hdiffer.2⟩

end Sample

/-- Two documents that differ in the order of the members of a constant give the same interface with
different fingerprints. -/
theorem Interface.fingerprint_ne_of_same : ∃ l r,
    resolveAlone .none (Sample.constant Sample.inOrder) = .ok l ∧
    resolveAlone .none (Sample.constant Sample.reversed) = .ok r ∧
    l.same r = true ∧ l.fingerprint ≠ r.fingerprint := by
  obtain ⟨l, r, hl, hr, hsame, -, hdiffer⟩ := Sample.constants_are_same
  exact ⟨l, r, hl, hr, hsame, hdiffer⟩

/-- The canonical texts of these two differ. -/
theorem Interface.canonical_ne_of_same : ∃ l r,
    resolveAlone .none (Sample.constant Sample.inOrder) = .ok l ∧
    resolveAlone .none (Sample.constant Sample.reversed) = .ok r ∧
    l.same r = true ∧ l.canonical.encode ≠ r.canonical.encode := by
  obtain ⟨l, r, hl, hr, hsame, hliterals, -⟩ := Sample.constants_are_same
  refine ⟨l, r, hl, hr, hsame, fun htext => hliterals ?_⟩
  rw [(canonical_eq_iff_of_same hsame).1.1 htext]

end ServiceContract
