import ServiceContract.Contract
import ServiceContract.Proofs.Document.Nodes
import ServiceContract.Proofs.Interface.Description

/-!
# Interfaces with one canonical text

A canonical text lists the types of all documents that are reached, but not which documents are
reached from each of them. This makes no difference: what is reached from a document that is reached
is the same as what is reached under that key from the outset. So interfaces that resolvers return, in
whatever stores, check alike if their canonical texts are equal.
-/

namespace ServiceContract

open Json (Value Members)

/-! ## Contracts that check alike -/

/-- Two contracts have the same answers for all arguments, results and payloads. -/
structure Contract.ChecksAlike (c d : Contract) : Prop where
  functions : ∀ name arguments value,
    (c.function name).map (fun f => (f.checkArguments arguments, f.checkResult value)) =
      (d.function name).map fun f => (f.checkArguments arguments, f.checkResult value)
  messages : ∀ name payload,
    (c.message name).map (fun validator => validator.check payload) =
      (d.message name).map fun validator => validator.check payload

section Checks

variable {l r : Registry} {maxDepth : Nat}

/-- A check against the schema has the same result over both registries. -/
def Schema.ChecksAlike (l r : Registry) (maxDepth : Nat) (schema : Schema) : Prop :=
  ∀ value, Validator.check ⟨schema, l, maxDepth⟩ value = Validator.check ⟨schema, r, maxDepth⟩ value

theorem checkEach_congr {as : List Argument} (h : ∀ a ∈ as, a.schema.ChecksAlike l r maxDepth)
    (arguments : Members) :
    FunctionContract.checkEach arguments (as.map fun a => (a.name, ⟨a.schema, l, maxDepth⟩)) =
      FunctionContract.checkEach arguments (as.map fun a => (a.name, ⟨a.schema, r, maxDepth⟩)) := by
  induction as with
  | nil => rfl
  | cons a rest ih =>
    have hrest := ih fun b hb => h b (List.mem_cons_of_mem a hb)
    rw [List.map_cons, List.map_cons, FunctionContract.checkEach, FunctionContract.checkEach, hrest]
    cases arguments.lookup a.name with
    | none => rfl
    | some value =>
      dsimp only
      rw [h a List.mem_cons_self value]

theorem ofFunction_congr {f : Function} (h : ∀ a ∈ f.arguments, a.schema.ChecksAlike l r maxDepth)
    (h' : ∀ q ∈ f.returns, q.schema.ChecksAlike l r maxDepth) (arguments : Members) (value : Value) :
    (FunctionContract.ofFunction l maxDepth f).checkArguments arguments =
      (FunctionContract.ofFunction r maxDepth f).checkArguments arguments ∧
    (FunctionContract.ofFunction l maxDepth f).checkResult value =
      (FunctionContract.ofFunction r maxDepth f).checkResult value := by
  constructor
  · have hnames : ∀ registry, (FunctionContract.ofFunction registry maxDepth f).argumentNames =
        f.arguments.map Argument.name := by
      intro registry
      unfold FunctionContract.ofFunction FunctionContract.argumentNames
      rw [List.map_map]
      rfl
    have heach : FunctionContract.checkEach arguments
          (FunctionContract.ofFunction l maxDepth f).arguments =
        FunctionContract.checkEach arguments (FunctionContract.ofFunction r maxDepth f).arguments :=
      checkEach_congr h arguments
    unfold FunctionContract.checkArguments
    rw [hnames, hnames, heach]
    rfl
  · unfold FunctionContract.checkResult FunctionContract.ofFunction
    cases hreturns : f.returns with
    | none => rfl
    | some q => exact h' q hreturns value

end Checks

theorem Contract.function_ofInterface {i : Interface} {maxDepth : Nat} {name : String} :
    (Contract.ofInterface i maxDepth).function name = match i.function? name with
      | some f => .ok (.ofFunction i.registry maxDepth f)
      | none => .error (.unknownFunction name) := by
  unfold Contract.function Contract.ofInterface Interface.function?
  rw [List.find?_map]
  have hname : (fun f : FunctionContract => f.name == name) ∘
      FunctionContract.ofFunction i.registry maxDepth = fun f => f.name == name := rfl
  rw [hname]
  cases i.functions.find? fun f => f.name == name <;> rfl

theorem Contract.message_ofInterface {i : Interface} {maxDepth : Nat} {name : String} :
    (Contract.ofInterface i maxDepth).message name = match i.message? name with
      | some m => .ok ⟨m.schema, i.registry, maxDepth⟩
      | none => .error (.unknownMessage name) := by
  unfold Contract.message Contract.ofInterface Interface.message?
  dsimp only
  induction i.messages with
  | nil => rfl
  | cons m rest ih =>
    rw [List.map_cons, lookup_cons, List.find?_cons]
    by_cases hname : name = m.name
    · rw [if_pos hname, beq_iff_eq.2 hname.symm]
    · rw [if_neg hname, beq_false_of_ne (Ne.symm hname)]
      exact ih

/-- Interfaces that are alike have contracts that check alike if each of their schemas does. -/
theorem Interface.Alike.checksAlike {l r : Interface} {maxDepth : Nat} (h : l.Alike r)
    (hschemas : ∀ schema, l.HasSchema schema →
      schema.ChecksAlike l.registry r.registry maxDepth) :
    (Contract.ofInterface l maxDepth).ChecksAlike (.ofInterface r maxDepth) where
  functions name arguments value := by
    have hsame : r.function? name = l.function? name := by
      unfold function?
      rw [h.functions]
    rw [Contract.function_ofInterface, Contract.function_ofInterface, hsame]
    cases hf : l.function? name with
    | none => rfl
    | some f =>
      have hmem := List.mem_of_find?_eq_some hf
      obtain ⟨harguments, hresult⟩ := ofFunction_congr
        (fun a ha => hschemas _ (.argument hmem ha)) (fun q hq => hschemas _ (.returns hmem hq))
        arguments value
      show Except.ok (_, _) = Except.ok (_, _)
      rw [harguments, hresult]
  messages name payload := by
    have hsame : r.message? name = l.message? name := by
      unfold message?
      rw [h.messages]
    rw [Contract.message_ofInterface, Contract.message_ofInterface, hsame]
    cases hm : l.message? name with
    | none => rfl
    | some m =>
      exact congrArg Except.ok (hschemas _ (.message (List.mem_of_find?_eq_some hm)) payload)

/-! ## Where references lead to -/

/-- Registries with the same place in two interfaces: their own ones, or those that are reached under
one key. -/
inductive Counterparts (l r : Interface) : Registry → Registry → Prop where
  /-- The registries of the interfaces. -/
  | own : Counterparts l r l.registry r.registry
  /-- Registries that are reached. -/
  | reached {key : String} {a b : Registry} (ha : (key, a) ∈ l.registry.externals)
      (hb : (key, b) ∈ r.registry.externals) : Counterparts l r a b

section Counterparts

variable {l r : Interface} {a b : Registry}

theorem mem_reached {registry home : Registry} {key : String}
    (h : (key, home) ∈ registry.externals) : (key, home.types) ∈ registry.reached :=
  List.mem_map_of_mem h

variable {s t : Store} (hs : s.Sound wiring) (ht : t.Sound wiring) (hl : l.AttachedTo s)
  (hr : r.AttachedTo t)

include ht hr in
/-- Counterparts have the same types, since a key leads to one registry only. -/
theorem Counterparts.types_eq (halike : l.Alike r) (h : Counterparts l r a b) :
    a.types = b.types := by
  cases h with
  | own => exact halike.types
  | reached ha hb =>
    have hmem := mem_reached ha
    rw [halike.reached] at hmem
    obtain ⟨⟨key, b'⟩, hb', heq⟩ := List.mem_map.1 hmem
    obtain ⟨rfl, htypes⟩ := Prod.mk.inj heq
    have hsame := (hr.lookup_externals ht hb').symm.trans (hr.lookup_externals ht hb)
    rw [← htypes, Option.some.inj hsame]

include hs ht hl hr in
/-- What counterparts reach under one key are counterparts. -/
theorem Counterparts.of_externals (h : Counterparts l r a b) {key : String} {c d : Registry}
    (hc : (key, c) ∈ a.externals) (hd : (key, d) ∈ b.externals) : Counterparts l r c d := by
  cases h with
  | own => exact .reached hc hd
  | reached ha hb =>
    exact .reached (hl.mem_externals_trans hs ha hc) (hr.mem_externals_trans ht hb hd)

include hs ht hl hr in
/-- Where a reference is found in either of two counterparts, the same type is found. -/
theorem findsAlike_counterparts (halike : l.Alike r) :
    Registry.FindsAlike (Counterparts l r) := by
  intro registry other target named named' home home' h hlookup hlookup'
  have hlocal : ∀ {c d}, Counterparts l r c d → c.local? target.name = some named →
      d.local? target.name = some named' → named = named' := by
    intro c d hcd hc hd
    unfold Registry.local? at hc hd
    rw [hcd.types_eq ht hr halike] at hc
    exact Option.some.inj (hc.symm.trans hd)
  obtain ⟨hnamed, hhome⟩ := Registry.lookup_eq_some hlookup
  obtain ⟨hnamed', hhome'⟩ := Registry.lookup_eq_some hlookup'
  have hcounterparts : Counterparts l r home home' := by
    rcases hhome with ⟨hnone, rfl⟩ | ⟨key, hsome, hkey⟩
    · rcases hhome' with ⟨-, rfl⟩ | ⟨key, hsome, -⟩
      · exact h
      · rw [hnone] at hsome
        cases hsome
    · rcases hhome' with ⟨hnone, -⟩ | ⟨key', hsome', hkey'⟩
      · rw [hnone] at hsome
        cases hsome
      · obtain rfl := Option.some.inj (hsome.symm.trans hsome')
        exact h.of_externals hs ht hl hr (mem_of_lookup hkey) (mem_of_lookup hkey')
  exact ⟨hlocal hcounterparts hnamed hnamed', hcounterparts⟩

end Counterparts

/-! ## Interfaces that a resolver returns -/

/-- The canonical text of what a resolver returns determines all that it describes. -/
theorem Resolver.returns_legible {allowed : Source → Prop} {given : Value → Prop}
    {resolver : Resolver} {s s' : Store} {i : Interface}
    (hresolver : ∀ source, resolver.source = some source → allowed source)
    (hs : s.Reachable allowed)
    (h : (∃ raw, given raw ∧ resolver.resolve raw s = .ok i s') ∨
      ∃ name, resolver.load name s = .ok i s') : i.Legible := by
  have hrespects : ∀ loader, (reading (fun _ => True) Schema.HasWords).Respects loader :=
    fun loader => reading_respects readsTo_hasWords fun _ _ _ => trivial
  obtain ⟨hread, document, raw, externals, -, hstands⟩ := Resolver.returned
    (fun source _ => hrespects source.loader) ⟨_, hrespects (.ofDocuments [])⟩ hresolver hs h
  obtain ⟨hwired, hattached⟩ := Resolver.returns_attached hresolver hs h
  refine ⟨hattached.checked.version, fun schema hschema => ?_, fun key types hreached t ht => ?_⟩
  · obtain ⟨-, rawSchema, -, hwords⟩ := hstands.schemas schema hschema
    exact hwords trivial trivial
  · obtain ⟨⟨key, home⟩, hhome, heq⟩ := List.mem_map.1 hreached
    obtain ⟨rfl, rfl⟩ := Prod.mk.inj heq
    obtain ⟨j, hj, rfl⟩ := hattached.coherent hwired hhome
    exact everywhere_of_lookup readsTo_hasWords hread hj (.type ht)

/-- If two interfaces that resolvers return have one canonical text, then they describe the same
service with the same functions, messages, types and fragments, they reach the same types of other
documents, and their contracts give the same answers, violations included, for all arguments,
results and payloads. -/
theorem Resolver.canonical_determines {p q : Resolver} {s s' t t' : Store} {l r : Interface}
    (hs : s.Reachable fun _ => True) (ht : t.Reachable fun _ => True)
    (hl : (∃ raw, p.resolve raw s = .ok l s') ∨ ∃ name, p.load name s = .ok l s')
    (hr : (∃ raw, q.resolve raw t = .ok r t') ∨ ∃ name, q.load name t = .ok r t')
    (h : l.canonical.encode = r.canonical.encode) :
    l.Alike r ∧ ∀ maxDepth,
      (Contract.ofInterface l maxDepth).ChecksAlike (.ofInterface r maxDepth) := by
  have hany : ∀ {resolver : Resolver} {s s' : Store} {i : Interface},
      ((∃ raw, resolver.resolve raw s = .ok i s') ∨ ∃ name, resolver.load name s = .ok i s') →
      (∃ raw, True ∧ resolver.resolve raw s = .ok i s') ∨
        ∃ name, resolver.load name s = .ok i s' := by
    rintro resolver s s' i (⟨raw, h⟩ | h)
    · exact .inl ⟨raw, trivial, h⟩
    · exact .inr h
  have hl := hany hl
  have hr := hany hr
  obtain ⟨hs', hl'⟩ := Resolver.returns_attached (fun _ _ => trivial) hs hl
  obtain ⟨ht', hr'⟩ := Resolver.returns_attached (fun _ _ => trivial) ht hr
  have halike := Interface.alike_of_canonical_eq (Resolver.returns_legible (fun _ _ => trivial) hs hl)
    (Resolver.returns_legible (fun _ _ => trivial) ht hr) (Value.encode_injective h)
  refine ⟨halike, fun maxDepth => halike.checksAlike fun schema hschema value => ?_⟩
  exact walk_congr (findsAlike_counterparts hs' ht' hl' hr' halike) .own
    (hl'.findsAll hs' hschema) (hr'.findsAll ht' (halike.hasSchema hschema))

/-- The lists of nodes, resolved from their document as it is given and loaded by its name. -/
theorem Resolver.canonical_determines_lists :
    ∃ l r s' t', Sample.resolver.resolve Sample.lists .empty = .ok l s' ∧
      Sample.resolver.load "lists.json" .empty = .ok r t' ∧ l.document ≠ r.document ∧
      l.canonical.encode = r.canonical.encode ∧ l.Alike r ∧ ∀ maxDepth,
        (Contract.ofInterface l maxDepth).ChecksAlike (.ofInterface r maxDepth) := by
  have hcompare : ((result? (Sample.resolver.resolve Sample.lists) .empty).bind fun l =>
      (result? (Sample.resolver.load "lists.json") .empty).map fun r =>
        decide (l.document ≠ r.document) &&
          decide (l.canonical.encode = r.canonical.encode)) = some true := by decide +kernel
  obtain ⟨l, hl, hrest⟩ := Option.bind_eq_some_iff.1 hcompare
  obtain ⟨r, hr, hsame⟩ := Option.map_eq_some_iff.1 hrest
  obtain ⟨s', hl⟩ := result?_eq_some.1 hl
  obtain ⟨t', hr⟩ := result?_eq_some.1 hr
  simp only [Bool.and_eq_true, decide_eq_true_iff] at hsame
  obtain ⟨hdocument, htext⟩ := hsame
  obtain ⟨halike, hchecks⟩ := Resolver.canonical_determines .empty .empty (.inl ⟨_, hl⟩)
    (.inr ⟨_, hr⟩) htext
  exact ⟨l, r, s', t', hl, hr, hdocument, htext, halike, hchecks⟩

end ServiceContract
