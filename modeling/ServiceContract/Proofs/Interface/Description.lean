import ServiceContract.Proofs.Interface.Canonical
import ServiceContract.Proofs.Schema.Nodes
import ServiceContract.Proofs.Version

/-!
# The canonical text determines the interface

In a description every form has its word and every part is found under its key, so that parts which
are left out are told from those that are there. Two kinds of data are written in a way that only
determines what was read: a count if it is a word of 64 bits, and a version if it has no superfluous
zeros.
-/

namespace ServiceContract

open Json (Value Members Number)

/-! ## Lists and optional things -/

section Injective

variable {α β : Type} {f : α → β}

theorem eq_of_map_eq {as bs : List α} (hf : ∀ a ∈ as, ∀ b ∈ bs, f a = f b → a = b)
    (h : as.map f = bs.map f) : as = bs := by
  induction as generalizing bs with
  | nil => exact (List.map_eq_nil_iff.1 h.symm).symm
  | cons a as ih =>
    cases bs with
    | nil => cases h
    | cons b bs =>
      obtain ⟨hhead, htail⟩ := List.cons.inj h
      have hrest := ih (fun x hx y hy =>
        hf x (List.mem_cons_of_mem a hx) y (List.mem_cons_of_mem b hy)) htail
      rw [hf a List.mem_cons_self b List.mem_cons_self hhead, hrest]

theorem eq_of_option_map_eq {a b : Option α} (hf : ∀ x ∈ a, ∀ y ∈ b, f x = f y → x = y)
    (h : a.map f = b.map f) : a = b := by
  cases a with
  | none => exact (Option.map_eq_none_iff.1 h.symm).symm
  | some x =>
    cases b with
    | none => cases h
    | some y => rw [hf x rfl y rfl (Option.some.inj h)]

/-- An optional member is found under its key. -/
@[simp] theorem lookup_optionalMember {f : α → Value} {name key : String} {a : Option α} :
    (optionalMember key f a).lookup name = if name = key then a.map f else none := by
  cases a with
  | none => exact (ite_self none).symm
  | some x => exact lookup_cons

end Injective

/-! ## Parts of schemas -/

theorem PrimitiveKind.name_injective : Function.Injective name := by
  intro kind kind' h
  cases kind <;> cases kind' <;> first | rfl | exact absurd h (by decide)

/-- Counts that are words of 64 bits are determined by what is written. -/
theorem eq_of_map_ofNat_eq {a b : Option Nat} (ha : ∀ n ∈ a, n < 2 ^ 64) (hb : ∀ n ∈ b, n < 2 ^ 64)
    (h : a.map Value.ofNat = b.map Value.ofNat) : a = b := by
  refine eq_of_option_map_eq (fun m hm n hn heq => ?_) h
  have hwords : ((m % 18446744073709551616 : Nat) : Int) = (n % 18446744073709551616 : Nat) :=
    Number.integer.inj (Value.number.inj heq)
  have hm := ha m hm
  have hn := hb n hn
  omega

/-- Every condition of a primitive is found under its key. -/
theorem Primitive.lookup_members (p : Primitive) :
    p.members.lookup "kind" = some (.string p.kind.name) ∧
    p.members.lookup "minimum" = p.minimum.map .number ∧
    p.members.lookup "maximum" = p.maximum.map .number ∧
    p.members.lookup "exclusive_minimum" = p.exclusiveMinimum.map .number ∧
    p.members.lookup "exclusive_maximum" = p.exclusiveMaximum.map .number ∧
    p.members.lookup "min_length" = p.minLength.map .ofNat ∧
    p.members.lookup "max_length" = p.maxLength.map .ofNat ∧
    p.members.lookup "pattern" = p.pattern.map fun pattern => .string pattern.source := by
  simp [members, lookup_cons, List.lookup_append]

theorem Primitive.eq_of_members_eq {p q : Primitive} (hp : Schema.HasWords (.primitive p))
    (hq : Schema.HasWords (.primitive q)) (h : p.members = q.members) : p = q := by
  obtain ⟨hkind, hmin, hmax, hexmin, hexmax, hminLength, hmaxLength, hpattern⟩ := p.lookup_members
  rw [h] at hkind hmin hmax hexmin hexmax hminLength hmaxLength hpattern
  obtain ⟨hkind', hmin', hmax', hexmin', hexmax', hminLength', hmaxLength', hpattern'⟩ :=
    q.lookup_members
  have hnumber : Function.Injective Value.number := fun _ _ => Value.number.inj
  have hsource : Function.Injective fun pattern : Pattern => Value.string pattern.source :=
    fun _ _ heq => Pattern.eq_of_source_eq (Value.string.inj heq)
  have hname := PrimitiveKind.name_injective
    (Value.string.inj (Option.some.inj (hkind.symm.trans hkind')))
  have hbounds := fun {a b : Option Number} (h : a.map Value.number = b.map Value.number) =>
    Option.map_injective hnumber h
  cases p
  cases q
  simp only [Primitive.mk.injEq]
  exact ⟨hname, hbounds (hmin.symm.trans hmin'), hbounds (hmax.symm.trans hmax'),
    hbounds (hexmin.symm.trans hexmin'), hbounds (hexmax.symm.trans hexmax'),
    eq_of_map_ofNat_eq hp.1 hq.1 (hminLength.symm.trans hminLength'),
    eq_of_map_ofNat_eq hp.2 hq.2 (hmaxLength.symm.trans hmaxLength'),
    Option.map_injective hsource (hpattern.symm.trans hpattern')⟩

theorem TypeRef.members_injective : Function.Injective members := by
  intro target target' h
  have hlookup : ∀ target : TypeRef,
      target.members.lookup "document" = target.document.map .string ∧
      target.members.lookup "name" = some (.string target.name) := by
    intro target
    simp [members, lookup_cons, List.lookup_append]
  obtain ⟨hdocument, hname⟩ := hlookup target
  rw [h] at hdocument hname
  obtain ⟨hdocument', hname'⟩ := hlookup target'
  have hstring : Function.Injective Value.string := fun _ _ => Value.string.inj
  cases target
  cases target'
  rw [TypeRef.mk.injEq]
  exact ⟨Option.map_injective hstring (hdocument.symm.trans hdocument'),
    hstring (Option.some.inj (hname.symm.trans hname'))⟩

/-! ## Schemas -/

namespace Schema

/-- The members of a description behind the word for the form. -/
def describedMembers : Schema → Members
  | .const value => [("value", value)]
  | .enum values => [("values", .array values)]
  | .primitive p => p.members
  | .object fields closed =>
    [("fields", .array (fields.map describeField)), ("closed", .bool closed)]
  | .tuple items => [("items", .array (items.map describe))]
  | .array items minItems maxItems =>
    ("items", items.describe) ::
      (optionalMember "min_items" Value.ofNat minItems ++
        optionalMember "max_items" Value.ofNat maxItems)
  | .union alternatives => [("alternatives", .array (alternatives.map describe))]
  | .reference target => target.members
  | .anything => []

theorem describe_eq (s : Schema) : s.describe = node s.kindName s.describedMembers := by
  cases s with
  | object fields closed =>
    rw [describe, describeFields_eq]
    rfl
  | tuple items =>
    rw [describe, describeAll_eq]
    rfl
  | union alternatives =>
    rw [describe, describeAll_eq]
    rfl
  | const | enum | primitive | array | reference | anything => rfl

theorem node_inj {form form' : String} {ms ns : Members} (h : node form ms = node form' ns) :
    form = form' ∧ ms = ns := by
  obtain ⟨hform, hmembers⟩ := List.cons.inj (Value.object.inj h)
  exact ⟨Value.string.inj (Prod.mk.inj hform).2, hmembers⟩

/-- Both counts of an array are found under their keys. -/
theorem lookup_counts (minItems maxItems : Option Nat) :
    (optionalMember "min_items" Value.ofNat minItems ++
        optionalMember "max_items" Value.ofNat maxItems).lookup "min_items" =
      minItems.map Value.ofNat ∧
    (optionalMember "min_items" Value.ofNat minItems ++
        optionalMember "max_items" Value.ofNat maxItems).lookup "max_items" =
      maxItems.map Value.ofNat := by
  simp [List.lookup_append]

/-- A description of a schema whose counts are words of 64 bits determines the schema. -/
theorem eq_of_describe_eq {s t : Schema} (hs : s.Everywhere HasWords) (ht : t.Everywhere HasWords)
    (h : s.describe = t.describe) : s = t := by
  induction s using inductionOnParts generalizing t with
  | step s ih =>
    rw [describe_eq, describe_eq] at h
    obtain ⟨hkind, hmembers⟩ := node_inj h
    have hpart : ∀ {a b}, IsPart a s → IsPart b t → a.describe = b.describe → a = b :=
      fun ha hb heq => ih _ ha (hs.of_isPart ha) (ht.of_isPart hb) heq
    -- The word tells the form, so that only equal forms are left to be compared by their members.
    cases s with
    | const value =>
      cases t with
      | const other =>
        cases hmembers
        rfl
      | _ => simp [kindName] at hkind
    | enum values =>
      cases t with
      | enum others =>
        cases hmembers
        rfl
      | _ => simp [kindName] at hkind
    | primitive p =>
      cases t with
      | primitive q => rw [Primitive.eq_of_members_eq hs.here ht.here hmembers]
      | _ => simp [kindName] at hkind
    | object fields closed =>
      cases t with
      | object others closed' =>
        simp only [describedMembers, List.cons.injEq, Prod.mk.injEq, Value.array.injEq,
          Value.bool.injEq, true_and, and_true] at hmembers
        obtain ⟨hfields, rfl⟩ := hmembers
        have hfield : ∀ f ∈ fields, ∀ g ∈ others, describeField f = describeField g → f = g := by
          intro f hf g hg heq
          obtain ⟨name, schema, required⟩ := f
          obtain ⟨name', schema', required'⟩ := g
          simp only [describeField, Value.object.injEq, List.cons.injEq, Prod.mk.injEq,
            Value.string.injEq, Value.bool.injEq, true_and, and_true] at heq
          obtain ⟨rfl, hschema, rfl⟩ := heq
          obtain rfl := hpart (.field hf) (.field hg) hschema
          rfl
        rw [eq_of_map_eq hfield hfields]
      | _ => simp [kindName] at hkind
    | tuple items =>
      cases t with
      | tuple others =>
        simp only [describedMembers, List.cons.injEq, Prod.mk.injEq, Value.array.injEq,
          true_and, and_true] at hmembers
        rw [eq_of_map_eq (fun a ha b hb => hpart (.position ha) (.position hb)) hmembers]
      | _ => simp [kindName] at hkind
    | array items minItems maxItems =>
      cases t with
      | array others minItems' maxItems' =>
        obtain ⟨hitems, hcounts⟩ := List.cons.inj hmembers
        obtain ⟨hleast, hmost⟩ := lookup_counts minItems maxItems
        rw [hcounts] at hleast hmost
        obtain ⟨hleast', hmost'⟩ := lookup_counts minItems' maxItems'
        rw [hpart .item .item (Prod.mk.inj hitems).2,
          eq_of_map_ofNat_eq hs.here.1 ht.here.1 (hleast.symm.trans hleast'),
          eq_of_map_ofNat_eq hs.here.2 ht.here.2 (hmost.symm.trans hmost')]
      | _ => simp [kindName] at hkind
    | union alternatives =>
      cases t with
      | union others =>
        simp only [describedMembers, List.cons.injEq, Prod.mk.injEq, Value.array.injEq,
          true_and, and_true] at hmembers
        rw [eq_of_map_eq (fun a ha b hb => hpart (.alternative ha) (.alternative hb)) hmembers]
      | _ => simp [kindName] at hkind
    | reference target =>
      cases t with
      | reference target' => rw [TypeRef.members_injective hmembers]
      | _ => simp [kindName] at hkind
    | anything =>
      cases t with
      | anything => rfl
      | _ => simp [kindName] at hkind

end Schema

/-! ## Interfaces -/

section Declarations

variable {name name' description description' : String} {schema schema' : Schema}
  (hschema : schema.Everywhere Schema.HasWords) (hschema' : schema'.Everywhere Schema.HasWords)

include hschema hschema'

theorem declaration_inj
    (h : Value.object [("name", .string name), ("description", .string description),
        ("schema", schema.describe)] =
      .object [("name", .string name'), ("description", .string description'),
        ("schema", schema'.describe)]) :
    name = name' ∧ description = description' ∧ schema = schema' := by
  simp only [Value.object.injEq, List.cons.injEq, Prod.mk.injEq, Value.string.injEq, true_and,
    and_true] at h
  exact ⟨h.1, h.2.1, Schema.eq_of_describe_eq hschema hschema' h.2.2⟩

end Declarations

theorem NamedType.eq_of_describe_eq {t u : NamedType} (ht : t.schema.Everywhere Schema.HasWords)
    (hu : u.schema.Everywhere Schema.HasWords) (h : t.describe = u.describe) : t = u := by
  cases t
  cases u
  obtain ⟨rfl, rfl, rfl⟩ := declaration_inj ht hu h
  rfl

theorem Argument.eq_of_describe_eq {a b : Argument} (ha : a.schema.Everywhere Schema.HasWords)
    (hb : b.schema.Everywhere Schema.HasWords) (h : a.describe = b.describe) : a = b := by
  cases a
  cases b
  obtain ⟨rfl, rfl, rfl⟩ := declaration_inj ha hb h
  rfl

theorem Message.eq_of_describe_eq {m n : Message} (hm : m.schema.Everywhere Schema.HasWords)
    (hn : n.schema.Everywhere Schema.HasWords) (h : m.describe = n.describe) : m = n := by
  cases m
  cases n
  obtain ⟨rfl, rfl, rfl⟩ := declaration_inj hm hn h
  rfl

theorem Returns.eq_of_describe_eq {r q : Returns} (hr : r.schema.Everywhere Schema.HasWords)
    (hq : q.schema.Everywhere Schema.HasWords) (h : r.describe = q.describe) : r = q := by
  cases r
  cases q
  simp only [describe, Value.object.injEq, List.cons.injEq, Prod.mk.injEq, Value.string.injEq,
    true_and, and_true] at h
  obtain ⟨rfl, hschema⟩ := h
  obtain rfl := Schema.eq_of_describe_eq hr hq hschema
  rfl

theorem Function.eq_of_describe_eq {f g : Function}
    (hf : ∀ a ∈ f.arguments, a.schema.Everywhere Schema.HasWords)
    (hg : ∀ a ∈ g.arguments, a.schema.Everywhere Schema.HasWords)
    (hf' : ∀ r ∈ f.returns, r.schema.Everywhere Schema.HasWords)
    (hg' : ∀ r ∈ g.returns, r.schema.Everywhere Schema.HasWords)
    (h : f.describe = g.describe) : f = g := by
  obtain ⟨name, description, arguments, returns⟩ := f
  obtain ⟨name', description', arguments', returns'⟩ := g
  simp only [describe, List.cons_append, List.nil_append, Value.object.injEq, List.cons.injEq,
    Prod.mk.injEq, Value.string.injEq, Value.array.injEq, true_and] at h
  obtain ⟨rfl, rfl, harguments, hreturns⟩ := h
  obtain rfl := eq_of_map_eq (fun a ha b hb => Argument.eq_of_describe_eq (hf a ha) (hg b hb))
    harguments
  have hresult := congrArg (List.lookup "returns") hreturns
  rw [lookup_optionalMember, lookup_optionalMember, if_pos rfl, if_pos rfl] at hresult
  obtain rfl := eq_of_option_map_eq
    (fun r hr q hq => Returns.eq_of_describe_eq (hf' r hr) (hg' q hq)) hresult
  rfl

theorem Service.eq_of_describe_eq {s t : Service} {written written' : String}
    (hs : Version.ofText? written = some s.version) (ht : Version.ofText? written' = some t.version)
    (h : s.describe = t.describe) : s = t := by
  cases s
  cases t
  simp only [describe, Value.object.injEq, List.cons.injEq, Prod.mk.injEq, Value.string.injEq,
    true_and, and_true] at h
  obtain ⟨rfl, hversion, rfl⟩ := h
  obtain rfl := Version.eq_of_text_eq hs ht hversion
  rfl

/-- The named types of the other documents, by the keys of these. -/
def Registry.reached (registry : Registry) : List (String × List NamedType) :=
  registry.externals.map fun entry => (entry.1, entry.2.types)

namespace Interface

/-- The version was read from a text, and all counts are words of 64 bits, also in the types of the
documents that are reached. -/
structure Legible (i : Interface) : Prop where
  version : ∃ written, Version.ofText? written = some i.service.version
  schemas : ∀ schema, i.HasSchema schema → schema.Everywhere Schema.HasWords
  reached : ∀ key types, (key, types) ∈ i.registry.reached →
    ∀ t ∈ types, t.schema.Everywhere Schema.HasWords

/-- Everything that can be called, sent or named is equal, in the documents that are reached too. -/
structure Alike (l r : Interface) : Prop where
  service : l.service = r.service
  functions : l.functions = r.functions
  messages : l.messages = r.messages
  types : l.types = r.types
  fragments : l.fragments = r.fragments
  reached : l.registry.reached = r.registry.reached

theorem Alike.hasSchema {l r : Interface} (h : l.Alike r) {schema : Schema}
    (hschema : l.HasSchema schema) : r.HasSchema schema := by
  cases hschema with
  | type ht => exact .type (h.types ▸ ht)
  | argument hf ha => exact .argument (h.functions ▸ hf) ha
  | returns hf hr => exact .returns (h.functions ▸ hf) hr
  | message hm => exact .message (h.messages ▸ hm)
  | fragment hfragment => exact .fragment (h.fragments ▸ hfragment)

/-- The canonical description, by the types that are reached. -/
theorem canonical_eq (i : Interface) : i.canonical = .object [("service", i.service.describe),
    ("functions", .array (i.functions.map Function.describe)),
    ("messages", .array (i.messages.map Message.describe)),
    ("types", .array (i.types.map NamedType.describe)),
    ("schemas", .object (i.fragments.map fun fragment => (fragment.1, fragment.2.describe))),
    ("externals", .object (i.registry.reached.map fun entry =>
      (entry.1, .array (entry.2.map NamedType.describe))))] := by
  unfold canonical Registry.reached
  rw [List.map_map]
  rfl

/-- What can be read from a canonical description is determined by it. -/
theorem alike_of_canonical_eq {l r : Interface} (hl : l.Legible) (hr : r.Legible)
    (h : l.canonical = r.canonical) : l.Alike r := by
  simp only [canonical_eq, Value.object.injEq, List.cons.injEq, Prod.mk.injEq, Value.array.injEq,
    true_and, and_true] at h
  obtain ⟨hservice, hfunctions, hmessages, htypes, hfragments, hexternals⟩ := h
  have heqTypes : ∀ ts us : List NamedType, (∀ t ∈ ts, t.schema.Everywhere Schema.HasWords) →
      (∀ u ∈ us, u.schema.Everywhere Schema.HasWords) →
      ts.map NamedType.describe = us.map NamedType.describe → ts = us :=
    fun ts us hts hus => eq_of_map_eq fun t ht u hu =>
      NamedType.eq_of_describe_eq (hts t ht) (hus u hu)
  refine ⟨?_, ?_, ?_, ?_, ?_, ?_⟩
  · obtain ⟨written, hwritten⟩ := hl.version
    obtain ⟨written', hwritten'⟩ := hr.version
    exact Service.eq_of_describe_eq hwritten hwritten' hservice
  · refine eq_of_map_eq (fun f hf g hg heq => Function.eq_of_describe_eq ?_ ?_ ?_ ?_ heq) hfunctions
    · exact fun a ha => hl.schemas _ (.argument hf ha)
    · exact fun a ha => hr.schemas _ (.argument hg ha)
    · exact fun r hr => hl.schemas _ (.returns hf hr)
    · exact fun q hq => hr.schemas _ (.returns hg hq)
  · exact eq_of_map_eq (fun m hm n hn => Message.eq_of_describe_eq (hl.schemas _ (.message hm))
      (hr.schemas _ (.message hn))) hmessages
  · exact heqTypes l.types r.types (fun t ht => hl.schemas _ (.type ht))
      (fun u hu => hr.schemas _ (.type hu)) htypes
  · refine eq_of_map_eq (fun a ha b hb heq => ?_) hfragments
    obtain ⟨hkey, hschema⟩ := Prod.mk.inj heq
    exact Prod.ext hkey (Schema.eq_of_describe_eq (hl.schemas _ (.fragment ha))
      (hr.schemas _ (.fragment hb)) hschema)
  · refine eq_of_map_eq (fun a ha b hb heq => ?_) hexternals
    obtain ⟨hkey, htypes⟩ := Prod.mk.inj heq
    exact Prod.ext hkey (heqTypes a.2 b.2 (hl.reached _ _ ha) (hr.reached _ _ hb)
      (Value.array.inj htypes))

end Interface

end ServiceContract
