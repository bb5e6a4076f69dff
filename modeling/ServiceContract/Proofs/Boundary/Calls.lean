import ServiceContract.Proofs.Boundary.Sending
import ServiceContract.Proofs.Document.Identity
import ServiceContract.Proofs.Document.Origins

/-!
# Which calls are accepted

The arguments of a call are an object, and they are accepted if its keys are the names that the function
declares and if each value is accepted by the schema of its own argument. Otherwise there are three
reasons to refuse them, in this order: a key that is not declared, names that are missing, a value that
is not accepted. Since no two keys of an object are the same, their order plays no part in whether the
arguments are accepted, only in which of several undeclared keys is reported.
-/

namespace ServiceContract

open Json (Value Members)

/-! ## Calls -/

/-- The check of an argument. -/
def Argument.validator (registry : Registry) (maxDepth : Nat) (a : Argument) : Validator :=
  ⟨a.schema, registry, maxDepth⟩

namespace Function

/-- The names of the arguments, in the order of declaration. -/
def argumentNames (f : Function) : List String := f.arguments.map Argument.name

/-- Where the argument is given, its value is accepted. -/
def TakesValue (registry : Registry) (maxDepth : Nat) (arguments : Members) (a : Argument) : Prop :=
  ∀ value, (a.name, value) ∈ arguments → (a.validator registry maxDepth).check value = .ok ()

/-- The arguments are those that the function declares, and each value is accepted by the schema of its
own argument. -/
structure Takes (f : Function) (registry : Registry) (maxDepth : Nat) (arguments : Members) :
    Prop where
  /-- Exactly the declared arguments are given. -/
  keys : ∀ key, key ∈ arguments.map Prod.fst ↔ key ∈ f.argumentNames
  /-- Their values are accepted. -/
  values : ∀ a ∈ f.arguments, TakesValue registry maxDepth arguments a

/-- Why arguments are refused. -/
inductive Rejects (f : Function) (registry : Registry) (maxDepth : Nat) (arguments : Members) :
    Error → Prop where
  /-- Some are not declared, this one first in the order of the object. -/
  | unknown {before after : Members} {key : String} {value : Value}
      (harguments : arguments = before ++ (key, value) :: after)
      (hbefore : ∀ entry ∈ before, entry.1 ∈ f.argumentNames) (h : key ∉ f.argumentNames) :
      Rejects f registry maxDepth arguments (.unknownArgument f.name key)
  /-- All are declared, and some are missing. -/
  | missing (hdeclared : ∀ key ∈ arguments.map Prod.fst, key ∈ f.argumentNames)
      (h : ∃ name ∈ f.argumentNames, name ∉ arguments.map Prod.fst) :
      Rejects f registry maxDepth arguments
        (.arity f.name (f.argumentNames.filter fun name => name ∉ arguments.map Prod.fst))
  /-- Exactly the declared ones are there, and the value of this one is not accepted, which is the first
  in the order of declaration. -/
  | violated {before after : List Argument} {a : Argument} {value : Value} {violation : Violation}
      (hkeys : ∀ key, key ∈ arguments.map Prod.fst ↔ key ∈ f.argumentNames)
      (hdeclared : f.arguments = before ++ a :: after)
      (hbefore : ∀ b ∈ before, TakesValue registry maxDepth arguments b)
      (hvalue : (a.name, value) ∈ arguments)
      (h : (a.validator registry maxDepth).check value = .error violation) :
      Rejects f registry maxDepth arguments (.validation (violation.within (.field a.name)))

variable {f : Function} {registry : Registry} {maxDepth : Nat} {arguments : Members}

/-! ## Values in the order of declaration -/

/-- The checks of some arguments. -/
def checksOf (registry : Registry) (maxDepth : Nat) (declared : List Argument) :
    List (String × Validator) :=
  declared.map fun a => (a.name, a.validator registry maxDepth)

open FunctionContract (checkEach)

/-- Arguments whose values are accepted are passed over. -/
theorem checkEach_append {before : List Argument}
    (hbefore : ∀ b ∈ before, TakesValue registry maxDepth arguments b) (rest : List Argument) :
    checkEach arguments (checksOf registry maxDepth (before ++ rest)) =
      checkEach arguments (checksOf registry maxDepth rest) := by
  induction before with
  | nil => rfl
  | cons b before ih =>
    have hrest := ih fun c hc => hbefore c (List.mem_cons_of_mem b hc)
    rw [← hrest]
    unfold checksOf
    rw [List.cons_append, List.map_cons, checkEach]
    cases hlookup : arguments.lookup b.name with
    | none => rfl
    | some value =>
      have haccepted := hbefore b (List.mem_cons_self ..) value (mem_of_lookup hlookup)
      dsimp only
      rw [haccepted]
      rfl

/-- A value that is not accepted is reported. -/
theorem checkEach_of_violated (hkeys : (arguments.map Prod.fst).Nodup) {a : Argument} {value : Value}
    {violation : Violation} (hvalue : (a.name, value) ∈ arguments)
    (h : (a.validator registry maxDepth).check value = .error violation) (after : List Argument) :
    checkEach arguments (checksOf registry maxDepth (a :: after)) =
      .error (.validation (violation.within (.field a.name))) := by
  unfold checksOf
  rw [List.map_cons, checkEach, lookup_of_nodup hkeys hvalue]
  dsimp only
  rw [h]
  rfl

/-- Either all values are accepted, or there is a first argument whose value is not. -/
theorem takesValue_or_first (registry : Registry) (maxDepth : Nat) (arguments : Members)
    (declared : List Argument) :
    (∀ a ∈ declared, TakesValue registry maxDepth arguments a) ∨
      ∃ before a after value violation, declared = before ++ a :: after ∧
        (∀ b ∈ before, TakesValue registry maxDepth arguments b) ∧ (a.name, value) ∈ arguments ∧
        (a.validator registry maxDepth).check value = .error violation := by
  induction declared with
  | nil => exact .inl (by simp)
  | cons a rest ih =>
    by_cases ha : TakesValue registry maxDepth arguments a
    · rcases ih with hrest | ⟨before, b, after, value, violation, rfl, hbefore, hvalue, hcheck⟩
      · exact .inl (List.forall_mem_cons.2 ⟨ha, hrest⟩)
      · exact .inr ⟨a :: before, b, after, value, violation, rfl,
          List.forall_mem_cons.2 ⟨ha, hbefore⟩, hvalue, hcheck⟩
    · unfold TakesValue at ha
      push Not at ha
      obtain ⟨value, hvalue, hcheck⟩ := ha
      right
      cases hresult : (a.validator registry maxDepth).check value with
      | ok _ => exact absurd hresult hcheck
      | error violation =>
        exact ⟨[], a, rest, value, violation, rfl, by simp, hvalue, hresult⟩

/-! ## Keys -/

theorem argumentNames_ofFunction :
    (FunctionContract.ofFunction registry maxDepth f).argumentNames = f.argumentNames := by
  unfold FunctionContract.argumentNames FunctionContract.ofFunction argumentNames
  rw [List.map_map]
  rfl

/-- The declared names that are not found are those that are not among the keys. -/
theorem filter_lookup (names : List String) :
    (names.filter fun name => (arguments.lookup name).isNone) =
      names.filter fun name => name ∉ arguments.map Prod.fst := by
  refine List.filter_congr fun name _ => ?_
  rw [Bool.eq_iff_iff, Option.isNone_iff_eq_none, lookup_eq_none, decide_eq_true_iff]

/-- An undeclared key is the first thing to be refused. -/
theorem checkArguments_of_unknown {before after : Members} {key : String} {value : Value}
    (hbefore : ∀ entry ∈ before, entry.1 ∈ f.argumentNames) (h : key ∉ f.argumentNames) :
    (FunctionContract.ofFunction registry maxDepth f).checkArguments
        (before ++ (key, value) :: after) = .error (.unknownArgument f.name key) := by
  unfold FunctionContract.checkArguments
  rw [argumentNames_ofFunction, List.find?_append, List.find?_eq_none.2, Option.none_or,
    List.find?_cons_of_pos (by simpa using h)]
  · rfl
  · intro entry hentry
    simpa using hbefore entry hentry

/-- If all keys are declared, missing ones come next. -/
theorem checkArguments_of_missing (hdeclared : ∀ key ∈ arguments.map Prod.fst, key ∈ f.argumentNames)
    (h : ∃ name ∈ f.argumentNames, name ∉ arguments.map Prod.fst) :
    (FunctionContract.ofFunction registry maxDepth f).checkArguments arguments =
      .error (.arity f.name (f.argumentNames.filter fun name => name ∉ arguments.map Prod.fst)) := by
  obtain ⟨name, hname, hmissing⟩ := h
  have hmem : name ∈ f.argumentNames.filter fun name => name ∉ arguments.map Prod.fst :=
    List.mem_filter.2 ⟨hname, decide_eq_true hmissing⟩
  unfold FunctionContract.checkArguments
  rw [argumentNames_ofFunction, List.find?_eq_none.2, filter_lookup]
  · split
    · next hcontra => cases hcontra
    · split
      · next hnil =>
        rw [hnil] at hmem
        cases hmem
      · rfl
  · intro entry hentry
    simpa using hdeclared entry.1 (List.mem_map_of_mem hentry)

/-- If the keys are those that are declared, the values are checked. -/
theorem checkArguments_of_keys
    (h : ∀ key, key ∈ arguments.map Prod.fst ↔ key ∈ f.argumentNames) :
    (FunctionContract.ofFunction registry maxDepth f).checkArguments arguments =
      checkEach arguments (checksOf registry maxDepth f.arguments) := by
  have hmissing : (f.argumentNames.filter fun name => name ∉ arguments.map Prod.fst) = [] := by
    rw [List.filter_eq_nil_iff]
    intro name hname
    simpa using (h name).2 hname
  unfold FunctionContract.checkArguments
  rw [argumentNames_ofFunction, List.find?_eq_none.2, filter_lookup, hmissing]
  · rfl
  · intro entry hentry
    simpa using (h entry.1).1 (List.mem_map_of_mem hentry)

/-! ## Calls that are taken and calls that are refused -/

theorem checkArguments_of_takes (h : f.Takes registry maxDepth arguments) :
    (FunctionContract.ofFunction registry maxDepth f).checkArguments arguments = .ok () := by
  have hall := checkEach_append h.values []
  rw [List.append_nil] at hall
  rw [checkArguments_of_keys h.keys, hall]
  rfl

theorem checkArguments_of_rejects {e : Error} (hkeys : (arguments.map Prod.fst).Nodup)
    (h : f.Rejects registry maxDepth arguments e) :
    (FunctionContract.ofFunction registry maxDepth f).checkArguments arguments = .error e := by
  cases h with
  | unknown harguments hbefore h =>
    rw [harguments]
    exact checkArguments_of_unknown hbefore h
  | missing hdeclared h => exact checkArguments_of_missing hdeclared h
  | violated hdeclared hsplit hbefore hvalue h =>
    rw [checkArguments_of_keys hdeclared, hsplit, checkEach_append hbefore]
    exact checkEach_of_violated hkeys hvalue h _

/-- Arguments are taken, or there is a reason to refuse them. -/
theorem takes_or_rejects (f : Function) (registry : Registry) (maxDepth : Nat) (arguments : Members) :
    f.Takes registry maxDepth arguments ∨ ∃ e, f.Rejects registry maxDepth arguments e := by
  by_cases hdeclared : ∀ key ∈ arguments.map Prod.fst, key ∈ f.argumentNames
  · by_cases hthere : ∀ name ∈ f.argumentNames, name ∈ arguments.map Prod.fst
    · have hkeys : ∀ key, key ∈ arguments.map Prod.fst ↔ key ∈ f.argumentNames :=
        fun key => ⟨hdeclared key, hthere key⟩
      rcases takesValue_or_first registry maxDepth arguments f.arguments with
        hvalues | ⟨before, a, after, value, violation, hsplit, hbefore, hvalue, hcheck⟩
      · exact .inl ⟨hkeys, hvalues⟩
      · exact .inr ⟨_, .violated hkeys hsplit hbefore hvalue hcheck⟩
    · push Not at hthere
      exact .inr ⟨_, .missing hdeclared hthere⟩
  · right
    cases hfind : arguments.find? fun entry => !decide (entry.1 ∈ f.argumentNames) with
    | none =>
      rw [List.find?_eq_none] at hfind
      refine absurd (fun key hkey => ?_) hdeclared
      obtain ⟨entry, hentry, rfl⟩ := List.mem_map.1 hkey
      simpa using hfind entry hentry
    | some entry =>
      obtain ⟨hunknown, before, after, hsplit, hbefore⟩ := List.find?_eq_some_iff_append.1 hfind
      obtain ⟨key, value⟩ := entry
      refine ⟨_, .unknown hsplit (fun b hb => ?_) (by simpa using hunknown)⟩
      simpa using hbefore b hb

/-- Exactly the arguments that are taken pass the check. -/
theorem checkArguments_eq_ok_iff (hkeys : (arguments.map Prod.fst).Nodup) :
    (FunctionContract.ofFunction registry maxDepth f).checkArguments arguments = .ok () ↔
      f.Takes registry maxDepth arguments := by
  refine ⟨fun h => ?_, checkArguments_of_takes⟩
  rcases f.takes_or_rejects registry maxDepth arguments with htakes | ⟨e, hrejects⟩
  · exact htakes
  · cases h.symm.trans (checkArguments_of_rejects hkeys hrejects)

/-- The others are refused for the reason that there is. -/
theorem checkArguments_eq_error_iff {e : Error} (hkeys : (arguments.map Prod.fst).Nodup) :
    (FunctionContract.ofFunction registry maxDepth f).checkArguments arguments = .error e ↔
      f.Rejects registry maxDepth arguments e := by
  refine ⟨fun h => ?_, checkArguments_of_rejects hkeys⟩
  rcases f.takes_or_rejects registry maxDepth arguments with htakes | ⟨e', hrejects⟩
  · cases h.symm.trans (checkArguments_of_takes htakes)
  · cases h.symm.trans (checkArguments_of_rejects hkeys hrejects)
    exact hrejects

/-- In another order the arguments are taken as well. -/
theorem Takes.perm {arguments' : Members} (h : f.Takes registry maxDepth arguments)
    (horder : arguments'.Perm arguments) : f.Takes registry maxDepth arguments' where
  keys key := ((horder.map Prod.fst).mem_iff).trans (h.keys key)
  values a ha value hvalue := h.values a ha value (horder.mem_iff.1 hvalue)

end Function

/-- A call of a function of a resolved interface is accepted exactly if the keys of the object are the
declared names and each value is accepted by the schema of its own argument. It is refused for the first
key that is not declared, or else for all names that are missing, or else for the first argument whose
value is not accepted. Whether it is accepted does not depend on the order of the keys. -/
theorem Resolver.accepts_declared_calls {resolver : Resolver} {s s' : Store} {i : Interface}
    (hs : s.Reachable fun _ => True)
    (h : (∃ raw, resolver.resolve raw s = .ok i s') ∨ ∃ name, resolver.load name s = .ok i s')
    {f : Function} (hf : f ∈ i.functions) (maxDepth : Nat) {arguments : Members}
    (hkeys : (arguments.map Prod.fst).Nodup) :
    ∃ checks, (Contract.ofInterface i maxDepth).function f.name = .ok checks ∧
      f.argumentNames.Nodup ∧
      (checks.checkArguments arguments = .ok () ↔ f.Takes i.registry maxDepth arguments) ∧
      (∀ e, checks.checkArguments arguments = .error e ↔
        f.Rejects i.registry maxDepth arguments e) ∧
      ∀ arguments', arguments'.Perm arguments →
        (checks.checkArguments arguments' = .ok () ↔ checks.checkArguments arguments = .ok ()) := by
  have hnamed := Resolver.returns_wellNamed hs h
  have hfind : i.function? f.name = some f := find?_of_nodup hnamed.functions.2 hf
  refine ⟨.ofFunction i.registry maxDepth f, ?_, (hnamed.arguments f hf).2,
    Function.checkArguments_eq_ok_iff hkeys, fun e => Function.checkArguments_eq_error_iff hkeys,
    fun arguments' horder => ?_⟩
  · rw [Contract.function_ofInterface, hfind]
  · have hkeys' : (arguments'.map Prod.fst).Nodup := (horder.map Prod.fst).nodup_iff.2 hkeys
    rw [Function.checkArguments_eq_ok_iff hkeys, Function.checkArguments_eq_ok_iff hkeys']
    exact ⟨fun htakes => htakes.perm horder.symm, fun htakes => htakes.perm horder⟩

namespace Sample

/-- A document with a function of two whole numbers. -/
def adding : Value :=
  let whole := [("schema", Value.object [("type", .string "integer")])]
  document [("functions", .array [.object (declaration "add"
    [("arguments", .array [.object (declaration "a" whole), .object (declaration "b" whole)])])])]

/-- Two numbers, not in the order of declaration. -/
def summands : Members := [("b", .number (.ofNat 2)), ("a", .number (.ofNat 1))]

end Sample

/-- Two whole numbers are accepted, in either order of their names. -/
theorem Resolver.accepts_declared_calls_adding :
    ∃ i s' f checks, (Resolver.new .none none).resolve Sample.adding .empty = .ok i s' ∧
      f ∈ i.functions ∧ (Contract.ofInterface i 256).function f.name = .ok checks ∧
      checks.checkArguments Sample.summands = .ok () ∧
      checks.checkArguments Sample.summands.reverse = .ok () ∧
      f.Takes i.registry 256 Sample.summands ∧
      ∀ e, ¬ f.Rejects i.registry 256 Sample.summands e := by
  have hsummands : (Sample.summands.map Prod.fst).Nodup := by decide
  have hruns : ((result? ((Resolver.new .none none).resolve Sample.adding) .empty).bind fun i =>
      i.functions.head?.bind fun f => ((Contract.ofInterface i 256).function f.name).toOption.bind
        fun checks => (checks.checkArguments Sample.summands).toOption) = some () := by
    decide +kernel
  obtain ⟨i, hi, hruns⟩ := Option.bind_eq_some_iff.1 hruns
  obtain ⟨f, hf, hruns⟩ := Option.bind_eq_some_iff.1 hruns
  obtain ⟨checks, hchecks, hruns⟩ := Option.bind_eq_some_iff.1 hruns
  obtain ⟨s', h⟩ := result?_eq_some.1 hi
  have hmem := List.mem_of_head? hf
  have hchecks := eq_ok_of_toOption hchecks
  have haccepted := eq_ok_of_toOption hruns
  obtain ⟨checks', hchecks', -, htakes, hrejects, horder⟩ :=
    Resolver.accepts_declared_calls .empty (.inl ⟨_, h⟩) hmem 256 hsummands
  cases hchecks.symm.trans hchecks'
  refine ⟨i, s', f, checks, h, hmem, hchecks, haccepted, ?_, htakes.1 haccepted, fun e he => ?_⟩
  · exact (horder _ (List.reverse_perm _)).2 haccepted
  · cases haccepted.symm.trans ((hrejects e).2 he)

end ServiceContract
