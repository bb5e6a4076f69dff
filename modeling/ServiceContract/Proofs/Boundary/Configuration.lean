import ServiceContract.Boundary.Configuration
import ServiceContract.Proofs.Runs
import ServiceContract.Proofs.Table
import ServiceContract.Proofs.Text.ByteOrder

/-!
# Bindings from a configuration

The entries of a configuration are checked in the order of the bytes of their names, functions before
messages, each against the names that the interface declares for its own kind. If all of them pass, the
bindings lead to the endpoints as they are configured and nowhere else; otherwise the error is the one of
the first entry that does not pass. Tables that were read from a text are in this order.
-/

namespace ServiceContract

/-! ## Entries -/

namespace BindingConfig

variable {declared : List String} {unknown : String → Error} {entry : String × String} {e : Error}
  {entries : List (String × String)} {i : Interface} {config : BindingConfig}

/-- The tables are in the order of their names, with each name once. -/
structure Ordered (config : BindingConfig) : Prop where
  /-- The endpoints of functions. -/
  functions : Ascending (config.functions.map Prod.fst)
  /-- The endpoints of messages. -/
  messages : Ascending (config.messages.map Prod.fst)

/-- The name is declared, and some character of the endpoint is no white space. -/
def Fits (declared : List String) (entry : String × String) : Prop :=
  entry.1 ∈ declared ∧ ∃ c ∈ entry.2.toList, ¬ Text.isWhiteSpace c

/-- The error of an entry. Whether its endpoint is blank matters only if its name is declared. -/
inductive Refused (declared : List String) (unknown : String → Error) : String × String → Error → Prop where
  /-- The name is not declared. -/
  | undeclared {name endpoint : String} (h : name ∉ declared) :
      Refused declared unknown (name, endpoint) (unknown name)
  /-- The endpoint is blank. -/
  | blank {name endpoint : String} (hdeclared : name ∈ declared)
      (h : ∀ c ∈ endpoint.toList, Text.isWhiteSpace c) :
      Refused declared unknown (name, endpoint) (.config s!"endpoint for '{name}' must not be empty")

/-- The error of the first entry of a table that has one, in the order of the bytes of the names. -/
def FirstRefused (declared : List String) (unknown : String → Error) (entries : List (String × String))
    (e : Error) : Prop :=
  ∃ entry ∈ entries, Refused declared unknown entry e ∧
    ∀ earlier ∈ entries, BytesBefore earlier.1 entry.1 → Fits declared earlier

/-- All names are declared by the interface, each for its own kind, and no endpoint is blank. -/
def Served (config : BindingConfig) (i : Interface) : Prop :=
  (∀ entry ∈ config.functions, Fits (i.functions.map Function.name) entry) ∧
    ∀ entry ∈ config.messages, Fits (i.messages.map Message.name) entry

/-- The error of the first entry that has one. Messages come into question behind all functions. -/
inductive FirstError (config : BindingConfig) (i : Interface) : Error → Prop where
  /-- The entry is one of the functions. -/
  | function {e : Error}
      (h : FirstRefused (i.functions.map Function.name) .unknownFunction config.functions e) :
      FirstError config i e
  /-- The entry is one of the messages. -/
  | message {e : Error}
      (hfunctions : ∀ entry ∈ config.functions, Fits (i.functions.map Function.name) entry)
      (h : FirstRefused (i.messages.map Message.name) .unknownMessage config.messages e) :
      FirstError config i e

/-- The check of one entry. -/
def checkEntry (declared : List String) (unknown : String → Error) (entry : String × String) :
    Except Error Unit :=
  if entry.1 ∈ declared then checkEndpoint entry.1 entry.2 else .error (unknown entry.1)

theorem isBlank_iff_forall {endpoint : String} :
    Text.isBlank endpoint = true ↔ ∀ c ∈ endpoint.toList, Text.isWhiteSpace c :=
  List.all_eq_true

theorem checkEntry_eq_ok : checkEntry declared unknown entry = .ok () ↔ Fits declared entry := by
  obtain ⟨name, endpoint⟩ := entry
  have hfits : Fits declared (name, endpoint) ↔ name ∈ declared ∧ ¬ Text.isBlank endpoint = true := by
    rw [isBlank_iff_forall, Fits]
    push Not
    rfl
  rw [hfits]
  unfold checkEntry checkEndpoint
  by_cases hdeclared : name ∈ declared <;> by_cases hblank : Text.isBlank endpoint = true <;>
    simp [hdeclared, hblank]

theorem checkEntry_eq_error :
    checkEntry declared unknown entry = .error e ↔ Refused declared unknown entry e := by
  obtain ⟨name, endpoint⟩ := entry
  unfold checkEntry checkEndpoint
  constructor
  · intro h
    split at h
    · next hdeclared =>
      split at h
      · next hblank =>
        cases h
        exact .blank hdeclared (isBlank_iff_forall.1 hblank)
      · cases h
    · next hdeclared =>
      cases h
      exact .undeclared hdeclared
  · rintro (hdeclared | ⟨hdeclared, hblank⟩)
    · exact if_neg hdeclared
    · rw [if_pos hdeclared]
      exact if_pos (isBlank_iff_forall.2 hblank)

/-! ## Tables of entries -/

theorem checks_eq_ok :
    entries.forM (checkEntry declared unknown) = .ok () ↔ ∀ entry ∈ entries, Fits declared entry :=
  forM_eq_ok.trans (forall₂_congr fun _ _ => checkEntry_eq_ok)

/-- In a table that is in order the first entry that fails its check is the first one by its bytes. -/
theorem checks_eq_error (horder : Ascending (entries.map Prod.fst)) :
    entries.forM (checkEntry declared unknown) = .error e ↔ FirstRefused declared unknown entries e := by
  constructor
  · intro h
    obtain ⟨before, entry, after, rfl, hbefore, hentry⟩ := first_of_forM_eq_error h
    refine ⟨entry, List.mem_append_right _ List.mem_cons_self, checkEntry_eq_error.1 hentry, ?_⟩
    intro earlier hmem hlt
    rw [bytesBefore_iff] at hlt
    rcases List.mem_append.1 hmem with hmem | hmem
    · exact checkEntry_eq_ok.1 (hbefore earlier hmem)
    · -- What does not stand in front of the entry is the entry or comes behind it.
      rw [List.map_append, List.map_cons] at horder
      have hbehind := (List.pairwise_cons.1 (List.pairwise_append.1 horder).2.1).1
      rcases List.mem_cons.1 hmem with rfl | hmem
      · exact absurd hlt (String.lt_irrefl _)
      · exact absurd hlt (String.lt_asymm (hbehind _ (List.mem_map_of_mem hmem)))
  · rintro ⟨entry, hmem, hentry, hearlier⟩
    obtain ⟨before, after, rfl⟩ := List.append_of_mem hmem
    refine forM_eq_error_of_first (fun earlier hmem => checkEntry_eq_ok.2 ?_) (checkEntry_eq_error.2 hentry)
    refine hearlier earlier (List.mem_append_left _ hmem) (bytesBefore_iff.2 ?_)
    rw [List.map_append, List.map_cons] at horder
    exact (List.pairwise_append.1 horder).2.2 _ (List.mem_map_of_mem hmem) _ List.mem_cons_self

/-! ## Bindings -/

/-- Names are checked against a kind of declared item in the way that entries are checked. -/
theorem check_then_put {α β : Type} {key : α → String} {items : List α} {name endpoint : String} {b : β} :
    (do
      if (items.find? fun item => key item == name).isNone then throw (unknown name)
      checkEndpoint name endpoint
      return b) =
    checkEntry (items.map key) unknown (name, endpoint) >>= fun _ => .ok b := by
  unfold checkEntry
  by_cases hname : name ∈ items.map key
  · rw [if_neg fun hnone => find?_name_eq_none.1 (Option.isNone_iff_eq_none.1 hnone) hname, if_pos hname]
    rfl
  · rw [if_pos (Option.isNone_iff_eq_none.2 (find?_name_eq_none.2 hname)), if_neg hname]
    rfl

theorem foldl_withFunction {bindings : Bindings} :
    entries.foldl (fun bindings entry => bindings.withFunction entry.1 entry.2) bindings =
      { bindings with
        functions := entries.foldl (fun table entry => putEntry entry.1 entry.2 table) bindings.functions } := by
  induction entries generalizing bindings with
  | nil => rfl
  | cons entry rest ih => exact ih

theorem foldl_withMessage {bindings : Bindings} :
    entries.foldl (fun bindings entry => bindings.withMessage entry.1 entry.2) bindings =
      { bindings with
        messages := entries.foldl (fun table entry => putEntry entry.1 entry.2 table) bindings.messages } := by
  induction entries generalizing bindings with
  | nil => rfl
  | cons entry rest ih => exact ih

/-- The checks of all entries come before the tables, which are made of the entries as they are. -/
theorem toBindings_eq : config.toBindings i = (do
    config.functions.forM (checkEntry (i.functions.map Function.name) .unknownFunction)
    config.messages.forM (checkEntry (i.messages.map Message.name) .unknownMessage)
    return ⟨nameTable config.functions, nameTable config.messages⟩) := by
  unfold toBindings
  rw [foldlM_check (checkEntry (i.functions.map Function.name) .unknownFunction)
    (fun bindings entry => bindings.withFunction entry.1 entry.2)]
  · rw [bind_assoc]
    refine bind_congr fun _ => ?_
    refine (pure_bind _ _).trans ?_
    rw [foldlM_check (checkEntry (i.messages.map Message.name) .unknownMessage)
      (fun bindings entry => bindings.withMessage entry.1 entry.2)]
    · rw [foldl_withFunction, foldl_withMessage]
      rfl
    · exact fun _ _ => check_then_put
  · exact fun _ _ => check_then_put

theorem toBindings_eq_ok {b : Bindings} : config.toBindings i = .ok b ↔
    config.Served i ∧ b = ⟨nameTable config.functions, nameTable config.messages⟩ := by
  rw [toBindings_eq]
  constructor
  · intro h
    obtain ⟨_, hfunctions, h⟩ := bind_eq_ok.1 h
    obtain ⟨_, hmessages, h⟩ := bind_eq_ok.1 h
    cases h
    exact ⟨⟨checks_eq_ok.1 hfunctions, checks_eq_ok.1 hmessages⟩, rfl⟩
  · rintro ⟨⟨hfunctions, hmessages⟩, rfl⟩
    rw [checks_eq_ok.2 hfunctions, checks_eq_ok.2 hmessages]
    rfl

theorem toBindings_eq_error (h : config.Ordered) :
    config.toBindings i = .error e ↔ config.FirstError i e := by
  rw [toBindings_eq]
  constructor
  · intro hchecks
    cases hfunctions : config.functions.forM (checkEntry (i.functions.map Function.name) .unknownFunction) with
    | error e' =>
      rw [hfunctions] at hchecks
      cases hchecks
      exact .function ((checks_eq_error h.functions).1 hfunctions)
    | ok =>
      cases hmessages : config.messages.forM (checkEntry (i.messages.map Message.name) .unknownMessage) with
      | error e' =>
        rw [hfunctions, hmessages] at hchecks
        cases hchecks
        exact .message (checks_eq_ok.1 hfunctions) ((checks_eq_error h.messages).1 hmessages)
      | ok =>
        rw [hfunctions, hmessages] at hchecks
        cases hchecks
  · rintro (hrefused | ⟨hfunctions, hrefused⟩)
    · rw [(checks_eq_error h.functions).2 hrefused]
      rfl
    · rw [checks_eq_ok.2 hfunctions, (checks_eq_error h.messages).2 hrefused]
      rfl

/-- Bindings are made if and only if all entries fit, and they lead to the configured endpoints and nowhere
else; otherwise the error is the one of the first entry that does not fit. -/
theorem toBindings_faithful (i : Interface) (config : BindingConfig) (h : config.Ordered) :
    ((∃ b, config.toBindings i = .ok b) ↔ config.Served i) ∧
    (∀ b, config.toBindings i = .ok b → ∀ name endpoint,
      (b.function? name = some endpoint ↔ (name, endpoint) ∈ config.functions) ∧
      (b.message? name = some endpoint ↔ (name, endpoint) ∈ config.messages)) ∧
    ∀ e, config.toBindings i = .error e ↔ config.FirstError i e := by
  refine ⟨⟨?_, fun hserved => ⟨_, toBindings_eq_ok.2 ⟨hserved, rfl⟩⟩⟩, ?_, fun e => toBindings_eq_error h⟩
  · rintro ⟨b, hb⟩
    exact (toBindings_eq_ok.1 hb).1
  · intro b hb name endpoint
    obtain ⟨-, rfl⟩ := toBindings_eq_ok.1 hb
    rw [nameTable_of_ascending h.functions, nameTable_of_ascending h.messages]
    exact ⟨lookup_eq_some_iff_mem h.functions, lookup_eq_some_iff_mem h.messages⟩

end BindingConfig

namespace Sample

/-- A service with one function and one message. -/
def shop : Interface where
  document := none
  service := ⟨"shop", ⟨1, 0, 0, "", ""⟩, "A sample."⟩
  functions := [⟨"buy", "A sample.", [], none⟩]
  messages := [⟨"sold", "A sample.", .anything⟩]
  registry := .empty
  fragments := []

/-- Endpoints of both. -/
def deployed : BindingConfig := ⟨[("buy", "lambda:buy")], [("sold", "topic:sold")]⟩

/-- The message stands among the functions, and its endpoint is blank. -/
def crossed : BindingConfig := ⟨[("buy", "lambda:buy"), ("sold", " ")], []⟩

end Sample

/-- The endpoints of the one are found; the other has a message where functions are. -/
theorem BindingConfig.toBindings_faithful_shop :
    Sample.deployed.Ordered ∧ Sample.crossed.Ordered ∧
    (∃ b, Sample.deployed.toBindings Sample.shop = .ok b ∧ b.function? "buy" = some "lambda:buy" ∧
      b.message? "sold" = some "topic:sold" ∧ b.function? "sold" ≠ some "topic:sold") ∧
    Sample.crossed.toBindings Sample.shop = .error (.unknownFunction "sold") := by
  have hdeployed : Sample.deployed.Ordered := ⟨List.pairwise_singleton _ _, List.pairwise_singleton _ _⟩
  have hcrossed : Sample.crossed.Ordered := ⟨List.pairwise_pair.2 (by decide), List.Pairwise.nil⟩
  have hbuy : Fits (Sample.shop.functions.map Function.name) ("buy", "lambda:buy") :=
    ⟨by decide, 'l', by decide, by decide⟩
  have hsold : Fits (Sample.shop.messages.map Message.name) ("sold", "topic:sold") :=
    ⟨by decide, 't', by decide, by decide⟩
  have hserved : Sample.deployed.Served Sample.shop :=
    ⟨List.forall_mem_singleton.2 hbuy, List.forall_mem_singleton.2 hsold⟩
  obtain ⟨hmade, hfaithful, -⟩ := toBindings_faithful Sample.shop Sample.deployed hdeployed
  obtain ⟨b, hb⟩ := hmade.2 hserved
  refine ⟨hdeployed, hcrossed, ⟨b, hb, ?_, ?_, ?_⟩, ?_⟩
  · exact (hfaithful b hb _ _).1.2 (by decide)
  · exact (hfaithful b hb _ _).2.2 (by decide)
  · exact fun h => absurd ((hfaithful b hb _ _).1.1 h) (by decide)
  · refine ((toBindings_faithful Sample.shop Sample.crossed hcrossed).2.2 _).2 (.function ?_)
    refine ⟨("sold", " "), by decide, .undeclared (by decide), ?_⟩
    rintro earlier (_ | ⟨_, _ | ⟨_, ⟨⟩⟩⟩) hearlier
    · exact hbuy
    · exact absurd (bytesBefore_iff.1 hearlier) (String.lt_irrefl _)

/-! ## Tables that are read -/

namespace Json

section Readings

variable {α : Type} {P : α → Prop} {reading item value field : Reading α}

/-- Whatever is read has the property. -/
def Reads (P : α → Prop) (reading : Reading α) : Prop :=
  ∀ text x rest, reading text = .ok (x, rest) → P x

theorem Reads.itemsFrom (h : Reads P item) (close : UInt8) (bound : Nat) :
    Reads (fun xs => ∀ x ∈ xs, P x) (itemsFrom close item bound) := by
  induction bound with
  | zero =>
    intro text xs rest hread
    cases hread
  | succ bound ih =>
    intro text xs rest hread
    rw [Json.itemsFrom] at hread
    obtain ⟨⟨x, text⟩, hx, hread⟩ := bind_eq_ok.1 hread
    dsimp only at hread
    split at hread
    · obtain ⟨⟨others, rest⟩, hothers, hread⟩ := bind_eq_ok.1 hread
      cases hread
      exact List.forall_mem_cons.2 ⟨h _ _ _ hx, ih _ _ _ hothers⟩
    · split at hread
      · cases hread
        exact List.forall_mem_singleton.2 (h _ _ _ hx)
      · cases hread
    · cases hread

theorem Reads.delimited (h : Reads P item) (close : UInt8) :
    Reads (fun xs => ∀ x ∈ xs, P x) (delimited close item) := by
  intro text xs rest hread
  unfold Json.delimited at hread
  split at hread
  · split at hread
    · cases hread
      exact List.forall_mem_nil _
    · exact h.itemsFrom _ _ _ _ _ hread
  · cases hread

theorem Reads.member (h : Reads P value) : Reads (fun entry => P entry.2) (member value) := by
  intro text entry rest hread
  unfold Json.member at hread
  obtain ⟨⟨key, text⟩, -, hread⟩ := bind_eq_ok.1 hread
  obtain ⟨text, -, hread⟩ := bind_eq_ok.1 hread
  obtain ⟨⟨v, rest⟩, hvalue, hread⟩ := bind_eq_ok.1 hread
  cases hread
  exact h _ _ _ hvalue

theorem Reads.record (h : Reads P field) (names : List String) :
    Reads (fun fields => ∀ entry ∈ fields, P entry.2) (record names field) := by
  intro text fields rest hread
  unfold Json.record at hread
  split at hread
  · obtain ⟨⟨members, rest⟩, hmembers, hread⟩ := bind_eq_ok.1 hread
    dsimp only at hread
    split at hread
    · cases hread
      exact h.member.delimited _ _ _ _ hmembers
    · cases hread
  · obtain ⟨⟨items, rest⟩, hitems, hread⟩ := bind_eq_ok.1 hread
    dsimp only at hread
    split at hread
    · cases hread
      exact fun entry hentry => h.delimited _ _ _ _ hitems _ (List.of_mem_zip hentry).2
    · cases hread
  · cases hread

theorem Reads.wholly (h : Reads P reading) {text : List UInt8} {x : α} (hread : wholly reading text = .ok x) :
    P x := by
  unfold Json.wholly at hread
  obtain ⟨⟨y, rest⟩, hy, hread⟩ := bind_eq_ok.1 hread
  dsimp only at hread
  split at hread
  · cases hread
    exact h _ _ _ hy
  · cases hread

theorem reads_textTable : Reads (fun table => Ascending (table.map Prod.fst)) textTable := by
  intro text table rest hread
  unfold textTable at hread
  split at hread
  · obtain ⟨⟨entries, rest⟩, -, hread⟩ := bind_eq_ok.1 hread
    cases hread
    exact ascending_nameTable entries
  · cases hread

end Readings

end Json

namespace BindingConfig

/-- Every configuration that is read is in order, however its text puts the entries. -/
theorem ofText_ordered {text : String} {config : BindingConfig} (h : ofText text = .ok config) :
    config.Ordered := by
  unfold ofText at h
  split at h
  · next fields hread =>
    cases h
    have hfields := (Json.reads_textTable.record _).wholly hread
    have hfield : ∀ name, Ascending (((fields.lookup name).getD []).map Prod.fst) := by
      intro name
      cases hfound : fields.lookup name with
      | none => exact List.Pairwise.nil
      | some table => exact hfields _ (mem_of_lookup hfound)
    exact ⟨hfield _, hfield _⟩
  · cases h

end BindingConfig

end ServiceContract
