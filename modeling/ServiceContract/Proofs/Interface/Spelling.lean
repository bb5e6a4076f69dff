import Mathlib.Data.List.DropRight
import Mathlib.Data.List.Nodup
import ServiceContract.Proofs.Interface.Avoidance

/-!
# The spelling of identifiers

A name in kebab case can be read back from its identifier in snake case: underscores at the end were
appended to avoid reserved words, and all others stand for dashes. Pascal case keeps the dashes in front
of letters, as capitals, and loses the ones in front of digits. So two identifiers are the same only
where the names are, up to dashes in front of digits if the names are those of types, and this is so
whichever words are reserved.
-/

namespace ServiceContract

namespace IdentifierRules

/-! ## Names in kebab case, character by character -/

/-- The characters of a name in kebab case, or the rest of them behind a letter or digit. At the start
of a piece there has to be a letter or digit. -/
inductive Spells : (start : Bool) → List Char → Prop where
  /-- The name is over. -/
  | done : Spells false []
  /-- A dash, and the next piece. -/
  | dash {cs : List Char} (h : Spells true cs) : Spells false ('-' :: cs)
  /-- A letter or digit. -/
  | char {start : Bool} {c : Char} {cs : List Char} (hc : isNameChar c) (h : Spells false cs) :
      Spells start (c :: cs)

/-- A piece of a name in kebab case. -/
def IsPiece (piece : List Char) : Prop := piece ≠ [] ∧ ∀ c ∈ piece, isNameChar c

variable {start : Bool} {c : Char} {cs piece : List Char} {pieces : List (List Char)}
  {rules : IdentifierRules} {role : Role} {words words' : List String} {m n name text text' : String}

theorem spells_of_splitAt (h : Text.splitAt '-' cs = piece :: pieces) (hpiece : ∀ c ∈ piece, isNameChar c)
    (hpieces : ∀ p ∈ pieces, IsPiece p) : Spells false cs ∧ (piece ≠ [] → Spells true cs) := by
  induction cs generalizing piece pieces with
  | nil =>
    cases h
    exact ⟨.done, fun hne => absurd rfl hne⟩
  | cons c cs ih =>
    unfold Text.splitAt at h
    split at h
    · next hdash =>
      subst hdash
      obtain ⟨rfl, rfl⟩ := List.cons.inj h
      obtain ⟨first, rest, hsplit⟩ := List.exists_cons_of_ne_nil (Text.splitAt_ne_nil '-' cs)
      rw [hsplit, List.forall_mem_cons] at hpieces
      exact ⟨.dash ((ih hsplit hpieces.1.2 hpieces.2).2 hpieces.1.1), fun hne => absurd rfl hne⟩
    · obtain ⟨first, rest, hsplit⟩ := List.exists_cons_of_ne_nil (Text.splitAt_ne_nil '-' cs)
      rw [hsplit] at h
      obtain ⟨rfl, rfl⟩ := List.cons.inj h
      rw [List.forall_mem_cons] at hpiece
      have hrest : Spells false cs := (ih hsplit hpiece.2 hpieces).1
      exact ⟨.char hpiece.1 hrest, fun _ => .char hpiece.1 hrest⟩

theorem spells_of_isKebabCase (h : isKebabCase name) : Spells true name.toList := by
  obtain ⟨first, rest, hsplit⟩ := List.exists_cons_of_ne_nil (Text.splitAt_ne_nil '-' name.toList)
  have hpieces : ∀ piece ∈ first :: rest, IsPiece piece := by
    intro piece hmem
    rw [isKebabCase, namePieces, hsplit, List.all_eq_true] at h
    have hpiece := h piece hmem
    simpa [IsPiece] using hpiece
  rw [List.forall_mem_cons] at hpieces
  exact (spells_of_splitAt hsplit hpieces.1.2 hpieces.2).2 hpieces.1.1

/-- What is checked for each of the letters and digits holds of the characters of names. -/
theorem forall_isNameChar {P : Char → Prop} (h : ∀ n < 123, isNameChar (Char.ofNat n) → P (Char.ofNat n))
    (hc : isNameChar c) : P c := by
  have hbound : c.toNat < 123 := by
    unfold isNameChar Char.isLower Char.isDigit at hc
    simp only [Bool.or_eq_true, Bool.and_eq_true, decide_eq_true_eq, UInt32.le_iff_toNat_le] at hc
    change c.val.toNat < 123
    have hlower : 'z'.val.toNat = 122 := rfl
    have hdigit : '9'.val.toNat = 57 := rfl
    omega
  have hself : Char.ofNat c.toNat = c := Char.ofNat_toNat c
  rw [← hself] at hc ⊢
  exact h c.toNat hbound hc

/-! ## Underscores at the end -/

/-- Reserved words are avoided by underscores at the end alone. -/
theorem exists_toList_avoid (words : List String) (text : String) :
    ∃ count, (avoid words text).toList = text.toList ++ List.replicate count '_' := by
  obtain ⟨count, heq, -⟩ := exists_avoid_eq words text
  exact ⟨count, by rw [heq, toList_pushn]⟩

/-- The characters up to the last one that is no underscore. -/
def core (cs : List Char) : List Char := cs.rdropWhile (· == '_')

theorem core_append_replicate (count : Nat) : core (cs ++ List.replicate count '_') = core cs := by
  induction count with
  | zero => simp
  | succ count ih =>
    rw [List.replicate_succ', ← List.append_assoc, core, List.rdropWhile_concat_pos _ _ _ rfl]
    exact ih

/-- The underscores that avoid reserved words can be taken off again. -/
theorem core_avoid : core (avoid words text).toList = core text.toList := by
  obtain ⟨count, hcount⟩ := exists_toList_avoid words text
  rw [hcount, core_append_replicate]

/-! ## Snake case -/

/-- A dash becomes an underscore. -/
def underscored (c : Char) : Char := if c = '-' then '_' else c

theorem intercalate_splitAt (cs : List Char) :
    List.intercalate ['_'] (Text.splitAt '-' cs) = cs.map underscored := by
  induction cs with
  | nil => rfl
  | cons c cs ih =>
    obtain ⟨first, rest, hsplit⟩ := List.exists_cons_of_ne_nil (Text.splitAt_ne_nil '-' cs)
    rw [hsplit] at ih
    rw [List.map_cons, ← ih, Text.splitAt, hsplit, underscored]
    split
    · rfl
    · cases rest <;> rfl

theorem toList_snakeCase : (snakeCase name).toList = name.toList.map underscored := by
  rw [snakeCase, namePieces, intercalate_splitAt, String.toList_ofList]

/-- An underscore becomes a dash. -/
def dashed (c : Char) : Char := if c = '_' then '-' else c

theorem isNameChar_ne (hc : isNameChar c) : c ≠ '-' ∧ c ≠ '_' :=
  forall_isNameChar (P := fun c => c ≠ '-' ∧ c ≠ '_') (by decide) hc

/-- The dashes of a name can be put back in. -/
theorem Spells.map_dashed (h : Spells start cs) : (cs.map underscored).map dashed = cs := by
  induction h with
  | done => rfl
  | dash _ ih =>
    rw [List.map_cons, List.map_cons, ih]
    rfl
  | @char _ c cs hc _ ih =>
    obtain ⟨hdash, hunderscore⟩ := isNameChar_ne hc
    rw [List.map_cons, List.map_cons, ih, underscored, if_neg hdash, dashed, if_neg hunderscore]

/-- A name does not end in a dash. -/
theorem Spells.isNameChar_getLast (h : Spells start cs) (hne : cs ≠ []) : isNameChar (cs.getLast hne) := by
  induction h with
  | done => exact absurd rfl hne
  | @dash cs h ih =>
    have hrest : cs ≠ [] := by
      rintro rfl
      cases h
    rw [List.getLast_cons hrest]
    exact ih hrest
  | @char _ c cs hc _ ih =>
    by_cases hrest : cs = []
    · subst hrest
      exact hc
    · rw [List.getLast_cons hrest]
      exact ih hrest

theorem Spells.core_map_underscored (h : Spells start cs) :
    core (cs.map underscored) = cs.map underscored := by
  refine List.rdropWhile_eq_self_iff.2 fun hne => ?_
  have hlast := isNameChar_ne (h.isNameChar_getLast (List.map_eq_nil_iff.not.1 hne))
  rw [List.getLast_map, underscored, if_neg hlast.1, beq_iff_eq]
  exact hlast.2

/-- A name can be read back from its identifier in snake case, whatever was avoided. -/
theorem eq_of_avoid_snakeCase (hm : isKebabCase m) (hn : isKebabCase n)
    (h : avoid words (snakeCase m) = avoid words' (snakeCase n)) : m = n := by
  have hmSpells := spells_of_isKebabCase hm
  have hnSpells := spells_of_isKebabCase hn
  have hsame : m.toList.map underscored = n.toList.map underscored := by
    calc m.toList.map underscored
      _ = core (avoid words (snakeCase m)).toList := by
        rw [core_avoid, toList_snakeCase, hmSpells.core_map_underscored]
      _ = core (avoid words' (snakeCase n)).toList := by rw [h]
      _ = n.toList.map underscored := by
        rw [core_avoid, toList_snakeCase, hnSpells.core_map_underscored]
  apply String.toList_inj.1
  rw [← hmSpells.map_dashed, hsame, hnSpells.map_dashed]

/-! ## Pascal case -/

/-- The characters without dashes, each first character of a piece in upper case. -/
def capitalised : (start : Bool) → List Char → List Char
  | _, [] => []
  | start, c :: cs =>
    if c = '-' then capitalised true cs
    else (if start then c.toUpper else c) :: capitalised false cs

theorem capitalised_splitAt (h : Text.splitAt '-' cs = piece :: pieces) :
    capitalised false cs = piece ++ pieces.flatMap capitalise ∧
      capitalised true cs = capitalise piece ++ pieces.flatMap capitalise := by
  induction cs generalizing piece pieces with
  | nil =>
    cases h
    exact ⟨rfl, rfl⟩
  | cons c cs ih =>
    obtain ⟨first, rest, hsplit⟩ := List.exists_cons_of_ne_nil (Text.splitAt_ne_nil '-' cs)
    obtain ⟨hinside, hstart⟩ := ih hsplit
    rw [Text.splitAt, hsplit] at h
    simp only [capitalised]
    split at h
    · next hdash =>
      obtain ⟨rfl, rfl⟩ := List.cons.inj h
      rw [if_pos hdash, if_pos hdash, List.flatMap_cons, hstart]
      exact ⟨rfl, rfl⟩
    · next hdash =>
      obtain ⟨rfl, rfl⟩ := List.cons.inj h
      rw [if_neg hdash, if_neg hdash, hinside]
      exact ⟨rfl, rfl⟩

theorem toList_pascalCase : (pascalCase name).toList = capitalised true name.toList := by
  obtain ⟨first, rest, hsplit⟩ := List.exists_cons_of_ne_nil (Text.splitAt_ne_nil '-' name.toList)
  rw [pascalCase, String.toList_ofList, namePieces, hsplit, (capitalised_splitAt hsplit).2,
    List.flatMap_cons]

/-- The characters without the dashes that a digit follows directly. -/
def joinDigits : List Char → List Char
  | [] => []
  | c :: cs => if c = '-' ∧ cs.head?.any Char.isDigit then joinDigits cs else c :: joinDigits cs

/-- The name without the dashes that a digit follows directly. -/
def withoutDigitDashes (name : String) : String := String.ofList (joinDigits name.toList)

/-- A capital stands for a dash and a letter. -/
def uncapitalised (c : Char) : List Char := if c.isUpper then ['-', c.toLower] else [c]

theorem joinDigits_of_ne (h : c ≠ '-') : joinDigits (c :: cs) = c :: joinDigits cs := by
  rw [joinDigits, if_neg fun h' => h h'.1]

theorem uncapitalised_of_isNameChar (hc : isNameChar c) : uncapitalised c = [c] :=
  forall_isNameChar (P := fun c => uncapitalised c = [c]) (by decide) hc

theorem uncapitalised_toUpper (hc : isNameChar c) :
    uncapitalised c.toUpper = if c.isDigit then [c] else ['-', c] :=
  forall_isNameChar (P := fun c => uncapitalised c.toUpper = if c.isDigit then [c] else ['-', c])
    (by decide) hc

/-- From the characters in pascal case all dashes can be put back in but those in front of digits; a
name that starts with a letter gets one in front. -/
theorem Spells.flatMap_capitalised (h : Spells start cs) :
    (capitalised start cs).flatMap uncapitalised = joinDigits (if start then '-' :: cs else cs) := by
  induction h with
  | done => rfl
  | @dash cs _ ih => exact ih
  | @char start c cs hc _ ih =>
    have hdash := (isNameChar_ne hc).1
    rw [capitalised, if_neg hdash, List.flatMap_cons, ih, if_neg Bool.false_ne_true]
    cases start with
    | false =>
      rw [if_neg Bool.false_ne_true, uncapitalised_of_isNameChar hc, if_neg Bool.false_ne_true,
        joinDigits_of_ne hdash]
      rfl
    | true =>
      rw [if_pos rfl, uncapitalised_toUpper hc, if_pos rfl, joinDigits, joinDigits_of_ne hdash]
      cases hdigit : c.isDigit <;> simp [hdigit]

/-- Behind its first character a name tells where all its dashes are. -/
theorem Spells.dropWhile_joinDigits (h : Spells true cs) :
    (joinDigits ('-' :: cs)).dropWhile (· == '-') = joinDigits cs := by
  cases h with
  | @char _ c cs hc _ =>
    have hdash := (isNameChar_ne hc).1
    have hkept : (c :: joinDigits cs).dropWhile (· == '-') = c :: joinDigits cs := by
      rw [List.dropWhile_cons, if_neg (by simpa using hdash)]
    rw [joinDigits, joinDigits_of_ne hdash]
    split
    · exact hkept
    · rw [List.dropWhile_cons, if_pos (beq_self_eq_true '-'), hkept]

theorem capitalised_digit (hc : c.isDigit) : capitalised start (c :: cs) = c :: capitalised false cs := by
  have hname : isNameChar c := by rw [isNameChar, hc, Bool.or_true]
  have hupper : c.isDigit → c.toUpper = c :=
    forall_isNameChar (P := fun c => c.isDigit → c.toUpper = c) (by decide) hname
  rw [capitalised, if_neg (isNameChar_ne hname).1, hupper hc, ite_self]

/-- A dash in front of a digit leaves no trace. -/
theorem capitalised_joinDigits : capitalised start (joinDigits cs) = capitalised start cs := by
  induction cs generalizing start with
  | nil => rfl
  | cons c cs ih =>
    rw [joinDigits]
    split
    · next h =>
      obtain ⟨rfl, hdigit⟩ := h
      rw [ih]
      cases cs with
      | nil => cases hdigit
      | cons d rest =>
        rw [capitalised_digit hdigit, capitalised, if_pos rfl, capitalised_digit hdigit]
    · rw [capitalised, capitalised, ih, ih]

/-- Identifiers in pascal case have no underscores but those that were appended. -/
theorem Spells.core_capitalised (h : Spells start cs) :
    core (capitalised start cs) = capitalised start cs := by
  have hall : ∀ c ∈ capitalised start cs, c ≠ '_' := by
    induction h with
    | done => exact List.forall_mem_nil _
    | dash _ ih => exact ih
    | @char start c cs hc _ ih =>
      have hupper : c.toUpper ≠ '_' :=
        forall_isNameChar (P := fun c => c.toUpper ≠ '_') (by decide) hc
      rw [capitalised, if_neg (isNameChar_ne hc).1, List.forall_mem_cons]
      refine ⟨?_, ih⟩
      split
      · exact hupper
      · exact (isNameChar_ne hc).2
  refine List.rdropWhile_eq_self_iff.2 fun hne => ?_
  rw [beq_iff_eq]
  exact hall _ (List.getLast_mem hne)

/-- Two names have the same identifier in pascal case, whatever was avoided, only if they are the same up
to dashes in front of digits. -/
theorem withoutDigitDashes_of_avoid_pascalCase (hm : isKebabCase m) (hn : isKebabCase n)
    (h : avoid words (pascalCase m) = avoid words' (pascalCase n)) :
    withoutDigitDashes m = withoutDigitDashes n := by
  have hread : ∀ (words : List String) {name : String}, isKebabCase name →
      ((core (avoid words (pascalCase name)).toList).flatMap uncapitalised).dropWhile (· == '-') =
        joinDigits name.toList := by
    intro words name hname
    have hspells := spells_of_isKebabCase hname
    rw [core_avoid, toList_pascalCase, hspells.core_capitalised, hspells.flatMap_capitalised,
      if_pos rfl, hspells.dropWhile_joinDigits]
  have hsame : joinDigits m.toList = joinDigits n.toList := by
    rw [← hread words hm, h, hread words' hn]
  rw [withoutDigitDashes, withoutDigitDashes, hsame]

theorem pascalCase_eq_of_withoutDigitDashes (h : withoutDigitDashes m = withoutDigitDashes n) :
    pascalCase m = pascalCase n := by
  have hsame : joinDigits m.toList = joinDigits n.toList := String.ofList_injective h
  apply String.toList_inj.1
  rw [toList_pascalCase, toList_pascalCase, ← capitalised_joinDigits, hsame, capitalised_joinDigits]

/-! ## Collisions -/

theorem baseIdentifier_of_ne (h : role ≠ .type) : baseIdentifier role name = snakeCase name := by
  cases role with
  | type => exact absurd rfl h
  | service | function | message | field => rfl

theorem identifier_eq_of_ne_type {role' : Role} (hrole : role ≠ .type) (hrole' : role' ≠ .type)
    (hm : isKebabCase m) (hn : isKebabCase n)
    (h : rules.identifier role m = rules.identifier role' n) : m = n := by
  unfold identifier at h
  rw [baseIdentifier_of_ne hrole, baseIdentifier_of_ne hrole'] at h
  exact eq_of_avoid_snakeCase hm hn h

theorem identifier_type_eq_iff (hm : isKebabCase m) (hn : isKebabCase n) :
    rules.identifier .type m = rules.identifier .type n ↔
      withoutDigitDashes m = withoutDigitDashes n := by
  constructor
  · exact withoutDigitDashes_of_avoid_pascalCase hm hn
  · intro h
    exact congrArg (avoid (rules.reserved .type)) (pascalCase_eq_of_withoutDigitDashes h)

/-- Arguments with different names in kebab case are told apart. -/
theorem tellsApart_fields {names : List String} (h : NamesApart names) :
    rules.TellsApart (names.map fun name => (.field, name)) := by
  refine tellsApart_iff.2 ⟨List.forall_mem_map.2 h.1, ?_⟩
  rw [List.map_map]
  refine List.Nodup.map_on (fun m hm n hn heq => ?_) h.2
  have hfield : Role.field ≠ .type := nofun
  exact identifier_eq_of_ne_type hfield hfield (h.1 m hm) (h.1 n hn) heq

theorem derive_ne_collision : rules.derive role name ≠ .error (.identifierCollision text) := by
  unfold derive checkKebabCase
  split <;> nofun

end IdentifierRules

namespace Outline

/-- Where no identifier is derived twice, no collision is found. -/
theorem checkApart_ne_collision {α : Type} {rules : IdentifierRules} {declared : α → Role × String}
    {label : α → String} {message : String → α → String → String} {earlier : List (String × String)}
    {l : List α} {text : String}
    (hnew : ∀ a ∈ l, ∀ identifier, rules.derive (declared a).1 (declared a).2 = .ok identifier →
      earlier.lookup identifier = none)
    (happart : l.Pairwise fun a b => ∀ identifier,
      rules.derive (declared a).1 (declared a).2 = .ok identifier →
      rules.derive (declared b).1 (declared b).2 ≠ .ok identifier) :
    checkApart rules declared label message earlier l ≠ .error (.identifierCollision text) := by
  induction l generalizing earlier with
  | nil => nofun
  | cons a rest ih =>
    rw [List.forall_mem_cons] at hnew
    rw [List.pairwise_cons] at happart
    rw [checkApart]
    cases hderive : rules.derive (declared a).1 (declared a).2 with
    | error e =>
      rintro ⟨⟩
      exact IdentifierRules.derive_ne_collision hderive
    | ok identifier =>
      have hlookup := hnew.1 identifier hderive
      simp only [bind, Except.bind, hlookup]
      refine ih (fun b hb other hother => ?_) happart.2
      rw [lookup_cons_eq_none]
      refine ⟨?_, hnew.2 b hb other hother⟩
      rintro rfl
      exact happart.1 b hb other hderive hother

end Outline

/-- Identifiers in snake case are the same only for the same name, whatever their roles and the words
that are reserved for these. Identifiers of types are the same exactly for names that differ at most in
dashes in front of digits. So arguments with different names never collide. -/
theorem IdentifierRules.derive_collides_iff (rules : IdentifierRules) :
    (∀ m n, isKebabCase m → isKebabCase n →
      (∀ role role', role ≠ .type → role' ≠ .type → rules.derive role m = rules.derive role' n → m = n) ∧
      (rules.derive .type m = rules.derive .type n ↔ withoutDigitDashes m = withoutDigitDashes n)) ∧
    ∀ (function : String) (arguments : List Header), (arguments.map Header.name).Nodup →
      (∀ text, Outline.checkArguments rules function [] arguments ≠ .error (.identifierCollision text)) ∧
      ((∀ a ∈ arguments, isKebabCase a.name) →
        Outline.checkArguments rules function [] arguments = .ok ()) := by
  have hsnake : ∀ m n role role', isKebabCase m → isKebabCase n → role ≠ .type → role' ≠ .type →
      rules.derive role m = rules.derive role' n → m = n := by
    intro m n role role' hm hn hrole hrole' h
    rw [derive_of_isKebabCase hm, derive_of_isKebabCase hn, Except.ok.injEq] at h
    exact identifier_eq_of_ne_type hrole hrole' hm hn h
  refine ⟨fun m n hm hn => ⟨fun role role' => hsnake m n role role' hm hn, ?_⟩, ?_⟩
  · rw [derive_of_isKebabCase hm, derive_of_isKebabCase hn, Except.ok.injEq]
    exact identifier_type_eq_iff hm hn
  · intro function arguments hnames
    have hfield : Role.field ≠ .type := nofun
    have happart : arguments.Pairwise fun a b => ∀ identifier,
        rules.derive .field a.name = .ok identifier → rules.derive .field b.name ≠ .ok identifier := by
      rw [List.nodup_iff_pairwise_ne, List.pairwise_map] at hnames
      refine hnames.imp fun {a b} hne identifier ha hb => hne ?_
      exact hsnake a.name b.name .field .field (derive_eq_ok.1 ha).1 (derive_eq_ok.1 hb).1 hfield hfield
        (ha.trans hb.symm)
    refine ⟨fun text => ?_, fun hkebab => ?_⟩
    · rw [Outline.checkArguments_eq]
      exact Outline.checkApart_ne_collision (fun _ _ _ _ => rfl) happart
    · have hfields : rules.TellsApart
          ((arguments.map Header.name).map fun name => (.field, name)) :=
        tellsApart_fields ⟨List.forall_mem_map.2 hkebab, hnames⟩
      rw [List.map_map] at hfields
      exact Outline.checkArguments_eq_ok.2 hfields

namespace Sample

/-- Rules that reserve a word for types and one for arguments. -/
def reserving : IdentifierRules :=
  (IdentifierRules.none.reserve .type ["A1b"]).reserve .field ["a1b"]

/-- Two arguments whose names differ in a dash in front of a digit. -/
def arguments : List Header := [⟨"a-1b", "A sample.", []⟩, ⟨"a1b", "A sample.", []⟩]

end Sample

/-- As types the two names collide, as arguments they do not. -/
theorem IdentifierRules.derive_collides_iff_arguments :
    isKebabCase "a-1b" ∧ isKebabCase "a1b" ∧ (Sample.arguments.map Header.name).Nodup ∧
    Sample.reserving.derive .type "a-1b" = Sample.reserving.derive .type "a1b" ∧
    Sample.reserving.derive .function "a-1b" ≠ Sample.reserving.derive .field "a1b" ∧
    Outline.checkArguments Sample.reserving "sample" [] Sample.arguments = .ok () := by
  have hdashed : isKebabCase "a-1b" := by decide
  have hplain : isKebabCase "a1b" := by decide
  have hnames : (Sample.arguments.map Header.name).Nodup := by decide
  obtain ⟨hderive, hcheck⟩ := derive_collides_iff Sample.reserving
  obtain ⟨hsnake, htype⟩ := hderive "a-1b" "a1b" hdashed hplain
  refine ⟨hdashed, hplain, hnames, htype.2 (by decide), fun h => ?_, ?_⟩
  · exact absurd (hsnake .function .field nofun nofun h) (by decide)
  · exact (hcheck "sample" Sample.arguments hnames).2 (by decide)

end ServiceContract
