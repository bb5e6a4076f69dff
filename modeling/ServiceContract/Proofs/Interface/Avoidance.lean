import Mathlib.Data.Finset.Card
import Mathlib.Data.Finset.Lattice.Fold
import Mathlib.Logic.Relation
import Mathlib.Order.Bounds.Defs
import ServiceContract.Proofs.Interface.Identifiers

/-!
# Reserved words are avoided

An identifier that is a reserved word gets an underscore, and another one for as long as it is still a
reserved word. Nothing counts these turns. They come to an end since each turn makes a longer text, and
no word is longer than all words; and as the texts are different, there are at most as many turns as
words. So what comes out has the fewest underscores with which it is none of the words.
-/

namespace ServiceContract

namespace IdentifierRules

open Relation (ReflTransGen)

variable {words : List String} {text before after : String} {count : Nat} {rules : IdentifierRules}
  {role : Role} {name : String}

/-! ## Underscores -/

theorem toList_pushn {c : Char} : (text.pushn c count).toList = text.toList ++ List.replicate count c := by
  induction count with
  | zero => simp [String.pushn, Nat.repeat]
  | succ count ih =>
    have hpush : text.pushn c (count + 1) = (text.pushn c count).push c := rfl
    rw [hpush, String.toList_push, ih, List.append_assoc, ← List.replicate_succ']

/-- With each number of underscores the text is another one. -/
theorem pushn_injective (text : String) : Function.Injective fun count => text.pushn '_' count := by
  intro m n h
  have hlength := congrArg String.length h
  simp only [String.length_pushn] at hlength
  omega

/-! ## Turns -/

/-- One turn: a text that is one of the words gets an underscore. -/
structure Grows (words : List String) (before after : String) : Prop where
  /-- The text is one of the words. -/
  mem : before ∈ words
  /-- It gets an underscore. -/
  eq_push : after = before.push '_'

/-- Turns come to an end, from whichever text they start. -/
theorem wellFounded_grows (words : List String) :
    WellFounded fun after before => Grows words before after := by
  -- What is left to go is bounded by the length of the longest word.
  refine Subrelation.wf (r := fun after before => _) (fun {after before} h => ?_)
    (measure fun text => words.toFinset.sup String.length + 1 - text.length).wf
  have hlongest : before.length ≤ words.toFinset.sup String.length :=
    Finset.le_sup (List.mem_toFinset.2 h.mem)
  have hlonger : after.length = before.length + 1 := by rw [h.eq_push, String.length_push]
  show words.toFinset.sup String.length + 1 - after.length <
    words.toFinset.sup String.length + 1 - before.length
  omega

/-- Turns lead from a text to the same text with underscores, all less than these being reserved. -/
theorem exists_pushn_of_grows (h : ReflTransGen (Grows words) before after) :
    ∃ count, after = before.pushn '_' count ∧ ∀ fewer < count, before.pushn '_' fewer ∈ words := by
  induction h with
  | refl => exact ⟨0, rfl, nofun⟩
  | tail _ hturn ih =>
    obtain ⟨count, rfl, hfewer⟩ := ih
    refine ⟨count + 1, hturn.eq_push, fun fewer hlt => ?_⟩
    rcases Nat.lt_succ_iff_lt_or_eq.1 hlt with hlt | rfl
    · exact hfewer fewer hlt
    · exact hturn.mem

/-- There are at most as many turns as words. -/
theorem le_card_of_mem (h : ∀ fewer < count, text.pushn '_' fewer ∈ words) :
    count ≤ words.toFinset.card := by
  have hinto : Set.MapsTo (fun fewer => text.pushn '_' fewer) (Finset.range count) words.toFinset := by
    intro fewer hfewer
    exact List.mem_toFinset.2 (h fewer (Finset.mem_range.1 hfewer))
  rw [← Finset.card_range count]
  exact Finset.card_le_card_of_injOn _ hinto (pushn_injective text).injOn

/-! ## What comes out -/

/-- The words that were met and left out do not matter: the turns are those with all of the words. -/
theorem grows_avoid (words : List String) (text : String) :
    ReflTransGen (Grows words) text (avoid words text) := by
  fun_induction avoid words text with
  | case1 words text hmem ih =>
    have hsame : Grows (words.erase text) ≤ Grows words :=
      fun _ _ hturn => ⟨List.mem_of_mem_erase hturn.mem, hturn.eq_push⟩
    exact .head ⟨hmem, rfl⟩ (ReflTransGen.mono hsame _ _ ih)
  | case2 words text _ => exact .refl

/-- Words are avoided by the fewest underscores that do, no more than there are words. -/
theorem exists_avoid_eq (words : List String) (text : String) :
    ∃ count, avoid words text = text.pushn '_' count ∧
      IsLeast {count | text.pushn '_' count ∉ words} count ∧ count ≤ words.toFinset.card := by
  obtain ⟨count, heq, hfewer⟩ := exists_pushn_of_grows (grows_avoid words text)
  have hfree : text.pushn '_' count ∉ words := heq ▸ avoid_not_mem
  refine ⟨count, heq, ⟨hfree, fun other hother => ?_⟩, le_card_of_mem hfewer⟩
  by_contra hlt
  exact hother (hfewer other (Nat.lt_of_not_le hlt))

/-- The identifier of a name in kebab case is the name in the case of its role, with the fewest
underscores behind it that make it no reserved word of the role. The turns that append them end after
no more turns than there are such words, and could not go on for ever from any other text either. Other
names are refused. -/
theorem derive_appends_fewest (rules : IdentifierRules) (role : Role) (name : String) :
    (WellFounded fun after before => Grows (rules.reserved role) before after) ∧
    (isKebabCase name → ∃ base count,
      base = (if role = .type then pascalCase name else snakeCase name) ∧
      rules.derive role name = .ok (base.pushn '_' count) ∧
      ReflTransGen (Grows (rules.reserved role)) base (base.pushn '_' count) ∧
      IsLeast {count | base.pushn '_' count ∉ rules.reserved role} count ∧
      count ≤ (rules.reserved role).toFinset.card) ∧
    (¬ isKebabCase name → rules.derive role name = .error (.naming (role.label ++
      s!" name '{name}' must be lowercase letters and digits " ++ "separated by single dashes"))) := by
  refine ⟨wellFounded_grows _, fun hname => ?_, fun hname => ?_⟩
  · have hbase : baseIdentifier role name = if role = .type then pascalCase name else snakeCase name := by
      cases role <;> rfl
    obtain ⟨count, heq, hleast, hle⟩ :=
      exists_avoid_eq (rules.reserved role) (baseIdentifier role name)
    refine ⟨_, count, hbase, ?_, heq ▸ grows_avoid _ _, hleast, hle⟩
    rw [derive_of_isKebabCase hname, identifier, heq]
  · unfold derive checkKebabCase
    rw [if_neg hname]
    rfl

end IdentifierRules

/-- Rules that reserve a word for arguments, and also the identifier that avoids it. -/
def Sample.suffixing : IdentifierRules := IdentifierRules.none.reserve .field ["type", "type_"]

/-- The argument of this name gets two underscores, and a name with a capital is refused. -/
theorem IdentifierRules.derive_appends_fewest_twice :
    isKebabCase "type" ∧ ¬ isKebabCase "Type" ∧
    Sample.suffixing.derive .field "type" = .ok "type__" ∧
    Sample.suffixing.derive .field "Type" = .error (.naming ("field name 'Type' must be " ++
      "lowercase letters and digits separated by single dashes")) := by
  have hname : isKebabCase "type" := by decide
  have hother : ¬ isKebabCase "Type" := by decide
  have hsnake : snakeCase "type" = "type" := by decide
  have htwo : IsLeast {count | "type".pushn '_' count ∉ Sample.suffixing.reserved .field} 2 := by
    refine ⟨by decide, fun count hfree => ?_⟩
    by_contra hfew
    have hcount : count = 0 ∨ count = 1 := by omega
    rcases hcount with rfl | rfl
    · exact hfree (by decide)
    · exact hfree (by decide)
  obtain ⟨-, hderive, -⟩ := derive_appends_fewest Sample.suffixing .field "type"
  obtain ⟨_, count, rfl, hresult, -, hleast, -⟩ := hderive hname
  rw [if_neg nofun, hsnake] at hresult hleast
  obtain rfl := hleast.unique htwo
  exact ⟨hname, hother, hresult, (derive_appends_fewest Sample.suffixing .field "Type").2.2 hother⟩

end ServiceContract
