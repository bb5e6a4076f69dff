import ServiceContract.Pattern.Machine
import ServiceContract.Pattern.Reader

/-!
# Patterns

A pattern with the text it was read from. The text determines the pattern, so patterns are compared
and written by their texts.
-/

namespace ServiceContract

/-- The machine that searches for what a text means as a pattern. -/
def Pattern.compile (source : String) : Except Pattern.Fault Pattern.Machine :=
  (Pattern.read source).map .ofExpression

/-- A pattern that texts are searched for. -/
structure Pattern where
  /-- The text of the pattern. -/
  source : String
  /-- The machine that searches for it. -/
  machine : Pattern.Machine
  /-- The machine is that of the text. -/
  compile_source : Pattern.compile source = .ok machine

namespace Pattern

/-- Reads a pattern. -/
def ofText (source : String) : Except Fault Pattern :=
  match h : compile source with
  | .ok machine => .ok ⟨source, machine, h⟩
  | .error fault => .error fault

/-- Some stretch of the text fits the pattern. -/
def accepts (p : Pattern) (text : String) : Bool := p.machine.search text.toList

theorem eq_of_source_eq {p q : Pattern} (h : p.source = q.source) : p = q := by
  obtain ⟨source, machine, hp⟩ := p
  obtain ⟨source', machine', hq⟩ := q
  obtain rfl : source = source' := h
  rw [hp] at hq
  obtain rfl : machine = machine' := by injection hq
  rfl

end Pattern

end ServiceContract
