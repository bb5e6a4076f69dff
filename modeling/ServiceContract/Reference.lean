import ServiceContract.Json.Value
import ServiceContract.Text.Blank
import ServiceContract.Text.NameOrder

/-!
# References

A reference names a type or a reusable fragment, in its own document or in another one:
`#/types/name`, `#/schemas/key`, or either behind the document's name. The document part ends at the
first number sign, and white space around it does not count.
-/

namespace ServiceContract

/-- What a reference names inside a document. -/
inductive Target where
  /-- A named type. -/
  | type (name : String)
  /-- A reusable fragment. -/
  | fragment (key : String)
deriving DecidableEq, Repr

/-- The name inside the target. -/
def Target.name : Target → String
  | .type name => name
  | .fragment key => key

/-- A reference. -/
structure Reference where
  /-- The other document, as it is written. -/
  document : Option String
  /-- What is named there. -/
  target : Target
deriving DecidableEq, Repr

namespace Reference

/-- The written form. -/
def text (r : Reference) : String :=
  r.document.getD "" ++
    match r.target with
    | .type name => "#/types/" ++ name
    | .fragment key => "#/schemas/" ++ key

/-- The target of the part behind the number sign. -/
def targetOf? (fragment : List Char) : Option Target :=
  match Text.stripFront "/types/".toList fragment with
  | some name => some (.type (String.ofList name))
  | none =>
    (Text.stripFront "/schemas/".toList fragment).map fun key => .fragment (String.ofList key)

/-- Reads a reference; the error is the wording of what is wrong with it. -/
def ofText (raw : String) : Except String Reference :=
  match Text.cutAt '#' raw.toList with
  | none => .error s!"reference '{raw}' has no '#' fragment"
  | some (document, fragment) =>
    match targetOf? fragment with
    | none => .error s!"reference '{raw}' must point at '/types/<name>' or '/schemas/<key>'"
    | some target =>
      if target.name.isEmpty || target.name.toList.contains '/' then
        .error s!"reference '{raw}' has an invalid target name"
      else
        let path := String.ofList (Text.trimChars document)
        .ok ⟨if path.isEmpty then none else some path, target⟩

/-- The other document that a reference names, for a text that is a reference at all. -/
def documentOf? (raw : String) : Option String :=
  match ofText raw with
  | .ok r => r.document
  | .error _ => none

end Reference

namespace Json.Value

mutual

/-- The other documents named by references anywhere in a value, in the order of the references.
What stands below a reference is not looked at. -/
def documentRefs : Value → List String
  | .array items => documentRefsOfItems items
  | .object members => documentRefsOfMembers members
  | _ => []
termination_by structural v => v

/-- The other documents named in the items. -/
def documentRefsOfItems : List Value → List String
  | [] => []
  | item :: rest => item.documentRefs ++ documentRefsOfItems rest
termination_by structural items => items

/-- The other documents named in the members. -/
def documentRefsOfMembers : List (String × Value) → List String
  | [] => []
  | (key, value) :: rest =>
    (if key = "$ref" then (value.string?.bind Reference.documentOf?).toList
      else value.documentRefs) ++ documentRefsOfMembers rest
termination_by structural members => members

end

end Json.Value

/-- The set of other documents that a raw document names. -/
def documentsNamedIn (raw : Json.Value) : List String := nameSet raw.documentRefs

end ServiceContract
