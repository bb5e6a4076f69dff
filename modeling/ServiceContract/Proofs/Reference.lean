import ServiceContract.Proofs.Text.Pieces
import ServiceContract.Reference

/-!
# The grammar of references

A reference is a document, then a number sign and the kind of what is named there, then the name. The
document ends at the first number sign, and the white space around it does not count; the name goes on
to the end and may hold anything but slashes, number signs and white space included. What is read off a
text is written back as a text that reads the same.
-/

namespace ServiceContract

open Text (isWhiteSpace trimChars)

/-- The part of a reference from the number sign on. -/
def Target.text : Target → String
  | .type name => "#/types/" ++ name
  | .fragment key => "#/schemas/" ++ key

namespace Reference

/-- A text written as a reference: a document, and what is named in it. -/
inductive IsWritten : (raw : String) → Reference → Prop where
  /-- The document has no number sign, and the name is neither empty nor has it a slash. A blank
  document is none. -/
  | reference {document : String} {target : Target} (hdocument : '#' ∉ document.toList)
      (hname : target.name ≠ "") (hslash : '/' ∉ target.name.toList) :
      IsWritten (document ++ target.text)
        ⟨if Text.isBlank document then none else some (Text.trim document), target⟩

variable {raw : String} {r : Reference} {fragment : List Char} {target : Target}

theorem text_eq : r.text = r.document.getD "" ++ r.target.text := by
  unfold text Target.text
  cases r.target <;> rfl

/-! ## Targets -/

theorem targetOf?_eq_some_iff :
    targetOf? fragment = some target ↔ target.text.toList = '#' :: fragment := by
  unfold targetOf? Target.text
  constructor
  · intro h
    cases hname : Text.stripFront "/types/".toList fragment with
    | some name =>
      rw [hname] at h
      cases h
      rw [Text.stripFront_eq_some_iff.1 hname]
      simp
    | none =>
      rw [hname] at h
      obtain ⟨key, hkey, rfl⟩ := Option.map_eq_some_iff.1 h
      rw [Text.stripFront_eq_some_iff.1 hkey]
      simp
  · intro h
    cases target with
    | type name =>
      have hfragment : fragment = "/types/".toList ++ name.toList := by simpa using h.symm
      rw [Text.stripFront_eq_some_iff.2 hfragment]
      simp
    | fragment key =>
      have hfragment : fragment = "/schemas/".toList ++ key.toList := by simpa using h.symm
      -- The two kinds differ in their first letter.
      have hother : Text.stripFront "/types/".toList fragment = none := by
        rw [hfragment]
        rfl
      rw [hother, Text.stripFront_eq_some_iff.2 hfragment]
      simp

/-! ## Documents -/

section Documents

variable {document : String}

theorem isBlank_iff : Text.isBlank document = true ↔ Text.trim document = "" := by
  unfold Text.isBlank Text.trim
  rw [List.all_eq_true, ← Text.trimChars_eq_nil_iff, String.ofList_eq_empty_iff]

theorem isEmpty_trim : (Text.trim document).isEmpty = Text.isBlank document := by
  rw [Bool.eq_iff_iff, isBlank_iff, String.isEmpty_iff]

theorem trim_trim : Text.trim (Text.trim document) = Text.trim document := by
  unfold Text.trim
  rw [String.toList_ofList, Text.trimChars_trimChars]

/-- Trimming adds no number sign. -/
theorem not_mem_trim {c : Char} (h : c ∉ document.toList) : c ∉ (Text.trim document).toList := by
  unfold Text.trim
  rw [String.toList_ofList]
  exact fun hc => h (Text.trimChars_within.subset hc)

end Documents

/-! ## Reading -/

theorem isWritten_of_ofText (h : ofText raw = .ok r) : IsWritten raw r := by
  unfold ofText at h
  split at h
  · cases h
  next document behind hcut =>
  split at h
  · cases h
  next target htarget =>
  split at h
  · cases h
  next hname =>
  obtain ⟨hraw, hdocument⟩ := Text.append_of_cutAt hcut
  have hwritten : raw = String.ofList document ++ target.text := by
    rw [← String.toList_inj, hraw, String.toList_append, String.toList_ofList,
      targetOf?_eq_some_iff.1 htarget]
  simp only [Bool.or_eq_true, String.isEmpty_iff, List.contains_iff_mem, not_or] at hname
  have hreads := @IsWritten.reference (String.ofList document) target
    (by rwa [String.toList_ofList]) hname.1 hname.2
  have hblank : (String.ofList (trimChars document)).isEmpty =
      Text.isBlank (String.ofList document) := by
    rw [← isEmpty_trim, Text.trim, String.toList_ofList]
  dsimp only at h
  rw [hblank] at h
  cases h
  rw [hwritten]
  simpa [Text.trim] using hreads

/-- A reference that is written is cut at the number sign of its target. -/
theorem IsWritten.ofText (h : IsWritten raw r) : ofText raw = .ok r := by
  obtain @⟨document, target, hdocument, hname, hslash⟩ := h
  obtain ⟨behind, htarget⟩ : ∃ behind, target.text.toList = '#' :: behind := by
    cases target <;> simp [Target.text]
  have hcut : Text.cutAt '#' (document ++ target.text).toList = some (document.toList, behind) := by
    rw [String.toList_append, htarget]
    exact Text.cutAt_append hdocument
  have hvalid : (target.name.isEmpty || target.name.toList.contains '/') = false := by
    simp [hname, hslash]
  have hblank : (String.ofList (trimChars document.toList)).isEmpty = Text.isBlank document :=
    isEmpty_trim
  unfold Reference.ofText
  rw [hcut]
  dsimp only
  rw [targetOf?_eq_some_iff.2 htarget]
  dsimp only
  rw [hvalid, hblank]
  rfl

/-- Exactly the texts that are written as references are read, and as what they are written for. -/
theorem ofText_eq_ok_iff : ofText raw = .ok r ↔ IsWritten raw r :=
  ⟨isWritten_of_ofText, IsWritten.ofText⟩

/-- What was read is written as a reference for the same. -/
theorem IsWritten.text (h : IsWritten raw r) : IsWritten r.text r := by
  cases h with
  | @reference document target hdocument hname hslash =>
    rw [text_eq]
    dsimp only
    cases hblank : Text.isBlank document with
    | true =>
      have hnone := @IsWritten.reference "" target List.not_mem_nil hname hslash
      have hempty : Text.isBlank "" = true := rfl
      simpa [hempty] using hnone
    | false =>
      have hsome := @IsWritten.reference (Text.trim document) target (not_mem_trim hdocument) hname
        hslash
      have hstays : Text.isBlank (Text.trim document) = false := by
        rw [← hblank, Bool.eq_iff_iff, isBlank_iff, isBlank_iff, trim_trim]
      simpa [hstays, trim_trim] using hsome

/-- A text is read as a reference exactly if it is a document, a number sign with the kind, and a name,
with no number sign in the document and no slash in the name, which is not empty; the reference has the
document without the white space around it, and none if it is blank, and the name of that kind. The
written form of a reference that was read is read as the same reference. -/
theorem reads_by_grammar (raw : String) :
    (∀ r, ofText raw = .ok r ↔ IsWritten raw r) ∧
      ∀ r, ofText raw = .ok r → ofText r.text = .ok r := by
  refine ⟨fun r => ofText_eq_ok_iff, fun r h => ?_⟩
  have hwritten : IsWritten raw r := ofText_eq_ok_iff.1 h
  exact ofText_eq_ok_iff.2 hwritten.text

/-- The blanks around a document are gone from what is written back, a number sign in the name is not. -/
theorem reads_shared_type :
    ofText " shared.json #/types/a#b" = .ok ⟨some "shared.json", .type "a#b"⟩ ∧
      ofText (text ⟨some "shared.json", .type "a#b"⟩) = .ok ⟨some "shared.json", .type "a#b"⟩ := by
  have hreads : ofText " shared.json #/types/a#b" = .ok ⟨some "shared.json", .type "a#b"⟩ := by
    decide +kernel
  exact ⟨hreads, (reads_by_grammar " shared.json #/types/a#b").2 _ hreads⟩

end Reference

end ServiceContract
