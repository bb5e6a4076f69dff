import Mathlib.Logic.Relation
import ServiceContract.Document.Directory
import ServiceContract.Proofs.Document.Places

/-!
# Trees of files

In a well-formed tree there is a directory for all that is in it. Making directories, writing files and
removing them keeps a tree well-formed. Following the path of a place leads to the place: from the root by
its full path, and from a directory by the names below it. The other way round, a path leads nowhere by a
name that is not written in it.
-/

namespace ServiceContract

open DocumentKey (IsName)

namespace FileTree

variable {tree : FileTree} {place here start base below rest : List String} {name directory : String}
  {cs ds : List Char}

/-! ## Trees -/

/-- The places where there is something, besides the root. -/
def places (tree : FileTree) : List (List String) := tree.directories ++ tree.files.map Prod.fst

/-- There is a file or a directory at a place. -/
def Has (tree : FileTree) (place : List String) : Prop := place = [] ∨ place ∈ tree.places

/-- What a tree is like that has all that is on the way to what it has. -/
structure WellFormed (tree : FileTree) : Prop where
  /-- Everything is found by names. -/
  names : ∀ place ∈ tree.places, ∀ name ∈ place, IsName name.toList
  /-- It is found in directories. -/
  parents : ∀ place ∈ tree.places, tree.isDirectory place.dropLast
  /-- There is a working directory. -/
  here : tree.isDirectory tree.here

instance : Decidable tree.WellFormed :=
  decidable_of_iff ((∀ place ∈ tree.places, ∀ name ∈ place, IsName name.toList) ∧
      (∀ place ∈ tree.places, tree.isDirectory place.dropLast) ∧ tree.isDirectory tree.here)
    ⟨fun ⟨names, parents, here⟩ => ⟨names, parents, here⟩,
      fun ⟨names, parents, here⟩ => ⟨names, parents, here⟩⟩

theorem has_of_isDirectory (h : tree.isDirectory place) : tree.Has place := by
  rcases Bool.or_eq_true_iff.1 h with h | h
  · exact .inl (List.isEmpty_iff.1 h)
  · exact .inr (List.mem_append_left _ (of_decide_eq_true h))

theorem mem_files_of_file? {bytes : List UInt8} (h : tree.file? place = some bytes) :
    place ∈ tree.files.map Prod.fst := by
  obtain ⟨before, after, hfiles, -⟩ := List.lookup_eq_some_iff.1 h
  exact List.mem_map.2 ⟨(place, bytes), hfiles ▸ List.mem_append_right _ (List.mem_cons_self ..), rfl⟩

theorem has_of_file? {bytes : List UInt8} (h : tree.file? place = some bytes) : tree.Has place :=
  .inr (List.mem_append_right _ (mem_files_of_file? h))

theorem exists_of_has (h : tree.Has place) (hplace : place ≠ []) :
    (tree.file? place).isSome || tree.isDirectory place := by
  rcases List.mem_append.1 (h.resolve_left hplace) with h | h
  · simp [isDirectory, h]
  · obtain ⟨file, hfile, rfl⟩ := List.mem_map.1 h
    have hlookup : (tree.files.lookup file.1).isSome := by
      rw [List.lookup_isSome_iff]
      exact ⟨file, hfile, beq_self_eq_true _⟩
    rw [file?, hlookup]
    rfl

section WellFormed

variable (htree : tree.WellFormed)

include htree

theorem WellFormed.isName (h : tree.Has place) (hname : name ∈ place) : IsName name.toList := by
  rcases h with rfl | h
  · cases hname
  · exact htree.names place h name hname

/-- What is on the way to a place are directories. -/
theorem WellFormed.isDirectory_of_append (h : tree.Has (place ++ rest)) (hrest : rest ≠ []) :
    tree.isDirectory place := by
  induction rest using List.reverseRecOn with
  | nil => exact absurd rfl hrest
  | append_singleton init last ih =>
    have hmem : place ++ (init ++ [last]) ∈ tree.places := h.resolve_left (by simp)
    have hparent := htree.parents _ hmem
    rw [← List.append_assoc, List.dropLast_concat] at hparent
    by_cases hinit : init = []
    · rwa [hinit, List.append_nil] at hparent
    · exact ih (has_of_isDirectory hparent) hinit

end WellFormed

/-! ## Changes -/

theorem mem_waysTo : place ∈ waysTo here below ↔
    ∃ init last rest, below = init ++ last :: rest ∧ place = here ++ (init ++ [last]) := by
  induction below generalizing here with
  | nil => simp [waysTo]
  | cons name below ih =>
    rw [waysTo, List.mem_cons, ih]
    constructor
    · rintro (rfl | ⟨init, last, rest, rfl, rfl⟩)
      · exact ⟨[], name, below, rfl, rfl⟩
      · exact ⟨name :: init, last, rest, rfl, (List.append_cons ..).symm⟩
    · rintro ⟨init, last, rest, hbelow, rfl⟩
      cases init with
      | nil => exact .inl (by rw [(List.cons.inj hbelow).1]; rfl)
      | cons first init =>
        obtain ⟨rfl, rfl⟩ := List.cons.inj hbelow
        exact .inr ⟨init, last, rest, rfl, List.append_cons ..⟩

theorem isDirectory_makeDirectory : (tree.makeDirectory start).isDirectory place ↔
    tree.isDirectory place ∨ place ∈ waysTo [] start := by
  by_cases h : tree.isDirectory place
  · have hmore : (tree.makeDirectory start).isDirectory place := by
      simp only [isDirectory, Bool.or_eq_true, decide_eq_true_eq] at h ⊢
      exact h.imp_right fun h => List.mem_append_left _ h
    exact iff_of_true hmore (.inl h)
  · have hnot : place ≠ [] ∧ place ∉ tree.directories := by simpa [isDirectory] using h
    simp [isDirectory, makeDirectory, hnot]

theorem wellFormed_empty : empty.WellFormed where
  names place h := by cases h
  parents place h := by cases h
  here := rfl

/-- Making a directory makes what is on the way to it. -/
theorem WellFormed.makeDirectory (htree : tree.WellFormed)
    (hnames : ∀ name ∈ start, IsName name.toList) : (tree.makeDirectory start).WellFormed := by
  have hplaces : ∀ place ∈ (tree.makeDirectory start).places,
      place ∈ tree.places ∨ place ∈ waysTo [] start := by
    intro place h
    rcases List.mem_append.1 h with h | h
    · rcases List.mem_append.1 h with h | h
      · exact .inl (List.mem_append_left _ h)
      · exact .inr (List.mem_filter.1 h).1
    · exact .inl (List.mem_append_right _ h)
  refine ⟨fun place h name hname => ?_, fun place h => ?_, ?_⟩
  · rcases hplaces place h with h | h
    · exact htree.names place h name hname
    · obtain ⟨init, last, rest, rfl, rfl⟩ := mem_waysTo.1 h
      refine hnames name ?_
      rw [List.append_cons]
      exact List.mem_append_left _ hname
  · rw [isDirectory_makeDirectory]
    rcases hplaces place h with h | h
    · exact .inl (htree.parents place h)
    · obtain ⟨init, last, rest, rfl, rfl⟩ := mem_waysTo.1 h
      rw [List.nil_append, List.dropLast_concat]
      rcases List.eq_nil_or_concat' init with rfl | ⟨init, previous, rfl⟩
      · exact .inl rfl
      · exact .inr (mem_waysTo.2 ⟨init, previous, last :: rest, by simp, rfl⟩)
  · exact isDirectory_makeDirectory.2 (.inl htree.here)

/-- Writing a file makes the directories on the way to it. -/
theorem WellFormed.write (htree : tree.WellFormed) (hnames : ∀ name ∈ place, IsName name.toList)
    {bytes : List UInt8} : (tree.write place bytes).WellFormed := by
  have hmade : (tree.makeDirectory place.dropLast).WellFormed :=
    htree.makeDirectory fun name hname => hnames name (List.mem_of_mem_dropLast hname)
  have hplaces : ∀ other ∈ (tree.write place bytes).places,
      other = place ∨ other ∈ (tree.makeDirectory place.dropLast).places := by
    intro other h
    rcases List.mem_append.1 h with h | h
    · exact .inr (List.mem_append_left _ h)
    · rcases List.mem_cons.1 h with h | h
      · exact .inl h
      · obtain ⟨file, hfile, rfl⟩ := List.mem_map.1 h
        exact .inr (List.mem_append_right _ (List.mem_map_of_mem (List.mem_filter.1 hfile).1))
  refine ⟨fun other h name hname => ?_, fun other h => ?_, hmade.here⟩
  · rcases hplaces other h with rfl | h
    · exact hnames name hname
    · exact hmade.names other h name hname
  · rcases hplaces other h with rfl | h
    · refine isDirectory_makeDirectory.2 ?_
      rcases List.eq_nil_or_concat' other.dropLast with hnil | ⟨init, last, hparent⟩
      · exact .inl (by rw [hnil]; rfl)
      · exact .inr (hparent ▸ mem_waysTo.2 ⟨init, last, [], rfl, rfl⟩)
    · exact hmade.parents other h

theorem WellFormed.remove (htree : tree.WellFormed) : (tree.remove place).WellFormed := by
  have hplaces : ∀ other ∈ (tree.remove place).places, other ∈ tree.places := by
    intro other h
    rcases List.mem_append.1 h with h | h
    · exact List.mem_append_left _ h
    · obtain ⟨file, hfile, rfl⟩ := List.mem_map.1 h
      exact List.mem_append_right _ (List.mem_map_of_mem (List.mem_filter.1 hfile).1)
  exact ⟨fun other h => htree.names other (hplaces other h),
    fun other h => htree.parents other (hplaces other h), htree.here⟩

/-- One thing that is done to the files. -/
inductive Change (tree : FileTree) : FileTree → Prop
  /-- A directory is made. -/
  | makeDirectory {place : List String} (hnames : ∀ name ∈ place, IsName name.toList) :
      Change tree (tree.makeDirectory place)
  /-- A file is written. -/
  | write {place : List String} {bytes : List UInt8} (hnames : ∀ name ∈ place, IsName name.toList) :
      Change tree (tree.write place bytes)
  /-- A file is removed. -/
  | remove {place : List String} : Change tree (tree.remove place)

theorem WellFormed.change {tree' : FileTree} (htree : tree.WellFormed) (h : tree.Change tree') :
    tree'.WellFormed := by
  cases h with
  | makeDirectory hnames => exact htree.makeDirectory hnames
  | write hnames => exact htree.write hnames
  | remove => exact htree.remove

/-- A tree is well-formed that comes from the empty one by changes. -/
theorem wellFormed_of_changes (h : Relation.ReflTransGen Change empty tree) : tree.WellFormed := by
  induction h with
  | refl => exact wellFormed_empty
  | tail _ hchange ih => exact ih.change hchange

/-! ## Following paths -/

/-- Where the names between the slashes of a text lead. -/
def walkFrom (tree : FileTree) (start : List String) (cs : List Char) : Option (List String) :=
  ((Text.splitAt '/' cs).map String.ofList).foldlM tree.step start

theorem find?_eq {path : String} (h : path ≠ "") :
    tree.find? path =
      tree.walkFrom (if path.toList.head? = some '/' then [] else tree.here) path.toList := by
  rw [find?, if_neg (by simpa using h)]
  rfl

theorem walkFrom_append : tree.walkFrom start (cs ++ '/' :: ds) =
    (tree.walkFrom start cs).bind fun place => tree.walkFrom place ds := by
  rw [walkFrom, Text.splitAt_append, List.map_append, List.foldlM_append]
  rfl

theorem step_blank (h : tree.isDirectory here) : tree.step here "" = some here := by
  simp [step, h]

theorem eq_of_step_blank (h : tree.step here "" = some place) : place = here := by
  unfold step at h
  split at h
  · cases h
  · exact (Option.some.inj h).symm

theorem step_name (hname : IsName name.toList) (h : tree.isDirectory here)
    (hthere : tree.Has (here ++ [name])) : tree.step here name = some (here ++ [name]) := by
  have hexists := exists_of_has hthere (by simp)
  obtain ⟨hempty, -, hdot, hdots⟩ := hname
  have hne : name ≠ "" ∧ name ≠ "." ∧ name ≠ ".." := by
    refine ⟨?_, ?_, ?_⟩ <;> rintro rfl
    · exact hempty rfl
    · exact hdot rfl
    · exact hdots rfl
  simp only [step, h, hne, hexists, Bool.not_true, Bool.false_eq_true, or_self, if_false, if_true]

/-- From a directory, the names lead to what is below it. -/
theorem foldlM_step_names (htree : tree.WellFormed) (hhere : tree.isDirectory here)
    (h : tree.Has (here ++ below)) : below.foldlM tree.step here = some (here ++ below) := by
  induction below generalizing here with
  | nil => rw [List.append_nil]; rfl
  | cons name below ih =>
    have hname : IsName name.toList :=
      htree.isName h (List.mem_append_right _ (List.mem_cons_self ..))
    rw [List.append_cons] at h ⊢
    have hthere : tree.Has (here ++ [name]) ∧ (below ≠ [] → tree.isDirectory (here ++ [name])) := by
      by_cases hbelow : below = []
      · rw [hbelow, List.append_nil] at h
        exact ⟨h, fun hne => absurd hbelow hne⟩
      · have hdirectory := htree.isDirectory_of_append h hbelow
        exact ⟨has_of_isDirectory hdirectory, fun _ => hdirectory⟩
    rw [List.foldlM_cons, step_name hname hhere hthere.1]
    cases below with
    | nil => rw [List.append_nil]; rfl
    | cons next below => exact ih (hthere.2 (List.cons_ne_nil _ _)) h

/-- So does the path that is written with these names. -/
theorem walkFrom_join (htree : tree.WellFormed) (hhere : tree.isDirectory here)
    (h : tree.Has (here ++ below)) :
    tree.walkFrom here (Text.join "/" below).toList = some (here ++ below) := by
  by_cases hbelow : below = []
  · subst hbelow
    rw [List.append_nil]
    exact congrArg (· >>= pure) (step_blank hhere)
  · have hslash : ∀ piece ∈ below.map String.toList, '/' ∉ piece := by
      intro piece hpiece
      obtain ⟨name, hname, rfl⟩ := List.mem_map.1 hpiece
      exact (htree.isName h (List.mem_append_right _ hname)).2.1
    have hpieces : Text.splitAt '/' (Text.join "/" below).toList = below.map String.toList := by
      rw [Text.toList_join]
      exact Text.splitAt_intercalate (by simpa using hbelow) hslash
    rw [walkFrom, hpieces, List.map_map]
    simp only [Function.comp_def, String.ofList_toList, List.map_id']
    exact foldlM_step_names htree hhere h

theorem toList_fullPath : (fullPath place).toList = '/' :: (Text.join "/" place).toList := by
  rw [fullPath, String.toList_append]
  rfl

theorem find?_of_root {path : String} (h : path.toList.head? = some '/') :
    tree.find? path = tree.walkFrom [] path.toList := by
  have hne : path ≠ "" := by
    rintro rfl
    cases h
  rw [find?_eq hne, if_pos h]

theorem join_of_root {path : String} (h : path.toList.head? = some '/') :
    join directory path = path := if_pos h

theorem head?_fullPath : (fullPath place).toList.head? = some '/' := by rw [toList_fullPath]; rfl

/-- The full path of a place leads there. -/
theorem find?_fullPath (htree : tree.WellFormed) (h : tree.Has place) :
    tree.find? (fullPath place) = some place := by
  have hroot : tree.walkFrom [] [] = some [] := congrArg (· >>= pure) (step_blank rfl)
  rw [find?_of_root head?_fullPath, toList_fullPath]
  show tree.walkFrom [] ([] ++ '/' :: (Text.join "/" place).toList) = some place
  rw [walkFrom_append, hroot, Option.bind_some]
  exact @walkFrom_join tree [] place htree rfl h

theorem step_eq_some (h : tree.step here name = some place) :
    place = here ∨ place = here.dropLast ∨ place = here ++ [name] := by
  unfold step at h
  split at h
  · cases h
  · split at h
    · exact .inl (Option.some.inj h).symm
    · split at h
      · exact .inr (.inl (Option.some.inj h).symm)
      · dsimp only at h
        split at h
        · exact .inr (.inr (Option.some.inj h).symm)
        · cases h

/-- What a path leads to begins as the place that it is followed from, and goes on with names of the
path. -/
theorem exists_of_foldlM_step {names : List String} (h : names.foldlM tree.step here = some place) :
    ∃ kept new, kept <+: here ∧ place = kept ++ new ∧ ∀ name ∈ new, name ∈ names := by
  induction names generalizing here with
  | nil =>
    cases h
    exact ⟨place, [], List.prefix_rfl, (List.append_nil _).symm, fun _ h => h⟩
  | cons name names ih =>
    rw [List.foldlM_cons] at h
    obtain ⟨there, hstep, h⟩ := Option.bind_eq_some_iff.1 h
    obtain ⟨kept, new, hkept, rfl, hnew⟩ := ih h
    have hlater : ∀ other ∈ new, other ∈ name :: names :=
      fun other hother => List.mem_cons_of_mem _ (hnew other hother)
    rcases step_eq_some hstep with rfl | rfl | rfl
    · exact ⟨kept, new, hkept, rfl, hlater⟩
    · exact ⟨kept, new, hkept.trans (List.dropLast_prefix _), rfl, hlater⟩
    · rcases List.prefix_concat_iff.1 hkept with rfl | hkept
      · refine ⟨_, name :: new, List.prefix_rfl, (List.append_cons ..).symm, fun other hother => ?_⟩
        rcases List.mem_cons.1 hother with rfl | hother
        · exact List.mem_cons_self ..
        · exact hlater other hother
      · exact ⟨kept, new, hkept, rfl, hlater⟩

/-- Below the place that it is followed from, a path leads on by names that are written in it. -/
theorem mem_of_walkFrom (hstart : start <+: base) (h : tree.walkFrom start cs = some (base ++ below))
    (hname : name ∈ below) : name.toList ∈ Text.splitAt '/' cs := by
  obtain ⟨kept, new, hkept, hplace, hnew⟩ := exists_of_foldlM_step h
  obtain ⟨more, rfl⟩ := hkept.trans hstart
  rw [List.append_assoc, List.append_cancel_left_eq] at hplace
  obtain ⟨piece, hpiece, rfl⟩ := List.mem_map.1 (hnew name (hplace ▸ List.mem_append_right _ hname))
  rwa [String.toList_ofList]

/-- A path that starts elsewhere than at the root is followed from the directory that it is joined to. -/
theorem find?_join {path : String} (hpath : path.toList.head? ≠ some '/')
    (hbase : tree.find? directory = some base) :
    tree.find? (join directory path) = tree.walkFrom base path.toList := by
  have hne : directory ≠ "" := by
    rintro rfl
    cases hbase
  obtain ⟨c, rest, hcons⟩ := List.exists_cons_of_ne_nil (fun h => hne (String.toList_eq_nil_iff.1 h))
  let start := if directory.toList.head? = some '/' then [] else tree.here
  rw [find?_eq hne] at hbase
  -- The directory with a slash behind it, whether it is written or comes from joining.
  have hsplit : ∃ front, (join directory path).toList = front ++ '/' :: path.toList ∧
      tree.walkFrom start front = some base ∧
      (join directory path).toList.head? = directory.toList.head? := by
    rw [join, if_neg hpath]
    by_cases hlast : directory.toList.getLast? = some '/'
    · obtain ⟨front, hfront⟩ := List.getLast?_eq_some_iff.1 hlast
      rw [if_pos (by simp [hlast]), String.toList_append, hfront, List.append_assoc]
      refine ⟨front, rfl, ?_, by cases front <;> rfl⟩
      rw [hfront, walkFrom_append, ← hfront] at hbase
      obtain ⟨mid, hmid, hblank⟩ := Option.bind_eq_some_iff.1 hbase
      have hstep : tree.step mid "" = some base := by
        simpa [walkFrom, Text.splitAt] using hblank
      rw [eq_of_step_blank hstep, hmid]
    · rw [if_neg (by simp [hlast, hne]), String.toList_append, String.toList_append]
      refine ⟨directory.toList, by simp, hbase, ?_⟩
      rw [hcons]
      rfl
  obtain ⟨front, htext, hfront, hhead⟩ := hsplit
  have hjoin : join directory path ≠ "" := by
    intro heq
    rw [heq] at htext
    cases front <;> cases htext
  rw [find?_eq hjoin, hhead, htext, walkFrom_append]
  show (tree.walkFrom start front).bind _ = _
  rw [hfront, Option.bind_some]

end FileTree

end ServiceContract
