import ServiceContract.Proofs.Document.FileTree

/-!
# Keys of files

The loader of a directory gives a file its path as a key, with backslashes taken for slashes. The path
leads back to the file. So the key does just if there is no backslash in the path, and files without
backslashes in their paths have keys of their own.
-/

namespace ServiceContract

open Json (Value)
open DocumentKey (IsName Place Location)

namespace Loader

variable {tree : FileTree} {directory key : String} {place : List String}

/-- The path by which the loader of a directory tells a place. -/
def pathTo (tree : FileTree) (directory : String) (place : List String) : String :=
  placePath (tree.find? directory) place

/-- The loader returns a key for what is at a place, when some document names it. -/
def KeyFor (tree : FileTree) (directory : String) (place : List String) (key : String) : Prop :=
  ∃ origin raw, tree.find? (FileTree.join directory (DocumentKey.normalize origin raw)) = some place ∧
    (ofDirectory tree directory).resolveKey origin raw = .ok key

theorem KeyFor.eq (h : KeyFor tree directory place key) : key = pathKey (pathTo tree directory place) := by
  obtain ⟨origin, raw, hfind, hkey⟩ := h
  unfold ofDirectory fileKey at hkey
  dsimp only at hkey
  rw [hfind] at hkey
  exact (Except.ok.inj hkey).symm

theorem exists_names (hnames : ∀ name ∈ place, IsName name.toList) :
    ∃ names : Place, names.map Subtype.val = place.map String.toList := by
  refine ⟨place.pmap (fun name hname => ⟨name.toList, hname⟩) hnames, ?_⟩
  rw [List.map_pmap, List.pmap_eq_map]

/-- A name with a dot behind the full path of a place stands for the full path. -/
theorem normalize_fullPath (hnames : ∀ name ∈ place, IsName name.toList) :
    DocumentKey.normalize none (FileTree.fullPath place ++ "/.") = FileTree.fullPath place := by
  obtain ⟨names, hvals⟩ := exists_names hnames
  have htext : (FileTree.fullPath place).toList = (Location.fixed names).text := by
    rw [FileTree.toList_fullPath, Text.toList_join, ← hvals]
    rfl
  have hpath : (FileTree.fullPath place ++ "/.").toList = (Location.fixed names).text ++ '/' :: ['.'] := by
    rw [String.toList_append, htext]
    rfl
  have htrim : Text.trimChars ((Location.fixed names).text ++ '/' :: ['.']) =
      (Location.fixed names).text ++ '/' :: ['.'] := by
    have hends := @Text.trimChars_of_ends
      (List.intercalate ['/'] (Location.fixed names).segments ++ ['/']) '/' '.' (by decide) (by decide)
    rw [List.append_assoc] at hends
    exact hends
  have hjoined : DocumentKey.joined none (FileTree.fullPath place ++ "/.") =
      (Location.fixed names).text ++ '/' :: ['.'] :=
    (congrArg Text.trimChars hpath).trans htrim
  have hfolds : Location.ofPath ((Location.fixed names).text ++ '/' :: ['.']) = Location.fixed names := by
    have hstart : ((Location.fixed names).text ++ '/' :: ['.']).head? = (Location.fixed names).text.head? := rfl
    rw [Location.ofPath, hstart, Text.splitAt_append, List.foldl_append]
    show (Location.ofPath (Location.fixed names).text).onward ['.'] = _
    rw [Location.ofPath_text, Location.onward, DocumentKey.onward_blank (.inr rfl)]
  rw [← String.toList_inj, DocumentKey.toList_normalize, hjoined, hfolds, htext]

/-- There is a key for everything. -/
theorem exists_keyFor (htree : tree.WellFormed) (h : tree.Has place) :
    KeyFor tree directory place (pathKey (pathTo tree directory place)) := by
  have hfind : tree.find? (FileTree.join directory
      (DocumentKey.normalize none (FileTree.fullPath place ++ "/."))) = some place := by
    rw [normalize_fullPath fun name hname => htree.isName h hname, FileTree.join_of_root FileTree.head?_fullPath,
      FileTree.find?_fullPath htree h]
  refine ⟨none, FileTree.fullPath place ++ "/.", hfind, ?_⟩
  unfold ofDirectory fileKey
  dsimp only
  rw [hfind]
  rfl

/-- Names in a row do not start with a slash. -/
theorem head?_join_names {below : List String} (hnames : ∀ name ∈ below, IsName name.toList) :
    (Text.join "/" below).toList.head? ≠ some '/' := by
  obtain ⟨names, hvals⟩ := exists_names hnames
  have htext : (Text.join "/" below).toList = (Location.relative 0 names).text := by
    rw [Text.toList_join, ← hvals]
    rfl
  rw [htext, Ne, Location.head?_text]
  exact Bool.false_ne_true

/-- How a place is told: by the names below the base directory, or by all its names. -/
theorem pathTo_cases (tree : FileTree) (directory : String) (place : List String) :
    (∃ base below, tree.find? directory = some base ∧ place = base ++ below ∧
      pathTo tree directory place = Text.join "/" below) ∨
    pathTo tree directory place = FileTree.fullPath place := by
  unfold pathTo placePath
  cases tree.find? directory with
  | none => exact .inr rfl
  | some base =>
    dsimp only
    split
    · next hprefix =>
      obtain ⟨below, rfl⟩ := List.isPrefixOf_iff_prefix.1 hprefix
      exact .inl ⟨base, below, rfl, rfl, by rw [List.drop_left]⟩
    · exact .inr rfl

theorem toList_pathKey {path : String} :
    (pathKey path).toList = path.toList.map fun c => if c = '\\' then '/' else c := String.toList_ofList ..

theorem not_mem_pathKey {path : String} : '\\' ∉ (pathKey path).toList := by
  rw [toList_pathKey, List.mem_map]
  rintro ⟨c, -, hc⟩
  split at hc
  · cases hc
  · next hne => exact hne hc

theorem pathKey_eq {path : String} (h : '\\' ∉ path.toList) : pathKey path = path := by
  rw [← String.toList_inj, toList_pathKey]
  refine (List.map_congr_left fun c hc => if_neg ?_).trans (List.map_id' _)
  rintro rfl
  exact h hc

/-- A name in which there is a backslash is not reached by a key. -/
theorem not_mem_of_walkFrom {path name : String} {start base below : List String}
    (hstart : start <+: base)
    (h : tree.walkFrom start (pathKey path).toList = some (base ++ below)) (hname : name ∈ below) :
    '\\' ∉ name.toList := fun hc =>
  not_mem_pathKey (Text.mem_of_mem_splitAt (FileTree.mem_of_walkFrom hstart h hname) hc)

/-- A key only leads to what its path tells if there is no backslash in the path. -/
theorem not_mem_of_find? (h : tree.find? (FileTree.join directory
    (pathKey (pathTo tree directory place))) = some place) :
    '\\' ∉ (pathTo tree directory place).toList := by
  have hjoin : ∀ below : List String, (∀ name ∈ below, '\\' ∉ name.toList) →
      '\\' ∉ (Text.join "/" below).toList := by
    intro below hbelow hmem
    rw [Text.toList_join] at hmem
    obtain ⟨piece, hpiece, hc⟩ := (Text.mem_intercalate (by decide)).1 hmem
    obtain ⟨name, hname, rfl⟩ := List.mem_map.1 hpiece
    exact hbelow name hname hc
  have hroot : (pathKey (pathTo tree directory place)).toList.head? = some '/' →
      tree.walkFrom [] (pathKey (pathTo tree directory place)).toList = some place := by
    intro hslash
    rw [← FileTree.find?_of_root hslash, ← @FileTree.join_of_root directory _ hslash, h]
  rcases pathTo_cases tree directory place with ⟨base, below, hfind, rfl, hpath⟩ | hpath
  · rw [hpath] at h hroot ⊢
    refine hjoin below fun name hname => ?_
    by_cases hslash : (pathKey (Text.join "/" below)).toList.head? = some '/'
    · exact not_mem_of_walkFrom (List.nil_prefix) (hroot hslash) hname
    · rw [FileTree.find?_join hslash hfind] at h
      exact not_mem_of_walkFrom List.prefix_rfl h hname
  · rw [hpath] at hroot ⊢
    rw [FileTree.toList_fullPath, List.mem_cons]
    have hwalk := hroot (by rw [toList_pathKey, FileTree.toList_fullPath]; rfl)
    exact not_or.2 ⟨by decide, hjoin place fun name hname =>
      @not_mem_of_walkFrom tree _ name [] [] place List.prefix_rfl hwalk hname⟩

variable (htree : tree.WellFormed)
  (hbase : ∀ base, tree.find? directory = some base → tree.isDirectory base)

include htree

section Base

include hbase

/-- The path of a place leads to it from the base directory. -/
theorem find?_pathTo (h : tree.Has place) :
    tree.find? (FileTree.join directory (pathTo tree directory place)) = some place := by
  rcases pathTo_cases tree directory place with ⟨base, below, hfind, rfl, hpath⟩ | hpath
  · have hslash := head?_join_names fun name hname =>
      htree.isName h (List.mem_append_right base hname)
    rw [hpath, FileTree.find?_join hslash hfind, FileTree.walkFrom_join htree (hbase base hfind) h]
  · rw [hpath, FileTree.join_of_root FileTree.head?_fullPath, FileTree.find?_fullPath htree h]

/-- A key leads back to what it is for just if there is no backslash in the path of that. -/
theorem find?_key_iff (h : tree.Has place) (hkey : KeyFor tree directory place key) :
    tree.find? (FileTree.join directory key) = some place ↔
      '\\' ∉ (pathTo tree directory place).toList := by
  rw [hkey.eq]
  refine ⟨not_mem_of_find?, fun hslash => ?_⟩
  rw [pathKey_eq hslash]
  exact find?_pathTo htree hbase h

end Base

/-- The file at a place is a document. -/
def IsDocument (tree : FileTree) (place : List String) (raw : Value) : Prop :=
  ∃ bytes text, tree.file? place = some bytes ∧ String.fromUTF8? ⟨bytes.toArray⟩ = some text ∧
    Value.read text.toByteArray.data.toList = .ok raw

omit htree in
/-- What the loader reads under a key that leads to a file is what is in the file. -/
theorem load_eq_ok_iff {bytes : List UInt8} {raw : Value} (hfile : tree.file? place = some bytes)
    (hkey : key = placeKey (tree.find? directory) place)
    (hfind : tree.find? (FileTree.join directory key) = some place) :
    (ofDirectory tree directory).load key = .ok raw ↔ IsDocument tree place raw := by
  have hmem : key ∈ (ofDirectory tree directory).keys :=
    List.mem_map.2 ⟨place, List.mem_append_right _ (FileTree.mem_files_of_file? hfile), hkey.symm⟩
  rw [load, if_pos hmem]
  unfold ofDirectory readDocument FileTree.readText IsDocument
  dsimp only
  rw [hfind]
  dsimp only
  rw [hfile]
  dsimp only
  constructor
  · intro h
    cases htext : String.fromUTF8? ⟨bytes.toArray⟩ with
    | none =>
      rw [htext] at h
      cases h
    | some text =>
      rw [htext] at h
      dsimp only at h
      split at h
      · next hread =>
        cases h
        exact ⟨bytes, text, rfl, htext, hread⟩
      · cases h
  · rintro ⟨bytes', text, heq, htext, hread⟩
    cases heq
    rw [htext]
    dsimp only
    rw [hread]

include hbase

/-- The keys of a directory name the files in whose paths there is no backslash. For every file there is
exactly one key, and it leads back to the file, so that the loader reads just this file under it, if and
only if there is no backslash in the path of the file. Of two such files each has a key of its own. -/
theorem file_keys_name :
    (∀ place bytes, tree.file? place = some bytes →
      (∃ key, KeyFor tree directory place key) ∧
      ∀ key, KeyFor tree directory place key →
        (∀ other, KeyFor tree directory place other → other = key) ∧
        (tree.find? (FileTree.join directory key) = some place ↔
          '\\' ∉ (pathTo tree directory place).toList) ∧
        ('\\' ∉ (pathTo tree directory place).toList → ∀ raw,
          (ofDirectory tree directory).load key = .ok raw ↔ IsDocument tree place raw)) ∧
    ∀ place place' bytes bytes' key, tree.file? place = some bytes → tree.file? place' = some bytes' →
      '\\' ∉ (pathTo tree directory place).toList → '\\' ∉ (pathTo tree directory place').toList →
      KeyFor tree directory place key → KeyFor tree directory place' key → place = place' := by
  refine ⟨fun place bytes hfile => ?_, ?_⟩
  · have hhas := FileTree.has_of_file? hfile
    refine ⟨⟨_, exists_keyFor htree hhas⟩, fun key hkey => ?_⟩
    have hiff := find?_key_iff htree hbase hhas hkey
    exact ⟨fun other hother => hother.eq.trans hkey.eq.symm, hiff,
      fun hslash raw => load_eq_ok_iff hfile hkey.eq (hiff.2 hslash)⟩
  · intro place place' bytes bytes' key hfile hfile' hslash hslash' hkey hkey'
    have hfind := (find?_key_iff htree hbase (FileTree.has_of_file? hfile) hkey).2 hslash
    have hfind' := (find?_key_iff htree hbase (FileTree.has_of_file? hfile') hkey').2 hslash'
    exact Option.some.inj (hfind.symm.trans hfind')

end Loader

namespace Sample

/-- An empty document in a directory below the base directory, and one outside. -/
def shelf : FileTree :=
  (FileTree.empty.write ["base", "lib", "a.json"] [0x7b, 0x7d]).write ["b.json"] [0x7b, 0x7d]

end Sample

/-- The keys of both files lead back to them: the path below the base directory, and the full path. -/
theorem Loader.file_keys_name_shelf :
    Loader.KeyFor Sample.shelf "/base" ["base", "lib", "a.json"] "lib/a.json" ∧
    Sample.shelf.find? (FileTree.join "/base" "lib/a.json") = some ["base", "lib", "a.json"] ∧
    (Loader.ofDirectory Sample.shelf "/base").load "lib/a.json" = .ok (.object []) ∧
    Loader.KeyFor Sample.shelf "/base" ["b.json"] "/b.json" ∧
    Sample.shelf.find? (FileTree.join "/base" "/b.json") = some ["b.json"] := by
  have htree : Sample.shelf.WellFormed := by decide +kernel
  have hfind : Sample.shelf.find? "/base" = some ["base"] := by decide +kernel
  have hbase : ∀ base, Sample.shelf.find? "/base" = some base → Sample.shelf.isDirectory base := by
    intro base h
    cases hfind.symm.trans h
    decide +kernel
  obtain ⟨hfiles, -⟩ := Loader.file_keys_name htree hbase
  have hkey : Loader.KeyFor Sample.shelf "/base" ["base", "lib", "a.json"] "lib/a.json" :=
    ⟨none, "lib/a.json", by decide +kernel, by decide +kernel⟩
  have hkey' : Loader.KeyFor Sample.shelf "/base" ["b.json"] "/b.json" :=
    ⟨some "/x.json", "b.json", by decide +kernel, by decide +kernel⟩
  obtain ⟨-, hinside⟩ := hfiles ["base", "lib", "a.json"] [0x7b, 0x7d] (by decide +kernel)
  obtain ⟨-, houtside⟩ := hfiles ["b.json"] [0x7b, 0x7d] (by decide +kernel)
  obtain ⟨-, hleads, hloads⟩ := hinside _ hkey
  have hslash : '\\' ∉ (Loader.pathTo Sample.shelf "/base" ["base", "lib", "a.json"]).toList := by
    decide +kernel
  refine ⟨hkey, hleads.2 hslash, (hloads hslash _).2 ?_, hkey',
    (houtside _ hkey').2.1.2 (by decide +kernel)⟩
  exact ⟨[0x7b, 0x7d], "{}", by decide +kernel, by decide +kernel, rfl⟩

namespace Sample

/-- A file with a backslash in its name, and one that a slash in its place would name. -/
def slashes : FileTree :=
  (FileTree.empty.write ["base", "a\\b.json"] [0x7b, 0x7d]).write ["base", "a", "b.json"] [0x7b, 0x7d]

end Sample

/-- Both files get one key, and under this key the second one is read. -/
theorem Loader.slashes_share_key :
    Sample.slashes.WellFormed ∧
    Loader.KeyFor Sample.slashes "/base" ["base", "a\\b.json"] "a/b.json" ∧
    Loader.KeyFor Sample.slashes "/base" ["base", "a", "b.json"] "a/b.json" ∧
    Sample.slashes.find? (FileTree.join "/base" "a/b.json") = some ["base", "a", "b.json"] := by
  refine ⟨by decide +kernel, ⟨none, "a\\b.json", by decide +kernel, by decide +kernel⟩,
    ⟨none, "a/b.json", by decide +kernel, by decide +kernel⟩, by decide +kernel⟩

end ServiceContract
