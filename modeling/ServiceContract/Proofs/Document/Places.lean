import Mathlib.Algebra.Order.BigOperators.Group.List
import Mathlib.Algebra.Order.Group.Nat
import Mathlib.Data.List.DropRight
import ServiceContract.Document.Key
import ServiceContract.Proofs.Text.Pieces

/-!
# Keys and places

A path leads from a place to a place, one segment after the other. A canonical path says where it leads
in one way only: from the root on, or some steps up and then on. The stack on which a key is put
together is such a path read backwards, so that a key leads where the directory of a document and then a
name in it lead, and two names have one key just if they lead to one place from everywhere far enough
below the root.
-/

namespace ServiceContract.DocumentKey

/-! ## Places -/

/-- A segment that names a file or a directory: it is not empty, holds no slash, and is not one of the
two dotted segments. -/
def IsName (segment : List Char) : Prop :=
  segment ≠ [] ∧ '/' ∉ segment ∧ segment ≠ ['.'] ∧ segment ≠ ['.', '.']

instance : DecidablePred IsName := fun _ => inferInstanceAs (Decidable (_ ∧ _ ∧ _ ∧ _))

/-- The name of a file or a directory. -/
abbrev Name := { segment : List Char // IsName segment }

/-- A place by the names on the way to it from the root. -/
abbrev Place := List Name

/-- One segment further. Two dots lead to the directory around a place, and stay at the root; of the
other segments only names lead elsewhere. -/
def onward (place : Place) (segment : List Char) : Place :=
  if segment = ['.', '.'] then place.dropLast
  else if h : IsName segment then place ++ [⟨segment, h⟩]
  else place

/-- Where a path leads from a place. One that begins with a slash starts at the root. -/
def follow (place : Place) (path : List Char) : Place :=
  (Text.splitAt '/' path).foldl onward (if path.head? = some '/' then [] else place)

/-- The directory of a document as a path: what its key holds up to its last slash. -/
def directoryPath : (origin : Option String) → List Char
  | some key => key.toList.rdropWhile (· ≠ '/')
  | none => []

/-- Where a name in a document leads from the place that keys start at. -/
def namedPlace (place : Place) (origin : Option String) (raw : String) : Place :=
  follow (follow place (directoryPath origin)) (Text.trimChars raw.toList)

variable {place names : Place} {segment path : List Char} {pieces : List (List Char)}
  {origin : Option String} {raw : String}

theorem onward_parent : onward place ['.', '.'] = place.dropLast := if_pos rfl

theorem onward_name (name : Name) : onward place name.val = place ++ [name] := by
  rw [onward, if_neg name.2.2.2.2, dif_pos name.2]

theorem onward_blank (h : segment = [] ∨ segment = ['.']) : onward place segment = place := by
  rcases h with rfl | rfl <;> simp [onward, IsName]

/-- The segments that there are. -/
theorem segment_cases (h : '/' ∉ segment) :
    (segment = [] ∨ segment = ['.']) ∨ segment = ['.', '.'] ∨ ∃ name : Name, segment = name.val := by
  by_cases hblank : segment = [] ∨ segment = ['.']
  · exact .inl hblank
  · by_cases hparent : segment = ['.', '.']
    · exact .inr (.inl hparent)
    · obtain ⟨hempty, hdot⟩ := not_or.1 hblank
      exact .inr (.inr ⟨⟨segment, hempty, h, hdot, hparent⟩, rfl⟩)

/-- As long as there is a name to leave, what stands before the names does not matter. -/
theorem onward_append (h : segment ≠ ['.', '.'] ∨ names ≠ []) :
    onward (place ++ names) segment = place ++ onward names segment := by
  unfold onward
  by_cases hparent : segment = ['.', '.']
  · rw [if_pos hparent, if_pos hparent]
    exact List.dropLast_append_of_ne_nil (h.resolve_left fun hne => hne hparent)
  · rw [if_neg hparent, if_neg hparent]
    split
    · exact List.append_assoc ..
    · rfl

theorem foldl_onward_names :
    (names.map Subtype.val).foldl onward place = place ++ names := by
  induction names generalizing place with
  | nil => exact (List.append_nil place).symm
  | cons name names ih => rw [List.map_cons, List.foldl_cons, onward_name, ih, List.append_assoc]; rfl

/-! ## Canonical paths -/

/-- What a canonical path says. -/
inductive Location where
  /-- Names from the root on. -/
  | fixed (names : Place)
  /-- Steps up from where one is, and then names. -/
  | relative (ups : Nat) (names : Place)

namespace Location

/-- It is told from the root. -/
def isFixed : Location → Bool
  | fixed _ => true
  | relative .. => false

/-- The segments of the path. -/
def segments : Location → List (List Char)
  | fixed names => names.map Subtype.val
  | relative ups names => List.replicate ups ['.', '.'] ++ names.map Subtype.val

/-- The canonical path. -/
def text (location : Location) : List Char :=
  (if location.isFixed then ['/'] else []) ++ List.intercalate ['/'] location.segments

/-- Where the path leads from a place. -/
def placeFrom (place : Place) : Location → Place
  | fixed names => names
  | relative ups names => place.take (place.length - ups) ++ names

/-- One segment further. -/
def onward : Location → List Char → Location
  | fixed names, segment => fixed (DocumentKey.onward names segment)
  | relative ups names, segment =>
    if segment = ['.', '.'] ∧ names = [] then relative (ups + 1) []
    else relative ups (DocumentKey.onward names segment)

/-- What a path says. -/
def ofPath (path : List Char) : Location :=
  (Text.splitAt '/' path).foldl onward (if path.head? = some '/' then fixed [] else relative 0 [])

variable {location other : Location}

theorem onward_relative {ups : Nat} (h : segment ≠ ['.', '.'] ∨ names ≠ []) :
    (relative ups names).onward segment = relative ups (DocumentKey.onward names segment) :=
  if_neg fun hboth => h.elim (fun hne => hne hboth.1) fun hne => hne hboth.2

theorem isFixed_onward : (location.onward segment).isFixed = location.isFixed := by
  cases location with
  | fixed names => rfl
  | relative ups names => rw [onward]; split <;> rfl

/-- A segment further in a path is a segment further from every place. -/
theorem placeFrom_onward :
    (location.onward segment).placeFrom place = DocumentKey.onward (location.placeFrom place) segment := by
  cases location with
  | fixed names => rfl
  | relative ups names =>
    by_cases hup : segment = ['.', '.'] ∧ names = []
    · obtain ⟨rfl, rfl⟩ := hup
      simp only [onward, and_self, if_true, placeFrom, List.append_nil, onward_parent]
      rw [List.dropLast_eq_take, List.take_take, List.length_take]
      congr 1
      omega
    · have hleave : segment ≠ ['.', '.'] ∨ names ≠ [] := not_and_or.1 hup
      rw [onward_relative hleave]
      exact (onward_append hleave).symm

/-- The stack of a walk holds the segments of a canonical path, the last one on top. -/
theorem walk_segments (h : '/' ∉ segment) :
    walk location.isFixed location.segments.reverse segment =
      (location.onward segment).segments.reverse := by
  rcases segment_cases h with hblank | rfl | ⟨name, rfl⟩
  · have hstay : location.onward segment = location := by
      cases location with
      | fixed names => rw [onward, onward_blank hblank]
      | relative ups names =>
        have hne : segment ≠ ['.', '.'] := by rcases hblank with rfl | rfl <;> decide
        rw [onward_relative (.inl hne), onward_blank hblank]
    unfold walk
    rw [hstay, if_pos hblank]
  · have hleave : ∀ (fixed : Bool) (name : Name) (rest : List (List Char)),
        walk fixed (name.val :: rest) ['.', '.'] = rest := by
      intro fixed name rest
      simp [walk, name.2.2.2.2]
    cases location with
    | fixed names =>
      rcases List.eq_nil_or_concat' names with rfl | ⟨init, last, rfl⟩
      · rfl
      · simp [onward, segments, isFixed, onward_parent, hleave]
    | relative ups names =>
      rcases List.eq_nil_or_concat' names with rfl | ⟨init, last, rfl⟩
      · cases ups with
        | zero => rfl
        | succ ups =>
          simp only [onward, segments, isFixed, and_self, if_true, List.map_nil, List.append_nil,
            List.reverse_replicate]
          rfl
      · have hsome : init ++ [last] ≠ [] := by simp
        rw [onward_relative (.inr hsome)]
        simp [segments, isFixed, onward_parent, hleave]
  · have hname : ∀ (fixed : Bool) (path : List (List Char)),
        walk fixed path name.val = name.val :: path := by
      intro fixed path
      simp [walk, name.2.1, name.2.2.2.1, name.2.2.2.2]
    cases location with
    | fixed names => simp [onward, segments, hname, onward_name]
    | relative ups names =>
      rw [onward_relative (.inl name.2.2.2.2)]
      simp [segments, hname, onward_name]

theorem placeFrom_foldl :
    (pieces.foldl onward location).placeFrom place =
      pieces.foldl DocumentKey.onward (location.placeFrom place) := by
  induction pieces generalizing location with
  | nil => rfl
  | cons segment pieces ih => rw [List.foldl_cons, ih, placeFrom_onward, List.foldl_cons]

theorem isFixed_foldl : (pieces.foldl onward location).isFixed = location.isFixed := by
  induction pieces generalizing location with
  | nil => rfl
  | cons segment pieces ih => rw [List.foldl_cons, ih, isFixed_onward]

theorem foldl_walk (h : ∀ segment ∈ pieces, '/' ∉ segment) :
    pieces.foldl (walk location.isFixed) location.segments.reverse =
      (pieces.foldl onward location).segments.reverse := by
  induction pieces generalizing location with
  | nil => rfl
  | cons segment pieces ih =>
    obtain ⟨hsegment, hrest⟩ := List.forall_mem_cons.1 h
    have hwalk := @ih (location.onward segment) hrest
    rw [isFixed_onward] at hwalk
    rw [List.foldl_cons, List.foldl_cons, walk_segments hsegment]
    exact hwalk

/-- A path says where to go from the root on if it begins with a slash. -/
theorem isFixed_ofPath : (ofPath path).isFixed = (path.head? == some '/') := by
  rw [ofPath, isFixed_foldl]
  split
  · next hhead => rw [hhead]; rfl
  · next hhead => simp [isFixed, hhead]

/-- A path leads where the canonical one leads that says the same. -/
theorem placeFrom_ofPath : (ofPath path).placeFrom place = follow place path := by
  unfold ofPath follow
  rw [placeFrom_foldl]
  split
  · rfl
  · simp [placeFrom]

/-- The key of a path is the canonical path that says the same. -/
theorem toList_key : (DocumentKey.ofPath path).toList = (ofPath path).text := by
  let start := if path.head? = some '/' then fixed [] else relative 0 []
  have hstart : (path.head? == some '/') = start.isFixed ∧ start.segments = [] := by
    by_cases hhead : path.head? = some '/' <;> simp [start, hhead, isFixed, segments]
  have hwalk := @foldl_walk (Text.splitAt '/' path) start
    fun _ hsegment => Text.not_mem_of_mem_splitAt hsegment
  rw [hstart.2, List.reverse_nil] at hwalk
  unfold DocumentKey.ofPath Location.text
  rw [String.toList_ofList, isFixed_ofPath, hstart.1, hwalk, List.reverse_reverse]
  rfl

/-! ## What canonical paths say -/

theorem segment_of_mem (h : segment ∈ location.segments) : segment ≠ [] ∧ '/' ∉ segment := by
  have hname : ∀ names : Place, segment ∈ names.map Subtype.val → segment ≠ [] ∧ '/' ∉ segment := by
    intro names hmem
    obtain ⟨name, -, rfl⟩ := List.mem_map.1 hmem
    exact ⟨name.2.1, name.2.2.1⟩
  cases location with
  | fixed names => exact hname names h
  | relative ups names =>
    rcases List.mem_append.1 h with h | h
    · rw [List.eq_of_mem_replicate h]
      decide
    · exact hname names h

theorem head?_text : location.text.head? = some '/' ↔ location.isFixed = true := by
  cases location with
  | fixed names => simp [text, isFixed]
  | relative ups names =>
    simp only [text, isFixed, Bool.false_eq_true, if_false, List.nil_append, iff_false]
    cases hsegments : (relative ups names).segments with
    | nil => simp
    | cons segment rest =>
      obtain ⟨hne, hslash⟩ := segment_of_mem (hsegments ▸ List.mem_cons_self ..)
      obtain ⟨c, cs, rfl⟩ := List.exists_cons_of_ne_nil hne
      have hc : c ≠ '/' := fun h => hslash (h ▸ List.mem_cons_self ..)
      cases rest with
      | nil => simpa using hc
      | cons next rest => simpa [List.intercalate_cons_cons] using hc

theorem onward_nil : location.onward [] = location := by
  cases location with
  | fixed names => rw [onward, onward_blank (.inl rfl)]
  | relative ups names => rw [onward_relative (.inl (by decide)), onward_blank (.inl rfl)]

/-- Going through the pieces of a path is going through what was joined to it. -/
theorem foldl_splitAt_intercalate (h : ∀ piece ∈ pieces, '/' ∉ piece) :
    (Text.splitAt '/' (List.intercalate ['/'] pieces)).foldl onward location =
      pieces.foldl onward location := by
  by_cases hne : pieces = []
  · subst hne
    exact onward_nil
  · rw [Text.splitAt_intercalate hne h]

theorem foldl_relative_names {ups : Nat} :
    (names.map Subtype.val).foldl onward (relative ups place) = relative ups (place ++ names) := by
  induction names generalizing place with
  | nil => rw [List.append_nil]; rfl
  | cons name names ih =>
    rw [List.map_cons, List.foldl_cons, onward_relative (.inl name.2.2.2.2), onward_name, ih,
      List.append_assoc]
    rfl

theorem foldl_relative_parents {ups more : Nat} :
    (List.replicate more ['.', '.']).foldl onward (relative ups []) = relative (ups + more) [] := by
  induction more generalizing ups with
  | zero => rfl
  | succ more ih =>
    have hup : (relative ups []).onward ['.', '.'] = relative (ups + 1) [] := by
      simp [onward]
    rw [List.replicate_succ, List.foldl_cons, hup, ih, Nat.add_right_comm]
    rfl

/-- Reading a canonical path gives back what it was written for. -/
theorem ofPath_text : ofPath location.text = location := by
  have hslash : ∀ segment ∈ location.segments, '/' ∉ segment := fun _ h => (segment_of_mem h).2
  unfold ofPath
  cases location with
  | fixed names =>
    rw [if_pos (head?_text.2 rfl)]
    show (Text.splitAt '/' ([] ++ '/' :: List.intercalate ['/'] (names.map Subtype.val))).foldl
      onward (fixed []) = fixed names
    rw [Text.splitAt_append, List.foldl_append]
    show (Text.splitAt '/' (List.intercalate ['/'] (fixed names).segments)).foldl
      onward ((fixed []).onward []) = fixed names
    rw [onward_nil, foldl_splitAt_intercalate hslash, segments,
      List.foldl_hom fixed fun _ _ => rfl, foldl_onward_names]
    rfl
  | relative ups names =>
    rw [if_neg (by rw [head?_text]; exact Bool.false_ne_true)]
    show (Text.splitAt '/' (List.intercalate ['/'] (relative ups names).segments)).foldl
      onward (relative 0 []) = relative ups names
    rw [foldl_splitAt_intercalate hslash, segments, List.foldl_append, foldl_relative_parents,
      foldl_relative_names, Nat.zero_add, List.nil_append]

/-- No list holds all names. -/
theorem exists_not_mem (names : Place) : ∃ name : Name, name ∉ names := by
  let longest := (names.map fun name => name.val.length).sum
  have hlength : (List.replicate (longest + 3) 'x').length = longest + 3 := List.length_replicate
  have hname : IsName (List.replicate (longest + 3) 'x') := by
    refine ⟨?_, fun hslash => ?_, ?_, ?_⟩
    · exact List.ne_nil_of_length_pos (by omega)
    · exact absurd (List.eq_of_mem_replicate hslash) (by decide)
    all_goals
      intro heq
      rw [heq] at hlength
      simp at hlength
  refine ⟨⟨_, hname⟩, fun hmem => ?_⟩
  have hle : (List.replicate (longest + 3) 'x').length ≤ longest :=
    List.le_sum_of_mem (List.mem_map.2 ⟨_, hmem, rfl⟩)
  omega

/-- Two canonical paths that lead to one place from everywhere far enough below the root are one. -/
theorem eq_of_placeFrom_eq {depth : Nat}
    (h : ∀ place : Place, depth ≤ place.length → location.placeFrom place = other.placeFrom place) :
    location = other := by
  -- From below directories of a name that stands in neither path, the steps up can be counted.
  have hdeep : ∀ (name : Name) (more : Nat),
      location.placeFrom (List.replicate (depth + more) name) =
        other.placeFrom (List.replicate (depth + more) name) :=
    fun name more => h _ (by rw [List.length_replicate]; omega)
  have hmixed : ∀ (names : Place) (ups : Nat) (names' : Place) (name : Name),
      names ≠ (relative ups names').placeFrom
        (List.replicate (depth + (ups + names.length + 1)) name) := by
    intro names ups names' name heq
    have hlength := congrArg List.length heq
    simp only [placeFrom, List.length_append, List.length_take, List.length_replicate] at hlength
    omega
  cases location with
  | fixed names =>
    obtain ⟨name, -⟩ := exists_not_mem names
    cases other with
    | fixed names' => exact congrArg fixed (hdeep name 0)
    | relative ups names' => exact absurd (hdeep name _) (hmixed names ups names' name)
  | relative ups names =>
    cases other with
    | fixed names' =>
      obtain ⟨name, -⟩ := exists_not_mem names
      exact absurd (hdeep name _).symm (hmixed names' ups names name)
    | relative ups' names' =>
      obtain ⟨name, hname⟩ := exists_not_mem (names ++ names')
      obtain ⟨hnames, hnames'⟩ := not_or.1 (List.mem_append.not.1 hname)
      have heq := hdeep name (ups + ups')
      have hcount := congrArg (List.count name) heq
      simp only [placeFrom, List.length_replicate, List.take_replicate, List.count_append,
        List.count_replicate_self, List.count_eq_zero_of_not_mem hnames,
        List.count_eq_zero_of_not_mem hnames'] at hcount
      obtain rfl : ups = ups' := by omega
      exact congrArg (relative ups) (List.append_cancel_left heq)

end Location

/-! ## Keys -/

/-- What stands before the last slash of a key is its directory, if it has a slash. -/
theorem directory_cases (key : String) :
    (directory? key.toList = none ∧ directoryPath (some key) = []) ∨
      ∃ directory, directory? key.toList = some directory ∧
        directoryPath (some key) = directory ++ ['/'] := by
  simp only [directory?, directoryPath, List.rdropWhile, Text.cutAt_eq]
  have hhead := List.head?_dropWhile_not (· ≠ '/') key.toList.reverse
  cases hdrop : key.toList.reverse.dropWhile (· ≠ '/') with
  | nil => exact .inl ⟨rfl, rfl⟩
  | cons c behind =>
    rw [hdrop] at hhead
    have hc : c = '/' := by simpa using hhead
    exact .inr ⟨behind.reverse, rfl, by rw [hc, List.reverse_cons]⟩

/-- A path behind a directory leads on from there. -/
theorem follow_append {directory : List Char} (h : path.head? ≠ some '/') :
    follow place (directory ++ '/' :: path) = follow (follow place (directory ++ ['/'])) path := by
  have hhead : (directory ++ '/' :: path).head? = (directory ++ ['/']).head? := by
    cases directory <;> rfl
  have hlast : Text.splitAt '/' (directory ++ ['/']) = Text.splitAt '/' directory ++ [[]] :=
    Text.splitAt_append
  unfold follow
  rw [if_neg h, hhead, Text.splitAt_append, hlast, List.foldl_append, List.foldl_append]
  exact congrArg (fun here => (Text.splitAt '/' path).foldl onward here)
    (onward_blank (.inl rfl)).symm

/-- Where a path with a slash in front leads does not depend on where it is followed from. -/
theorem follow_of_fixed {other : Place} (h : path.head? = some '/') :
    follow place path = follow other path := by
  unfold follow
  rw [if_pos h, if_pos h]

/-- The path of a name leads where the directory of the document and then the name lead. -/
theorem follow_joined : follow place (joined origin raw) = namedPlace place origin raw := by
  unfold joined namedPlace
  cases origin with
  | none => rfl
  | some key =>
    dsimp only [Option.bind_some]
    rcases directory_cases key with ⟨hnone, hempty⟩ | ⟨directory, hsome, hdirectory⟩
    · rw [hnone, hempty]
      rfl
    · rw [hsome, hdirectory]
      dsimp only
      split
      · next hfixed => exact follow_of_fixed hfixed
      · next hrelative => exact follow_append hrelative

/-- A key is the canonical path that says what the path of the name says. -/
theorem toList_normalize :
    (normalize origin raw).toList = (Location.ofPath (joined origin raw)).text :=
  Location.toList_key

theorem follow_text {location : Location} : follow place location.text = location.placeFrom place := by
  rw [← Location.placeFrom_ofPath, Location.ofPath_text]

/-- A key leads where the name leads. -/
theorem follow_normalize : follow place (normalize origin raw).toList = namedPlace place origin raw := by
  rw [toList_normalize, follow_text, Location.placeFrom_ofPath, follow_joined]

/-- Names that lead to one place from everywhere far enough below the root have one key. -/
theorem normalize_eq_of_namedPlace_eq {origin' : Option String} {raw' : String} {depth : Nat}
    (h : ∀ place : Place, depth ≤ place.length →
      namedPlace place origin raw = namedPlace place origin' raw') :
    normalize origin raw = normalize origin' raw' := by
  have hsame : Location.ofPath (joined origin raw) = Location.ofPath (joined origin' raw') := by
    refine @Location.eq_of_placeFrom_eq _ _ depth fun place hdepth => ?_
    rw [Location.placeFrom_ofPath, Location.placeFrom_ofPath, follow_joined, follow_joined]
    exact h place hdepth
  rw [← String.toList_inj, toList_normalize, toList_normalize, hsame]

/-- A key is canonical, and it says where the name of a document leads: its segments are names, behind
segments of two dots if it does not begin with a slash; from every place it leads where the directory of
the naming document and then the name lead; and two names have one key just if they lead to one place
from everywhere far enough below the root. -/
theorem normalize_locates (origin : Option String) (raw : String) :
    (∃ location : Location, (normalize origin raw).toList = location.text) ∧
    (∀ place, follow place (normalize origin raw).toList = namedPlace place origin raw) ∧
    ∀ origin' raw', normalize origin raw = normalize origin' raw' ↔
      ∃ depth, ∀ place : Place, depth ≤ place.length →
        namedPlace place origin raw = namedPlace place origin' raw' := by
  refine ⟨⟨_, toList_normalize⟩, fun _ => follow_normalize, fun origin' raw' => ⟨fun h => ?_, ?_⟩⟩
  · refine ⟨0, fun place _ => ?_⟩
    rw [← follow_normalize, h, follow_normalize]
  · rintro ⟨depth, h⟩
    exact normalize_eq_of_namedPlace_eq h

end ServiceContract.DocumentKey
