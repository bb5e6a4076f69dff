import ServiceContract.Proofs.Json.ValueText

/-!
# Values are read by their grammar

Every reader finds exactly the texts of its grammar behind blanks, as long as what follows delimits
them. For sequences this is proved once, from the reader of their items; a value is then read by
induction on the bound on its nesting, and what is passed over in the same way.
-/

namespace ServiceContract.Json

/-! ## Sequences -/

/-- Behind blanks the reading finds the texts of a grammar and nothing else, where they end. -/
structure Finds {α : Type} (reading : Reading α) (G : Grammar α) : Prop where
  /-- The texts begin like a value. -/
  begins {text : List UInt8} {x : α} : G text x → Begins text
  /-- What is read is a text of the grammar, and all of them are read. -/
  eq_ok {text rest : List UInt8} {x : α} : Ends rest →
    (reading text = .ok (x, rest) ↔ ∃ raw, G raw x ∧ skipBlanks text = raw ++ rest)

/-- From behind their first byte the reading finds the texts of a grammar, whatever follows. -/
structure FindsBehind {α : Type} (opening : UInt8) (reading : Reading α) (G : Grammar α) :
    Prop where
  /-- The texts begin with the byte. -/
  head {text : List UInt8} {x : α} : G text x → ∃ tail, text = opening :: tail
  /-- What is read is the rest of a text of the grammar, and all of them are read. -/
  eq_ok {text rest : List UInt8} {x : α} :
    reading text = .ok (x, rest) ↔ ∃ raw, G raw x ∧ opening :: text = raw ++ rest

/-- What is read may be turned into something else. -/
theorem FindsBehind.map {α β : Type} {opening : UInt8} {reading : Reading α} {G : Grammar α}
    (h : FindsBehind opening reading G) (f : α → β) :
    FindsBehind opening (fun text => do
      let read ← reading text
      return (f read.1, read.2)) (fun text y => ∃ x, G text x ∧ f x = y) where
  head := fun ⟨_, hx, _⟩ => h.head hx
  eq_ok {text rest y} := by
    rw [bind_eq_ok]
    constructor
    · rintro ⟨⟨x, rest'⟩, hread, hpure⟩
      cases hpure
      obtain ⟨raw, hraw, heq⟩ := h.eq_ok.1 hread
      exact ⟨raw, ⟨x, hraw, rfl⟩, heq⟩
    · rintro ⟨raw, ⟨x, hraw, rfl⟩, heq⟩
      exact ⟨(x, rest), h.eq_ok.2 ⟨raw, hraw, heq⟩, rfl⟩

section Sequences

variable {α : Type} {close : UInt8} {item : Reading α} {G : Grammar α}

theorem Spaced.blanks_append {before text : List UInt8} {x : α} (hbefore : Blanks before)
    (h : Spaced G text x) : Spaced G (before ++ text) x := by
  obtain ⟨hfirst, h, hafter⟩ := h
  rw [← List.append_assoc]
  exact ⟨fun byte hbyte => (List.mem_append.1 hbyte).elim (hbefore byte) (hfirst byte), h, hafter⟩

theorem Items.blanks_append {before text : List UInt8} {xs : List α} (hbefore : Blanks before)
    (h : Items G text xs) : Items G (before ++ text) xs := by
  cases h with
  | one h => exact .one (h.blanks_append hbefore)
  | more h hrest =>
    rw [← List.append_assoc]
    exact .more (h.blanks_append hbefore) hrest

/-- Items are blanks and items that begin at once. -/
theorem Items.exists_begins (hG : ∀ {text x}, G text x → Begins text) {text : List UInt8}
    {xs : List α} (h : Items G text xs) :
    ∃ before items, Blanks before ∧ text = before ++ items ∧ Begins items ∧ Items G items xs := by
  have hnone : Blanks [] := nofun
  cases h with
  | one h =>
    obtain ⟨hbefore, h, hafter⟩ := h
    exact ⟨_, _, hbefore, rfl, (hG h).append _, .one ⟨hnone, h, hafter⟩⟩
  | more h hrest =>
    obtain ⟨hbefore, h, hafter⟩ := h
    refine ⟨_, _, hbefore, List.append_assoc _ _ _, ((hG h).append _).append _, .more ?_ hrest⟩
    exact ⟨hnone, h, hafter⟩

/-- An item is read with the blanks around it, up to what delimits it. -/
theorem Finds.spaced (h : Finds item G) {text tail : List UInt8} {x : α} (htail : Delimits tail) :
    (∃ rest, item text = .ok (x, rest) ∧ skipBlanks rest = tail) ↔
      ∃ spaced, Spaced G spaced x ∧ text = spaced ++ tail := by
  constructor
  · rintro ⟨rest, hread, rfl⟩
    obtain ⟨raw, hraw, htext⟩ := (h.eq_ok htail).1 hread
    obtain ⟨before, hbefore, hsplit⟩ := exists_blanks text
    obtain ⟨after, hafter, hrest⟩ := exists_blanks rest
    refine ⟨_, ⟨hbefore, hraw, hafter⟩, ?_⟩
    rw [List.append_assoc, List.append_assoc, ← hrest, ← htext]
    exact hsplit
  · rintro ⟨_, ⟨hbefore, hraw, hafter⟩, rfl⟩
    have hskip := (skipBlanks_append hafter tail).trans htail.noBlank.skipBlanks
    have hends : Ends _ := (congrArg Delimits hskip).mpr htail
    refine ⟨_, (h.eq_ok hends).2 ⟨_, hraw, ?_⟩, hskip⟩
    rw [List.append_assoc, List.append_assoc, skipBlanks_append hbefore]
    exact ((h.begins hraw).append _).skipBlanks

/-- A comma tells that another item comes, and the closing byte that none does. -/
theorem itemsFrom_succ_eq_ok (hclose : close ≠ 0x2c) {bound : Nat} {text rest : List UInt8}
    {xs : List α} : itemsFrom close item (bound + 1) text = .ok (xs, rest) ↔
      (∃ x, xs = [x] ∧ ∃ tail, item text = .ok (x, tail) ∧ skipBlanks tail = close :: rest) ∨
      ∃ x others more, xs = x :: others ∧
        (∃ tail, item text = .ok (x, tail) ∧ skipBlanks tail = 0x2c :: more) ∧
        itemsFrom close item bound more = .ok (others, rest) := by
  rw [itemsFrom, bind_eq_ok]
  constructor
  · rintro ⟨⟨x, tail⟩, hread, h⟩
    dsimp only at h
    split at h
    · next more htail =>
      obtain ⟨⟨others, rest'⟩, hothers, h⟩ := bind_eq_ok.1 h
      cases h
      exact .inr ⟨x, others, more, rfl, ⟨tail, hread, htail⟩, hothers⟩
    · next byte rest' _ htail =>
      split at h
      · next hbyte =>
        cases h
        exact .inl ⟨x, rfl, tail, hread, by rw [htail, hbyte]⟩
      · cases h
    · cases h
  · rintro (⟨x, rfl, tail, hread, htail⟩ |
      ⟨x, others, more, rfl, ⟨tail, hread, htail⟩, hothers⟩)
    · refine ⟨_, hread, ?_⟩
      dsimp only
      rw [htail]
      split
      · next heq => exact absurd (List.cons.inj heq).1 hclose
      · next heq =>
        obtain ⟨rfl, rfl⟩ := List.cons.inj heq
        exact if_pos rfl
      · next heq => cases heq
    · refine ⟨_, hread, ?_⟩
      dsimp only
      rw [htail]
      exact bind_eq_ok.2 ⟨_, hothers, rfl⟩

theorem itemsFrom_eq_ok (h : Finds item G) (hclose : close = 0x5d ∨ close = 0x7d) {bound : Nat}
    {text rest : List UInt8} {xs : List α} (hbound : text.length ≤ bound) :
    itemsFrom close item bound text = .ok (xs, rest) ↔
      ∃ inner, Items G inner xs ∧ text = inner ++ close :: rest := by
  have hcomma : close ≠ 0x2c := by rcases hclose with rfl | rfl <;> decide
  have hend : Delimits (close :: rest) := .inr hclose
  have hmore : ∀ more, Delimits (0x2c :: more) := fun _ => Or.inl rfl
  -- Every item has a byte of its own, so that the bound outlasts the text.
  induction bound generalizing text xs with
  | zero =>
    obtain rfl := List.length_eq_zero_iff.1 (Nat.le_zero.1 hbound)
    refine ⟨nofun, ?_⟩
    rintro ⟨inner, -, heq⟩
    exact absurd heq.symm (List.append_ne_nil_of_right_ne_nil _ (List.cons_ne_nil _ _))
  | succ bound ih =>
    rw [itemsFrom_succ_eq_ok hcomma]
    constructor
    · rintro (⟨x, rfl, hread⟩ | ⟨x, others, more, rfl, hread, hothers⟩)
      · obtain ⟨spaced, hspaced, rfl⟩ := (h.spaced hend).1 hread
        exact ⟨spaced, .one hspaced, rfl⟩
      · obtain ⟨spaced, hspaced, rfl⟩ := (h.spaced (hmore more)).1 hread
        rw [List.length_append, List.length_cons] at hbound
        obtain ⟨inner, hinner, rfl⟩ := (ih (by omega)).1 hothers
        exact ⟨_, .more hspaced hinner, by rw [List.append_assoc, List.cons_append]⟩
    · rintro ⟨inner, hinner, rfl⟩
      cases hinner with
      | one hspaced => exact .inl ⟨_, rfl, (h.spaced hend).2 ⟨_, hspaced, rfl⟩⟩
      | @more spaced inner x xs hspaced hinner =>
        rw [List.append_assoc, List.cons_append] at hbound ⊢
        rw [List.length_append, List.length_cons] at hbound
        exact .inr ⟨x, xs, _, rfl, (h.spaced (hmore _)).2 ⟨_, hspaced, rfl⟩,
          (ih (by omega)).2 ⟨inner, hinner, rfl⟩⟩

/-- Items are read from behind their opening byte up to and over the closing one. -/
theorem findsBehind_delimited (h : Finds item G) (hclose : close = 0x5d ∨ close = 0x7d)
    (opening : UInt8) : FindsBehind opening (delimited close item) (Enclosed opening close G) where
  head hraw := by cases hraw <;> exact ⟨_, rfl⟩
  eq_ok {text rest xs} := by
    have hblank : NoBlank (close :: rest) := by rcases hclose with rfl | rfl <;> rfl
    have hassoc : ∀ inner,
        opening :: (inner ++ [close]) ++ rest = opening :: (inner ++ close :: rest) :=
      fun inner => congrArg (opening :: ·) (List.append_assoc inner [close] rest)
    constructor
    · intro hread
      obtain ⟨before, hbefore, hsplit⟩ := exists_blanks text
      unfold delimited at hread
      split at hread
      · next byte tail htext =>
        rw [htext] at hsplit
        split at hread
        · next hbyte =>
          cases hread
          exact ⟨_, .none hbefore, by rw [hassoc, hsplit, hbyte]⟩
        · have hbound : (byte :: tail).length ≤ tail.length + 1 := Nat.le_refl _
          obtain ⟨inner, hinner, heq⟩ := (itemsFrom_eq_ok h hclose hbound).1 hread
          refine ⟨_, .some (hinner.blanks_append hbefore), ?_⟩
          rw [hassoc, hsplit, heq, List.append_assoc]
      · cases hread
    · rintro ⟨_, hraw, heq⟩
      unfold delimited
      cases hraw with
      | none hinner =>
        rw [hassoc] at heq
        obtain ⟨-, rfl⟩ := List.cons.inj heq
        rw [skipBlanks_append hinner, hblank.skipBlanks]
        exact if_pos rfl
      | some hinner =>
        rw [hassoc] at heq
        obtain ⟨-, rfl⟩ := List.cons.inj heq
        obtain ⟨before, items, hbefore, rfl, hbegins, hitems⟩ := hinner.exists_begins h.begins
        rw [List.append_assoc, skipBlanks_append hbefore, (hbegins.append _).skipBlanks]
        cases hbegins with
        | @cons byte tail _ hother =>
          have hbyte : byte ≠ close := by
            rintro rfl
            exact hother hclose
          exact (if_neg hbyte).trans
            ((itemsFrom_eq_ok h hclose (Nat.le_refl _)).2 ⟨_, hitems, rfl⟩)

end Sequences

/-! ## Members -/

theorem colon_eq_ok {text rest : List UInt8} :
    colon text = .ok rest ↔ skipBlanks text = 0x3a :: rest := by
  unfold colon
  split
  · next tail htext => rw [htext, Except.ok.injEq, List.cons.injEq, eq_self, true_and]
  · next hother => exact ⟨nofun, fun htext => absurd htext (hother rest)⟩

/-- A key, a colon and a value in a row are a member. -/
theorem key_colon_value {α κ : Type} {keyReading : Reading κ} {K : Grammar κ}
    (hkey : ∀ {text rest key}, keyReading text = .ok (key, rest) ↔
      ∃ raw, K raw key ∧ skipBlanks text = raw ++ rest)
    {reading : Reading α} {G : Grammar α} (h : Finds reading G) {text rest : List UInt8} {key : κ}
    {x : α} (hrest : Ends rest) :
    (∃ behindKey behindColon, keyReading text = .ok (key, behindKey) ∧
      colon behindKey = .ok behindColon ∧ reading behindColon = .ok (x, rest)) ↔
      ∃ raw, MemberText K G raw (key, x) ∧ skipBlanks text = raw ++ rest := by
  constructor
  · rintro ⟨behindKey, behindColon, hread, hcolon, hvalue⟩
    obtain ⟨keyText, hkeyText, htext⟩ := hkey.1 hread
    obtain ⟨before, hbefore, hsplit⟩ := exists_blanks behindKey
    obtain ⟨after, hafter, hsplit'⟩ := exists_blanks behindColon
    obtain ⟨raw, hraw, hvalueText⟩ := (h.eq_ok hrest).1 hvalue
    refine ⟨_, .mk hkeyText hbefore hafter hraw, ?_⟩
    rw [htext, hsplit, colon_eq_ok.1 hcolon, hsplit', hvalueText]
    simp only [List.append_assoc, List.cons_append]
  · rintro ⟨_, @⟨_, _, after, valueText, _, _, hkeyText, hbefore, hafter, hraw⟩, htext⟩
    simp only [List.append_assoc, List.cons_append] at htext
    refine ⟨_, after ++ (valueText ++ rest), hkey.2 ⟨_, hkeyText, htext⟩, colon_eq_ok.2 ?_,
      (h.eq_ok hrest).2 ⟨_, hraw, ?_⟩⟩
    · rw [skipBlanks_append hbefore]
      rfl
    · rw [skipBlanks_append hafter]
      exact ((h.begins hraw).append _).skipBlanks

theorem QuotedText.begins {text : List UInt8} {s : String} (h : QuotedText text s) :
    Begins text := by
  obtain ⟨h⟩ := h
  exact .cons rfl (by decide)

theorem finds_string : Finds string QuotedText := ⟨QuotedText.begins, fun _ => string_eq_ok⟩

/-- A member is read as its key, a colon and its value. -/
theorem member_eq_ok {α : Type} {reading : Reading α} {text rest : List UInt8} {key : String}
    {x : α} : member reading text = .ok ((key, x), rest) ↔
      ∃ behindKey behindColon, string text = .ok (key, behindKey) ∧
        colon behindKey = .ok behindColon ∧ reading behindColon = .ok (x, rest) := by
  unfold member
  constructor
  · intro h
    obtain ⟨⟨key', behindKey⟩, hkey, h⟩ := bind_eq_ok.1 h
    obtain ⟨behindColon, hcolon, h⟩ := bind_eq_ok.1 h
    obtain ⟨⟨x', rest'⟩, hvalue, hpure⟩ := bind_eq_ok.1 h
    cases hpure
    exact ⟨behindKey, behindColon, hkey, hcolon, hvalue⟩
  · rintro ⟨behindKey, behindColon, hkey, hcolon, hvalue⟩
    exact bind_eq_ok.2 ⟨_, hkey, bind_eq_ok.2 ⟨_, hcolon, bind_eq_ok.2 ⟨_, hvalue, rfl⟩⟩⟩

theorem finds_member {α : Type} {reading : Reading α} {G : Grammar α} (h : Finds reading G) :
    Finds (member reading) (MemberText QuotedText G) where
  begins hmember := by
    obtain ⟨hkey, -, -, -⟩ := hmember
    exact hkey.begins.append _
  eq_ok hrest := member_eq_ok.trans (key_colon_value string_eq_ok h hrest)

/-! ## Values -/

theorem word_eq_ok {expected text rest : List UInt8} :
    word expected text = .ok rest ↔ text = expected ++ rest := by
  induction expected generalizing text with
  | nil =>
    unfold word
    rw [Except.ok.injEq, List.nil_append]
  | cons e expected ih =>
    cases text with
    | nil => exact ⟨nofun, nofun⟩
    | cons byte text =>
      rw [word, List.cons_append, List.cons.injEq, ← ih]
      split
      · next heq => exact ⟨fun h => ⟨heq.symm, h⟩, And.right⟩
      · next hne => exact ⟨nofun, fun h => absurd h.1.symm hne⟩

/-- How a value is read, by the byte that it begins with. -/
structure Parts (α : Type) where
  /-- What the word for null stands for. -/
  null : α
  /-- What the word for true stands for. -/
  yes : α
  /-- What the word for false stands for. -/
  no : α
  /-- A string, behind its quote. -/
  string : Reading α
  /-- An array, behind its bracket. -/
  array : Reading α
  /-- An object, behind its brace. -/
  object : Reading α
  /-- A number. -/
  number : Reading α

namespace Parts

variable {α : Type}

/-- A value is told from its first byte. -/
def reading (p : Parts α) : Reading α := fun text =>
  match skipBlanks text with
  | 0x6e :: rest => do return (p.null, ← word [0x75, 0x6c, 0x6c] rest)
  | 0x74 :: rest => do return (p.yes, ← word [0x72, 0x75, 0x65] rest)
  | 0x66 :: rest => do return (p.no, ← word [0x61, 0x6c, 0x73, 0x65] rest)
  | 0x22 :: rest => p.string rest
  | 0x5b :: rest => p.array rest
  | 0x7b :: rest => p.object rest
  | text => p.number text

/-- The grammar of the parts. -/
inductive Text (p : Parts α) (S A O N : Grammar α) : List UInt8 → α → Prop where
  /-- The word for null. -/
  | null : Text p S A O N [0x6e, 0x75, 0x6c, 0x6c] p.null
  /-- The word for true. -/
  | yes : Text p S A O N [0x74, 0x72, 0x75, 0x65] p.yes
  /-- The word for false. -/
  | no : Text p S A O N [0x66, 0x61, 0x6c, 0x73, 0x65] p.no
  /-- A string. -/
  | string {text : List UInt8} {x : α} (h : S text x) : Text p S A O N text x
  /-- An array. -/
  | array {text : List UInt8} {x : α} (h : A text x) : Text p S A O N text x
  /-- An object. -/
  | object {text : List UInt8} {x : α} (h : O text x) : Text p S A O N text x
  /-- A number. -/
  | number {text : List UInt8} {x : α} (h : N text x) : Text p S A O N text x

/-- If its parts are found, so is the value. -/
theorem finds (p : Parts α) {S A O N : Grammar α} (hstring : FindsBehind 0x22 p.string S)
    (harray : FindsBehind 0x5b p.array A) (hobject : FindsBehind 0x7b p.object O)
    (hbegins : ∀ {text x}, N text x → ∃ byte tail, text = byte :: tail ∧ BeginsNumber byte)
    (hnumber : ∀ {text rest x}, Ends rest →
      (p.number text = .ok (x, rest) ↔ ∃ raw, N raw x ∧ text = raw ++ rest)) :
    Finds p.reading (p.Text S A O N) where
  begins h := by
    cases h with
    | null => exact .cons rfl (by decide)
    | yes => exact .cons rfl (by decide)
    | no => exact .cons rfl (by decide)
    | string h =>
      obtain ⟨tail, rfl⟩ := hstring.head h
      exact .cons rfl (by decide)
    | array h =>
      obtain ⟨tail, rfl⟩ := harray.head h
      exact .cons rfl (by decide)
    | object h =>
      obtain ⟨tail, rfl⟩ := hobject.head h
      exact .cons rfl (by decide)
    | number h =>
      obtain ⟨byte, tail, rfl, hbyte⟩ := hbegins h
      exact hbyte.begins tail
  eq_ok {text rest x} hrest := by
    unfold reading
    constructor
    · intro h
      split at h
      · next htext =>
        obtain ⟨_, hword, hpure⟩ := bind_eq_ok.1 h
        cases hpure
        exact ⟨_, .null, by rw [htext, word_eq_ok.1 hword]; rfl⟩
      · next htext =>
        obtain ⟨_, hword, hpure⟩ := bind_eq_ok.1 h
        cases hpure
        exact ⟨_, .yes, by rw [htext, word_eq_ok.1 hword]; rfl⟩
      · next htext =>
        obtain ⟨_, hword, hpure⟩ := bind_eq_ok.1 h
        cases hpure
        exact ⟨_, .no, by rw [htext, word_eq_ok.1 hword]; rfl⟩
      · next htext =>
        obtain ⟨raw, hraw, heq⟩ := hstring.eq_ok.1 h
        exact ⟨raw, .string hraw, htext.trans heq⟩
      · next htext =>
        obtain ⟨raw, hraw, heq⟩ := harray.eq_ok.1 h
        exact ⟨raw, .array hraw, htext.trans heq⟩
      · next htext =>
        obtain ⟨raw, hraw, heq⟩ := hobject.eq_ok.1 h
        exact ⟨raw, .object hraw, htext.trans heq⟩
      · obtain ⟨raw, hraw, heq⟩ := (hnumber hrest).1 h
        exact ⟨raw, .number hraw, heq⟩
    · rintro ⟨raw, hraw, htext⟩
      cases hraw with
      | null => rw [htext]; rfl
      | yes => rw [htext]; rfl
      | no => rw [htext]; rfl
      | string hraw =>
        obtain ⟨tail, rfl⟩ := hstring.head hraw
        rw [htext]
        exact hstring.eq_ok.2 ⟨_, hraw, rfl⟩
      | array hraw =>
        obtain ⟨tail, rfl⟩ := harray.head hraw
        rw [htext]
        exact harray.eq_ok.2 ⟨_, hraw, rfl⟩
      | object hraw =>
        obtain ⟨tail, rfl⟩ := hobject.head hraw
        rw [htext]
        exact hobject.eq_ok.2 ⟨_, hraw, rfl⟩
      | number hraw =>
        -- None of the other parts begins like a number.
        obtain ⟨byte, tail, rfl, hbyte⟩ := hbegins hraw
        have hother : ∀ {other more}, skipBlanks text = other :: more → BeginsNumber other :=
          fun heq => (List.cons.inj (htext.symm.trans heq)).1 ▸ hbyte
        split
        · next heq => exact absurd (hother heq) (by decide)
        · next heq => exact absurd (hother heq) (by decide)
        · next heq => exact absurd (hother heq) (by decide)
        · next heq => exact absurd (hother heq) (by decide)
        · next heq => exact absurd (hother heq) (by decide)
        · next heq => exact absurd (hother heq) (by decide)
        · exact (hnumber hrest).2 ⟨_, hraw, htext⟩

end Parts

theorem Finds.congr {α : Type} {reading : Reading α} {G G' : Grammar α} (h : Finds reading G)
    (hG : ∀ {text x}, G text x ↔ G' text x) : Finds reading G' where
  begins hx := h.begins (hG.2 hx)
  eq_ok hrest := (h.eq_ok hrest).trans (exists_congr fun _ => and_congr_left' hG)

/-- Where composites are refused, none are found. -/
theorem findsBehind_refused {α : Type} (opening : UInt8) (fault : Fault) :
    FindsBehind opening (fun _ => .error fault) (fun _ (_ : α) => False) where
  head := False.elim
  eq_ok := ⟨nofun, nofun⟩

/-! ### Values that are kept -/

theorem findsBehind_stringTail : FindsBehind 0x22 stringTail QuotedText where
  head h := by
    obtain ⟨h⟩ := h
    exact ⟨_, rfl⟩
  eq_ok {text rest s} := by
    rw [stringTail_eq_ok]
    constructor
    · rintro ⟨inner, hchars, rfl⟩
      exact ⟨_, ⟨hchars⟩, by rw [List.cons_append, List.append_assoc]; rfl⟩
    · rintro ⟨_, ⟨hchars⟩, heq⟩
      rw [List.cons_append, List.append_assoc] at heq
      exact ⟨_, hchars, (List.cons.inj heq).2⟩

/-- The parts of a value, of which the composites depend on what may stand in them. -/
def valueParts (array object : Reading Value) : Parts Value where
  null := .null
  yes := .bool true
  no := .bool false
  string text := do
    let read ← stringTail text
    return (.string read.1, read.2)
  array := array
  object := object
  number text := do
    let read ← number text
    return (.number read.1, read.2)

theorem value_zero :
    value 0 = (valueParts (fun _ => .error .nestingTooDeep) (fun _ => .error .nestingTooDeep)).reading := by
  funext text
  unfold value Parts.reading
  rfl

theorem value_succ (depth : Nat) :
    value (depth + 1) = (valueParts
      (fun text => do
        let read ← delimited 0x5d (value depth) text
        return (.array read.1, read.2))
      (fun text => do
        let read ← delimited 0x7d (member (value depth)) text
        return (.object (collectMembers read.1), read.2))).reading := by
  funext text
  rw [value]
  rfl

/-- The parts of a value are found if its composites are. -/
theorem finds_valueParts {array object : Reading Value} {A O : Grammar Value}
    (harray : FindsBehind 0x5b array A) (hobject : FindsBehind 0x7b object O) :
    Finds (valueParts array object).reading
      (fun text v => ScalarText text v ∨ A text v ∨ O text v) := by
  have hnumber : ∀ {text rest : List UInt8} {v : Value}, Ends rest →
      ((valueParts array object).number text = .ok (v, rest) ↔
        ∃ raw, (∃ n, (∃ t, DecimalText raw t ∧ t.value? = some n) ∧ Value.number n = v) ∧
          text = raw ++ rest) := by
    intro text rest v hrest
    constructor
    · intro h
      obtain ⟨⟨n, rest'⟩, hread, hpure⟩ := bind_eq_ok.1 h
      cases hpure
      obtain ⟨raw, hraw, heq⟩ := (number_eq_ok hrest).1 hread
      exact ⟨raw, ⟨n, hraw, rfl⟩, heq⟩
    · rintro ⟨raw, ⟨n, hraw, rfl⟩, heq⟩
      exact bind_eq_ok.2 ⟨_, (number_eq_ok hrest).2 ⟨raw, hraw, heq⟩, rfl⟩
  refine ((valueParts array object).finds (findsBehind_stringTail.map Value.string) harray hobject
    (fun ⟨_, ⟨_, h, _⟩, _⟩ => h.begins) hnumber).congr ?_
  intro text v
  constructor
  · intro h
    cases h with
    | null => exact .inl .null
    | yes => exact .inl .true
    | no => exact .inl .false
    | string h =>
      obtain ⟨s, h, rfl⟩ := h
      exact .inl (.string h)
    | array h => exact .inr (.inl h)
    | object h => exact .inr (.inr h)
    | number h =>
      obtain ⟨n, ⟨t, h, hvalue⟩, rfl⟩ := h
      exact .inl (.number h hvalue)
  · rintro (h | h | h)
    · cases h with
      | null => exact .null
      | true => exact .yes
      | false => exact .no
      | string h => exact .string ⟨_, h, rfl⟩
      | number h hvalue => exact .number ⟨_, ⟨_, h, hvalue⟩, rfl⟩
    · exact .array h
    · exact .object h

/-- Under every bound on the nesting, the values within it are what is read. -/
theorem finds_value (depth : Nat) : Finds (value depth) (ValueText depth) := by
  induction depth with
  | zero =>
    rw [value_zero]
    refine (finds_valueParts (findsBehind_refused _ _) (findsBehind_refused _ _)).congr ?_
    intro text v
    exact ⟨fun h => h.elim id fun h => h.elim False.elim False.elim, Or.inl⟩
  | succ depth ih =>
    rw [value_succ]
    refine (finds_valueParts ((findsBehind_delimited ih (.inl rfl) 0x5b).map Value.array)
      ((findsBehind_delimited (finds_member ih) (.inr rfl) 0x7b).map
        fun pairs => .object (collectMembers pairs))).congr ?_
    intro text v
    refine or_congr_right ⟨?_, fun h => ?_⟩
    · rintro (⟨items, h, rfl⟩ | ⟨pairs, h, rfl⟩)
      · exact .array h
      · exact .object h
    · cases h with
      | array h => exact .inl ⟨_, h, rfl⟩
      | object h => exact .inr ⟨_, h, rfl⟩

/-! ### Values that are passed over -/

/-- Passes over a string, from behind its quote. -/
def skippedTail : Reading Unit := fun text => do
  return ((), ← skipStringTail (text.length + 1) text)

theorem findsBehind_skippedTail : FindsBehind 0x22 skippedTail SkippedQuoted where
  head h := by
    obtain ⟨h⟩ := h
    exact ⟨_, rfl⟩
  eq_ok {text rest u} := by
    unfold skippedTail
    rw [bind_eq_ok]
    constructor
    · rintro ⟨rest', hskip, hpure⟩
      cases hpure
      obtain ⟨inner, hinner, rfl⟩ := skippedChars_of_skipStringTail hskip
      exact ⟨_, ⟨hinner⟩, by rw [List.cons_append, List.append_assoc]; rfl⟩
    · rintro ⟨_, ⟨hinner⟩, heq⟩
      rw [List.cons_append, List.append_assoc] at heq
      obtain ⟨-, rfl⟩ := List.cons.inj heq
      refine ⟨rest, hinner.skipStringTail rest ?_, rfl⟩
      rw [List.length_append]
      omega

/-- Passes over a string behind blanks. -/
def skippedString : Reading Unit := fun text =>
  match skipBlanks text with
  | 0x22 :: rest => skippedTail rest
  | rest => .error (faultAt rest)

theorem skippedString_eq_ok {text rest : List UInt8} {u : Unit} :
    skippedString text = .ok (u, rest) ↔
      ∃ raw, SkippedQuoted raw u ∧ skipBlanks text = raw ++ rest := by
  unfold skippedString
  split
  · next htext => rw [htext, findsBehind_skippedTail.eq_ok]
  · next hother =>
    refine ⟨nofun, ?_⟩
    rintro ⟨raw, hraw, htext⟩
    obtain ⟨tail, rfl⟩ := findsBehind_skippedTail.head hraw
    exact absurd htext (hother _)

theorem finds_skipMember {reading : Reading Unit} {G : Grammar Unit} (h : Finds reading G) :
    Finds (skipValue.skipMember reading) (SkippedMember G) where
  begins hmember := by
    obtain ⟨⟨hkey⟩, -, -, -⟩ := hmember
    exact .cons rfl (by decide)
  eq_ok {text rest u} hrest := by
    unfold SkippedMember
    rw [← key_colon_value skippedString_eq_ok h hrest]
    by_cases hquote : ∃ tail, skipBlanks text = 0x22 :: tail
    · obtain ⟨tail, htext⟩ := hquote
      have hmember : skipValue.skipMember reading text = (do
          let behindKey ← skipStringTail (tail.length + 1) tail
          let behindColon ← colon behindKey
          reading behindColon) := by
        unfold skipValue.skipMember
        rw [htext]
        rfl
      have hstring : skippedString text = skippedTail tail := by
        unfold skippedString
        rw [htext]
        rfl
      rw [hmember, hstring]
      constructor
      · intro hread
        obtain ⟨behindKey, hkey, hread⟩ := bind_eq_ok.1 hread
        obtain ⟨behindColon, hcolon, hvalue⟩ := bind_eq_ok.1 hread
        exact ⟨behindKey, behindColon, bind_eq_ok.2 ⟨behindKey, hkey, rfl⟩, hcolon, hvalue⟩
      · rintro ⟨behindKey, behindColon, hkey, hcolon, hvalue⟩
        obtain ⟨_, hkey, hpure⟩ := bind_eq_ok.1 hkey
        cases hpure
        exact bind_eq_ok.2 ⟨_, hkey, bind_eq_ok.2 ⟨_, hcolon, hvalue⟩⟩
    · have hmember : skipValue.skipMember reading text = .error (faultAt (skipBlanks text)) := by
        unfold skipValue.skipMember
        split
        · next htext => exact absurd ⟨_, htext⟩ hquote
        · rfl
      have hstring : skippedString text = .error (faultAt (skipBlanks text)) := by
        unfold skippedString
        split
        · next htext => exact absurd ⟨_, htext⟩ hquote
        · rfl
      rw [hmember, hstring]
      constructor
      · intro hread
        cases hread
      · rintro ⟨_, _, hkey, -, -⟩
        cases hkey

/-- The parts of a value that is passed over. -/
def skippedParts (array object : Reading Unit) : Parts Unit where
  null := ()
  yes := ()
  no := ()
  string := skippedTail
  array := array
  object := object
  number text := do
    let read ← numberText text
    return ((), read.2)

theorem skipValue_zero :
    skipValue 0 =
      (skippedParts (fun _ => .error .nestingTooDeep) (fun _ => .error .nestingTooDeep)).reading := by
  funext text
  unfold skipValue Parts.reading
  rfl

theorem skipValue_succ (depth : Nat) :
    skipValue (depth + 1) = (skippedParts
      (fun text => do
        let read ← delimited 0x5d (skipValue depth) text
        return ((), read.2))
      (fun text => do
        let read ← delimited 0x7d (skipValue.skipMember (skipValue depth)) text
        return ((), read.2))).reading := by
  funext text
  rw [skipValue]
  rfl

theorem finds_skippedParts {array object : Reading Unit} {A O : Grammar Unit}
    (harray : FindsBehind 0x5b array A) (hobject : FindsBehind 0x7b object O) :
    Finds (skippedParts array object).reading
      (fun text u => SkippedScalar text u ∨ A text u ∨ O text u) := by
  have hnumber : ∀ {text rest : List UInt8} {u : Unit}, Ends rest →
      ((skippedParts array object).number text = .ok (u, rest) ↔
        ∃ raw, (∃ t, DecimalText raw t) ∧ text = raw ++ rest) := by
    intro text rest u hrest
    constructor
    · intro h
      obtain ⟨⟨t, rest'⟩, hread, hpure⟩ := bind_eq_ok.1 h
      cases hpure
      obtain ⟨raw, hraw, heq⟩ := (numberText_eq_ok hrest).1 hread
      exact ⟨raw, ⟨t, hraw⟩, heq⟩
    · rintro ⟨raw, ⟨t, hraw⟩, heq⟩
      exact bind_eq_ok.2 ⟨_, (numberText_eq_ok hrest).2 ⟨raw, hraw, heq⟩, rfl⟩
  refine ((skippedParts array object).finds (N := fun text _ => ∃ t, DecimalText text t)
    findsBehind_skippedTail harray hobject
    (fun ⟨_, h⟩ => h.begins) hnumber).congr ?_
  intro text u
  constructor
  · intro h
    cases h with
    | null => exact .inl .null
    | yes => exact .inl .true
    | no => exact .inl .false
    | string h => exact .inl (.string h)
    | array h => exact .inr (.inl h)
    | object h => exact .inr (.inr h)
    | number h =>
      obtain ⟨t, h⟩ := h
      exact .inl (.number h)
  · rintro (h | h | h)
    · cases h with
      | null => exact .null
      | true => exact .yes
      | false => exact .no
      | string h => exact .string h
      | number h => exact .number ⟨_, h⟩
    · exact .array h
    · exact .object h

/-- The values that are passed over nest as deeply as others. -/
theorem finds_skipValue (depth : Nat) :
    Finds (skipValue depth) (Nested SkippedScalar SkippedComposite depth) := by
  induction depth with
  | zero =>
    rw [skipValue_zero]
    refine (finds_skippedParts (findsBehind_refused _ _) (findsBehind_refused _ _)).congr ?_
    intro text u
    exact ⟨fun h => h.elim id fun h => h.elim False.elim False.elim, Or.inl⟩
  | succ depth ih =>
    rw [skipValue_succ]
    refine (finds_skippedParts ((findsBehind_delimited ih (.inl rfl) 0x5b).map fun _ => ())
      ((findsBehind_delimited (finds_skipMember ih) (.inr rfl) 0x7b).map fun _ => ())).congr ?_
    intro text u
    refine or_congr_right ⟨?_, fun h => ?_⟩
    · rintro (⟨items, h, -⟩ | ⟨members, h, -⟩)
      · exact .array h
      · exact .object h
    · cases h with
      | array h => exact .inl ⟨_, h, rfl⟩
      | object h => exact .inr ⟨_, h, rfl⟩

section Lengths

variable {α : Type} {G G' : Grammar α}

/-- Items are no longer than the text that they stand in. -/
theorem Items.imp {text : List UInt8} {xs : List α} (h : Items G text xs)
    (hG : ∀ {raw x}, raw.length ≤ text.length → G raw x → G' raw x) : Items G' text xs := by
  induction h with
  | one h =>
    obtain ⟨hbefore, h, hafter⟩ := h
    refine .one ⟨hbefore, hG ?_ h, hafter⟩
    simp only [List.length_append]
    omega
  | more h _ ih =>
    obtain ⟨hbefore, h, hafter⟩ := h
    simp only [List.length_append, List.length_cons] at hG
    refine .more ⟨hbefore, hG (by omega) h, hafter⟩ (ih fun hle => hG (by omega))

theorem Enclosed.imp {opening closing : UInt8} {text : List UInt8} {xs : List α}
    (h : Enclosed opening closing G text xs)
    (hG : ∀ {raw x}, raw.length < text.length → G raw x → G' raw x) :
    Enclosed opening closing G' text xs := by
  cases h with
  | none h => exact .none h
  | some h =>
    refine .some (h.imp fun hle => hG ?_)
    simp only [List.length_cons, List.length_append]
    omega

end Lengths

/-- A text does not nest more deeply than it is long. -/
theorem skipped_of_length_le {depth bound : Nat} {text : List UInt8} {u : Unit}
    (h : Nested SkippedScalar SkippedComposite depth text u) (hbound : text.length ≤ bound) :
    Nested SkippedScalar SkippedComposite bound text u := by
  -- By induction on the bound: what stands in a composite is shorter than it, whatever its depth.
  induction bound generalizing depth text u with
  | zero =>
    have hpos := ((finds_skipValue depth).begins h).length_pos
    omega
  | succ bound ih =>
    cases depth with
    | zero => exact .inl h
    | succ depth =>
      rcases h with h | h
      · exact .inl h
      · refine .inr ?_
        cases h with
        | array h => exact .array (h.imp fun hlt hraw => ih hraw (by omega))
        | object h =>
          refine .object (h.imp fun hlt hmember => ?_)
          obtain ⟨hkey, hbefore, hafter, hraw⟩ := hmember
          refine .mk hkey hbefore hafter (ih hraw ?_)
          simp only [List.length_append, List.length_cons] at hlt
          omega

/-- Where the bound is the length of the text, values are passed over whatever their nesting. -/
theorem finds_skipped : Finds (fun text => skipValue text.length text) SkippedText where
  begins := fun ⟨depth, h⟩ => (finds_skipValue depth).begins h
  eq_ok {text rest u} hrest := by
    rw [(finds_skipValue text.length).eq_ok hrest]
    refine ⟨fun ⟨raw, hraw, heq⟩ => ⟨raw, ⟨text.length, hraw⟩, heq⟩, ?_⟩
    rintro ⟨raw, ⟨depth, hraw⟩, heq⟩
    refine ⟨raw, skipped_of_length_le hraw ?_, heq⟩
    have hle : (skipBlanks text).length ≤ text.length := List.length_dropWhile_le _ _
    rw [heq, List.length_append] at hle
    omega

/-! ## Whole texts -/

/-- A text is read as a whole if it is one of the grammar with blanks around it. -/
theorem wholly_eq_ok {α : Type} {reading : Reading α} {G : Grammar α} (h : Finds reading G)
    {text : List UInt8} {x : α} : wholly reading text = .ok x ↔ Spaced G text x := by
  have hend : Delimits [] := trivial
  unfold wholly
  rw [bind_eq_ok]
  constructor
  · rintro ⟨⟨y, rest⟩, hread, hwhole⟩
    dsimp only at hwhole
    split at hwhole
    · next hrest =>
      cases hwhole
      obtain ⟨spaced, hspaced, rfl⟩ := (h.spaced hend).1 ⟨rest, hread, hrest⟩
      rwa [List.append_nil]
    · cases hwhole
  · intro hspaced
    obtain ⟨rest, hread, hrest⟩ := (h.spaced hend).2 ⟨text, hspaced, (List.append_nil text).symm⟩
    refine ⟨_, hread, ?_⟩
    dsimp only
    rw [hrest]
    rfl

end ServiceContract.Json
