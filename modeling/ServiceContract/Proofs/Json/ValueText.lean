import ServiceContract.Json.Reader
import ServiceContract.Proofs.Json.Rereading
import ServiceContract.Proofs.Json.StringText

/-!
# What the texts of values are read as

The compact text of a value whose objects have every key once is read as the value, its members in
order, with each number as its own text is read: quotes, commas and brackets keep the texts apart. What
follows the value is left to be read, as long as it does not continue a number.
-/

namespace ServiceContract.Json

namespace Value

/-- Every object in the value, at any depth, has each of its keys once. -/
inductive DistinctKeys : Value → Prop where
  /-- The null value. -/
  | null : DistinctKeys .null
  /-- A truth value. -/
  | bool (b : Bool) : DistinctKeys (.bool b)
  /-- A number. -/
  | number (n : Number) : DistinctKeys (.number n)
  /-- A text. -/
  | string (s : String) : DistinctKeys (.string s)
  /-- An array of such values. -/
  | array {items : List Value} (h : ∀ item ∈ items, DistinctKeys item) :
      DistinctKeys (.array items)
  /-- An object of such values with a key for each of them. -/
  | object {members : Members} (hkeys : (members.map Prod.fst).Nodup)
      (h : ∀ member ∈ members, DistinctKeys member.2) : DistinctKeys (.object members)

@[simp]
theorem distinctKeys_string {s : String} : (Value.string s).DistinctKeys := .string s

@[simp]
theorem distinctKeys_array {items : List Value} :
    (Value.array items).DistinctKeys ↔ ∀ item ∈ items, item.DistinctKeys :=
  ⟨fun | .array h => h, .array⟩

@[simp]
theorem distinctKeys_object {members : Members} :
    (Value.object members).DistinctKeys ↔
      (members.map Prod.fst).Nodup ∧ ∀ member ∈ members, member.2.DistinctKeys :=
  ⟨fun | .object hkeys h => ⟨hkeys, h⟩, fun ⟨hkeys, h⟩ => .object hkeys h⟩

end Value

/-! ## Members that are collected -/

/-- A new key goes to the end. -/
theorem putMember_of_not_mem {key : String} {v : Value} {members : Members}
    (h : key ∉ members.map Prod.fst) : putMember key v members = members ++ [(key, v)] := by
  induction members with
  | nil => rfl
  | cons member members ih =>
    rw [List.map_cons, List.mem_cons, not_or] at h
    rw [putMember, if_neg fun heq => h.1 heq.symm, ih h.2, List.cons_append]

/-- Members with a key for each of them are collected as they are. -/
theorem collectMembers_of_nodup {members : Members} (h : (members.map Prod.fst).Nodup) :
    collectMembers members = members := by
  have step : ∀ before : Members, ((before ++ members).map Prod.fst).Nodup →
      members.foldl (fun members pair => putMember pair.1 pair.2 members) before =
        before ++ members := by
    clear h
    induction members with
    | nil => exact fun before _ => (List.append_nil before).symm
    | cons member members ih =>
      intro before hnodup
      have hnew : member.1 ∉ before.map Prod.fst := by
        rw [List.map_append, List.nodup_append] at hnodup
        intro hmem
        exact hnodup.2.2 _ hmem _ (List.mem_map_of_mem List.mem_cons_self) rfl
      rw [List.foldl_cons, putMember_of_not_mem hnew, ih _ (by rwa [List.append_assoc]),
        List.append_assoc]
      rfl
  exact step [] h

/-! ## Sequences between delimiters -/

/-- Texts with commas between them. -/
def separated : List (List UInt8) → List UInt8
  | [] => []
  | [text] => text
  | text :: rest => text ++ 0x2c :: separated rest

theorem separated_cons_cons {α : Type} (written : α → List UInt8) (x y : α) (rest : List α) :
    separated ((x :: y :: rest).map written) =
      written x ++ 0x2c :: separated ((y :: rest).map written) := rfl

/-- A text that begins like a value: neither with a blank nor with what ends a sequence. -/
inductive Begins : List UInt8 → Prop where
  /-- The first byte tells. -/
  | cons {byte : UInt8} {tail : List UInt8} (hblank : isBlank byte = false)
      (hclose : ¬ (byte = 0x5d ∨ byte = 0x7d)) : Begins (byte :: tail)

theorem Begins.append {text : List UInt8} (h : Begins text) (rest : List UInt8) :
    Begins (text ++ rest) := by
  cases h with
  | cons hblank hclose => exact .cons hblank hclose

/-- No blanks stand before it. -/
theorem Begins.skipBlanks {text : List UInt8} (h : Begins text) : skipBlanks text = text := by
  cases h with
  | cons hblank _ => exact List.dropWhile_cons_of_neg (Bool.eq_false_iff.1 hblank)

theorem Begins.length_pos {text : List UInt8} (h : Begins text) : 0 < text.length := by
  cases h with
  | cons _ _ => exact Nat.succ_pos _

theorem BeginsNumber.begins {byte : UInt8} (h : BeginsNumber byte) (tail : List UInt8) :
    Begins (byte :: tail) := by
  have hother : ∀ other, ¬ BeginsNumber other → byte ≠ other := by
    rintro other hother rfl
    exact hother h
  refine .cons ?_ (not_or.2 ⟨hother _ (by decide), hother _ (by decide)⟩)
  simp only [isBlank, Bool.or_eq_false_iff, beq_eq_false_iff_ne]
  exact ⟨⟨⟨hother _ (by decide), hother _ (by decide)⟩, hother _ (by decide)⟩, hother _ (by decide)⟩

section Sequences

variable {α β : Type} {close : UInt8} {item : Reading β} {written : α → List UInt8}
  {outcome : α → Except Fault β}

theorem begins_separated {x : α} {xs : List α} (h : Begins (written x)) :
    Begins (separated ((x :: xs).map written)) := by
  cases xs with
  | nil => exact h
  | cons y ys => exact h.append _

theorem length_le_separated {xs : List α} (h : ∀ x ∈ xs, Begins (written x)) :
    xs.length ≤ (separated (xs.map written)).length := by
  induction xs with
  | nil => exact Nat.zero_le _
  | cons x xs ih =>
    have hx := (h x List.mem_cons_self).length_pos
    have hxs := ih fun y hy => h y (List.mem_cons_of_mem x hy)
    cases xs with
    | nil => exact hx
    | cons y ys =>
      rw [separated_cons_cons, List.length_append]
      simp only [List.length_cons] at hxs ⊢
      omega

/-- If it is known of each item what it is read as, it is known of the sequence. -/
theorem itemsFrom_separated (hclose : close = 0x5d ∨ close = 0x7d) {xs : List α} (hne : xs ≠ [])
    (hread : ∀ x ∈ xs, ∀ rest, Delimits rest →
      item (written x ++ rest) = (outcome x).map fun y => (y, rest))
    {bound : Nat} (hbound : xs.length ≤ bound) (rest : List UInt8) :
    itemsFrom close item bound (separated (xs.map written) ++ close :: rest) =
      (xs.mapM outcome).map fun ys => (ys, rest) := by
  induction xs generalizing bound with
  | nil => exact absurd rfl hne
  | cons x xs ih =>
    obtain ⟨bound, rfl⟩ : ∃ smaller, bound = smaller + 1 := ⟨bound - 1, by
      rw [List.length_cons] at hbound
      omega⟩
    rw [List.length_cons] at hbound
    have hx := hread x List.mem_cons_self
    rw [itemsFrom, List.mapM_cons]
    cases xs with
    | nil =>
      have hdelimits : Delimits (close :: rest) := .inr hclose
      rw [List.map_singleton, separated, hx _ hdelimits]
      cases outcome x with
      | error fault => rfl
      | ok y => rcases hclose with rfl | rfl <;> rfl
    | cons next xs =>
      have hrest := ih (List.cons_ne_nil next xs)
        (fun z hz => hread z (List.mem_cons_of_mem x hz)) (Nat.le_of_succ_le_succ hbound)
      have hcomma : Delimits (0x2c :: (separated ((next :: xs).map written) ++ close :: rest)) :=
        Or.inl rfl
      rw [separated_cons_cons, List.append_assoc, List.cons_append, hx _ hcomma]
      cases outcome x with
      | error fault => rfl
      | ok y =>
        show (do
          let read ← itemsFrom close item bound
            (separated ((next :: xs).map written) ++ close :: rest)
          return (y :: read.1, read.2)) = _
        rw [hrest]
        cases (next :: xs).mapM outcome <;> rfl

/-- A sequence between delimiters is read from behind its opening byte. -/
theorem delimited_separated (hclose : close = 0x5d ∨ close = 0x7d) {xs : List α}
    (hbegins : ∀ x ∈ xs, Begins (written x))
    (hread : ∀ x ∈ xs, ∀ rest, Delimits rest →
      item (written x ++ rest) = (outcome x).map fun y => (y, rest))
    (rest : List UInt8) :
    delimited close item (separated (xs.map written) ++ close :: rest) =
      (xs.mapM outcome).map fun ys => (ys, rest) := by
  cases xs with
  | nil => rcases hclose with rfl | rfl <;> rfl
  | cons x xs =>
    have hlength := length_le_separated hbegins
    have hfirst : Begins (separated ((x :: xs).map written)) :=
      begins_separated (hbegins x List.mem_cons_self)
    have hskip := (hfirst.append (close :: rest)).skipBlanks
    have hitems := @itemsFrom_separated α β close item written outcome hclose (x :: xs)
      (List.cons_ne_nil x xs) hread
    generalize separated ((x :: xs).map written) = text at hlength hfirst hskip hitems ⊢
    cases hfirst with
    | @cons byte text _ hother =>
      have hbyte : byte ≠ close := by
        rintro rfl
        exact hother hclose
      unfold delimited
      rw [hskip, List.cons_append]
      dsimp only
      rw [if_neg hbyte, ← List.cons_append]
      refine hitems ?_ rest
      rw [List.length_append]
      simp only [List.length_cons] at hlength ⊢
      omega

end Sequences

/-! ## Texts of values -/

namespace Value

theorem encode_eq (v : Value) : v.encode = utf8 v.text.toList := toByteArray_data v.text

/-- The bytes of a member. -/
def memberText (member : String × Value) : List UInt8 :=
  utf8 (quote member.1).toList ++ 0x3a :: member.2.encode

theorem utf8_textOfItems (items : List Value) :
    utf8 (textOfItems items).toList = separated (items.map encode) := by
  induction items with
  | nil => rfl
  | cons item items ih =>
    cases items with
    | nil => exact (encode_eq item).symm
    | cons next items =>
      have htext : textOfItems (item :: next :: items) =
          item.text ++ "," ++ textOfItems (next :: items) := rfl
      rw [htext, String.toList_append, String.toList_append, utf8_append, utf8_append, ih,
        separated_cons_cons, encode_eq item, List.append_assoc]
      rfl

theorem utf8_textOfMembers (members : Members) :
    utf8 (textOfMembers members).toList = separated (members.map memberText) := by
  have hmember : ∀ key (v : Value), utf8 (quote key ++ ":" ++ v.text).toList =
      memberText (key, v) := by
    intro key v
    rw [String.toList_append, String.toList_append, utf8_append, utf8_append, memberText,
      encode_eq, List.append_assoc]
    rfl
  induction members with
  | nil => rfl
  | cons member members ih =>
    cases members with
    | nil => exact hmember member.1 member.2
    | cons next members =>
      have htext : textOfMembers (member :: next :: members) =
          quote member.1 ++ ":" ++ member.2.text ++ "," ++ textOfMembers (next :: members) := rfl
      rw [htext, String.toList_append, String.toList_append, utf8_append, utf8_append, ih,
        hmember, separated_cons_cons, List.append_assoc]
      rfl

theorem encode_array (items : List Value) :
    (Value.array items).encode = 0x5b :: (separated (items.map encode) ++ [0x5d]) := by
  rw [encode_eq, text, String.toList_append, String.toList_append, utf8_append, utf8_append,
    utf8_textOfItems]
  rfl

theorem encode_object (members : Members) :
    (Value.object members).encode = 0x7b :: (separated (members.map memberText) ++ [0x7d]) := by
  rw [encode_eq, text, String.toList_append, String.toList_append, utf8_append, utf8_append,
    utf8_textOfMembers]
  rfl

/-! ## Values -/

theorem begins_number (n : Number) :
    ∃ byte tail, (Value.number n).encode = byte :: tail ∧ BeginsNumber byte := by
  have hencode : (Value.number n).encode = utf8 (Numeral.ofNumber n).chars := by
    rw [encode_eq, ← Number.toList_text]
    rfl
  rw [hencode]
  exact (Numeral.ofNumber_means n).1.decimalText.begins

/-- A value is told from its first byte. -/
theorem begins_encode (v : Value) : Begins v.encode := by
  cases v with
  | null => exact .cons rfl (by decide)
  | bool b => cases b <;> exact .cons rfl (by decide)
  | number n =>
    obtain ⟨byte, tail, hencode, hbyte⟩ := begins_number n
    rw [hencode]
    exact hbyte.begins tail
  | string s =>
    rw [encode_eq, text, utf8_quote]
    exact .cons rfl (by decide)
  | array items =>
    rw [encode_array]
    exact .cons rfl (by decide)
  | object members =>
    rw [encode_object]
    exact .cons rfl (by decide)

theorem begins_memberText (member : String × Value) : Begins (memberText member) := by
  rw [memberText, utf8_quote]
  exact .cons rfl (by decide)

end Value

/-! ## Reading values -/

/-- A text that begins like a number is read as one. -/
theorem value_of_beginsNumber {byte : UInt8} {text : List UInt8} (h : BeginsNumber byte)
    (depth : Nat) :
    value depth (byte :: text) = (number (byte :: text)).map fun read => (.number read.1, read.2) := by
  have hskip : skipBlanks (byte :: text) = byte :: text := (h.begins text).skipBlanks
  have hother : ∀ {other tail}, byte :: text = other :: tail → BeginsNumber other :=
    fun heq => (List.cons.inj heq).1 ▸ h
  unfold value
  rw [hskip]
  split
  · next heq => exact absurd (hother heq) (by decide)
  · next heq => exact absurd (hother heq) (by decide)
  · next heq => exact absurd (hother heq) (by decide)
  · next heq => exact absurd (hother heq) (by decide)
  · next heq => exact absurd (hother heq) (by decide)
  · next heq => exact absurd (hother heq) (by decide)
  · cases number (byte :: text) <;> rfl

theorem value_number (n : Number) {rest : List UInt8} (hrest : Delimits rest) (depth : Nat) :
    value depth ((Value.number n).encode ++ rest) =
      (n.reread.map Value.number).map fun v => (v, rest) := by
  have hread := number_text n hrest
  have hencode : (Value.number n).encode = utf8 n.text.toList := (Value.number n).encode_eq
  obtain ⟨byte, tail, hbytes, hbegins⟩ := Value.begins_number n
  rw [hbytes] at hencode
  rw [← hencode] at hread
  rw [hbytes, List.cons_append, value_of_beginsNumber hbegins]
  rw [List.cons_append] at hread
  rw [hread]
  cases n.reread <;> rfl

theorem value_string (s : String) (rest : List UInt8) (depth : Nat) :
    value depth ((Value.string s).encode ++ rest) = .ok (.string s, rest) := by
  have hread := stringTail_escaped s rest
  rw [Value.encode_eq, Value.text, utf8_quote, List.cons_append, List.append_assoc]
  unfold value
  show (do
    let read ← stringTail (utf8 (s.toList.flatMap escapeChar) ++ 0x22 :: rest)
    return (Value.string read.1, read.2)) = _
  rw [hread]
  rfl

/-- The text of the value is read up to what follows it, with its numbers read again. -/
def IsReread (v : Value) : Prop :=
  ∀ (depth : Nat) {rest : List UInt8}, Delimits rest →
    value depth (v.encode ++ rest) = (v.reread depth).map fun w => (w, rest)

theorem isReread_array {items : List Value} (hitems : ∀ item ∈ items, IsReread item) :
    IsReread (.array items) := by
  intro depth rest _
  rw [Value.encode_array, List.cons_append, List.append_assoc]
  cases depth with
  | zero => rfl
  | succ depth =>
    have hread := @delimited_separated Value Value 0x5d (value depth) Value.encode
      (Value.reread depth) (.inl rfl) items (fun item _ => item.begins_encode)
      (fun item hitem _ hrest => hitems item hitem depth hrest) rest
    show (do
      let read ← delimited 0x5d (value depth) (separated (items.map Value.encode) ++ 0x5d :: rest)
      return (Value.array read.1, read.2)) = _
    rw [hread, Value.reread, Value.rereadItems_eq]
    cases items.mapM (Value.reread depth) <;> rfl

/-- A member is read with its key and its value read again. -/
theorem member_memberText {m : String × Value} (h : IsReread m.2) (depth : Nat) {rest : List UInt8}
    (hrest : Delimits rest) : member (value depth) (Value.memberText m ++ rest) =
      ((m.2.reread depth).map fun v => (m.1, v)).map fun m => (m, rest) := by
  unfold member Value.memberText
  rw [List.append_assoc, string_quote, ok_bind]
  show (do
    let read ← value depth (m.2.encode ++ rest)
    return ((m.1, read.1), read.2)) = _
  rw [h depth hrest]
  cases m.2.reread depth <;> rfl

theorem isReread_object {members : Members} (hkeys : (members.map Prod.fst).Nodup)
    (hmembers : ∀ m ∈ members, IsReread m.2) : IsReread (.object members) := by
  intro depth rest _
  rw [Value.encode_object, List.cons_append, List.append_assoc]
  cases depth with
  | zero => rfl
  | succ depth =>
    have hread := @delimited_separated (String × Value) (String × Value) 0x7d (member (value depth))
      Value.memberText _ (.inr rfl) members (fun m _ => Value.begins_memberText m)
      (fun m hm _ hrest => member_memberText (hmembers m hm) depth hrest) rest
    show (do
      let read ← delimited 0x7d (member (value depth))
        (separated (members.map Value.memberText) ++ 0x7d :: rest)
      return (Value.object (collectMembers read.1), read.2)) = _
    rw [hread, ← Value.rereadMembers_eq, Value.reread]
    cases hmembers : Value.rereadMembers depth members with
    | error fault => rfl
    | ok read =>
      -- The keys are those that were written.
      rw [← Value.map_fst_rereadMembers hmembers] at hkeys
      show Except.ok (Value.object (collectMembers read), rest) = _
      rw [collectMembers_of_nodup hkeys]
      rfl

/-- Every value is read so whose objects have no key twice. -/
theorem value_encode {v : Value} (h : v.DistinctKeys) : IsReread v := by
  induction h with
  | null =>
    intro depth rest _
    unfold value
    cases depth <;> rfl
  | bool b =>
    intro depth rest _
    unfold value
    cases depth <;> cases b <;> rfl
  | number n =>
    intro depth rest hrest
    rw [value_number n hrest, Value.reread]
  | string s =>
    intro depth rest _
    rw [value_string]
    cases depth <;> rfl
  | array _ ih => exact isReread_array ih
  | object hkeys _ ih => exact isReread_object hkeys ih

/-- A text of the boundary is read under the limit that holds there. -/
theorem Value.read_encode {v : Value} (h : v.DistinctKeys) :
    Value.read v.encode = v.reread nestingLimit := by
  have hread := @value_encode v h nestingLimit [] trivial
  rw [List.append_nil] at hread
  unfold Value.read wholly
  rw [hread]
  cases v.reread nestingLimit <;> rfl

end ServiceContract.Json
