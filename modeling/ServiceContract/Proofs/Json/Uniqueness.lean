import ServiceContract.Proofs.Json.ValueText

/-!
# The compact text determines the value

Two values with one text are one value, whatever keys their objects have: the first byte tells what
kind of value is written, numbers are known by their parts and strings by what they are read as, and in
a sequence a comma tells that another item comes. This is more than reading undoes, since a reader makes
one member of a key that is written twice and may take a floating-point number for a neighbour of it.
-/

namespace ServiceContract.Json

namespace Value

/-- What kind of value is written, by its first byte. -/
inductive Kind where
  /-- The null value. -/
  | null
  /-- A truth value. -/
  | bool
  /-- A number. -/
  | number
  /-- A text. -/
  | string
  /-- An array. -/
  | array
  /-- An object. -/
  | object
deriving DecidableEq

/-- The kind of a value. -/
def kind : Value → Kind
  | .null => .null
  | .bool _ => .bool
  | .number _ => .number
  | .string _ => .string
  | .array _ => .array
  | .object _ => .object

/-- The kind that a text begins with. -/
def leading : List UInt8 → Kind
  | 0x6e :: _ => .null
  | 0x74 :: _ => .bool
  | 0x66 :: _ => .bool
  | 0x22 :: _ => .string
  | 0x5b :: _ => .array
  | 0x7b :: _ => .object
  | _ => .number

theorem leading_of_beginsNumber {byte : UInt8} (h : BeginsNumber byte) (rest : List UInt8) :
    leading (byte :: rest) = .number := by
  have hother : ∀ {other tail}, byte :: rest = other :: tail → BeginsNumber other :=
    fun heq => (List.cons.inj heq).1 ▸ h
  unfold leading
  split
  · next heq => exact absurd (hother heq) (by decide)
  · next heq => exact absurd (hother heq) (by decide)
  · next heq => exact absurd (hother heq) (by decide)
  · next heq => exact absurd (hother heq) (by decide)
  · next heq => exact absurd (hother heq) (by decide)
  · next heq => exact absurd (hother heq) (by decide)
  · rfl

theorem leading_encode (v : Value) (rest : List UInt8) : leading (v.encode ++ rest) = v.kind := by
  cases v with
  | null => rfl
  | bool b => cases b <;> rfl
  | number n =>
    obtain ⟨byte, tail, hencode, hbyte⟩ := begins_number n
    rw [hencode, List.cons_append]
    exact leading_of_beginsNumber hbyte _
  | string s =>
    rw [encode_eq, text, utf8_quote]
    rfl
  | array items =>
    rw [encode_array]
    rfl
  | object members =>
    rw [encode_object]
    rfl

end Value

/-! ## Sequences -/

section Sequences

variable {α : Type} {close : UInt8} {written : α → List UInt8}

/-- If the items are determined by their texts, so is the sequence. -/
theorem separated_unique (hclose : close = 0x5d ∨ close = 0x7d)
    (hbegins : ∀ x, Begins (written x)) {xs ys : List α}
    (hitem : ∀ x ∈ xs, ∀ y rest rest', Delimits rest → Delimits rest' →
      written x ++ rest = written y ++ rest' → x = y ∧ rest = rest')
    {rest rest' : List UInt8}
    (h : separated (xs.map written) ++ close :: rest =
      separated (ys.map written) ++ close :: rest') : xs = ys ∧ rest = rest' := by
  have hnot : ∀ y ys tail tail', close :: tail ≠ separated ((y :: ys).map written) ++ tail' := by
    intro y ys tail tail' heq
    have hfirst := (@begins_separated α written y ys (hbegins y)).append tail'
    rw [← heq] at hfirst
    cases hfirst with
    | cons _ hother => exact hother hclose
  have hcomma : (0x2c : UInt8) ≠ close := by
    rcases hclose with rfl | rfl <;> decide
  induction xs generalizing ys with
  | nil =>
    cases ys with
    | nil => exact ⟨rfl, (List.cons.inj h).2⟩
    | cons y ys => exact absurd h (hnot y ys rest _)
  | cons x xs ih =>
    cases ys with
    | nil => exact absurd h.symm (hnot x xs rest' _)
    | cons y ys =>
      have hx := hitem x List.mem_cons_self y
      have hxs := fun z hz => hitem z (List.mem_cons_of_mem x hz)
      have hend : Delimits (close :: rest) ∧ Delimits (close :: rest') := ⟨.inr hclose, .inr hclose⟩
      have hgo : ∀ tail, Delimits (0x2c :: tail) := fun _ => Or.inl rfl
      cases xs with
      | nil =>
        cases ys with
        | nil =>
          obtain ⟨rfl, htail⟩ := hx _ _ hend.1 hend.2 h
          exact ⟨rfl, (List.cons.inj htail).2⟩
        | cons z zs =>
          rw [separated_cons_cons, List.append_assoc] at h
          obtain ⟨-, htail⟩ := hx _ _ hend.1 (hgo _) h
          exact absurd (List.cons.inj htail).1.symm hcomma
      | cons w ws =>
        rw [separated_cons_cons, List.append_assoc] at h
        cases ys with
        | nil =>
          obtain ⟨-, htail⟩ := hx _ _ (hgo _) hend.2 h
          exact absurd (List.cons.inj htail).1 hcomma
        | cons z zs =>
          rw [separated_cons_cons, List.append_assoc] at h
          obtain ⟨rfl, htail⟩ := hx _ _ (hgo _) (hgo _) h
          obtain ⟨hws, hrest⟩ := ih hxs (List.cons.inj htail).2
          exact ⟨by rw [hws], hrest⟩

end Sequences

/-! ## Values -/

namespace Value

theorem memberText_unique {m m' : String × Value} {rest rest' : List UInt8}
    (hvalue : ∀ w rest rest', Delimits rest → Delimits rest' →
      m.2.encode ++ rest = Value.encode w ++ rest' → m.2 = w ∧ rest = rest')
    (hrest : Delimits rest) (hrest' : Delimits rest')
    (h : memberText m ++ rest = memberText m' ++ rest') : m = m' ∧ rest = rest' := by
  unfold memberText at h
  rw [List.append_assoc, List.append_assoc, List.cons_append, List.cons_append] at h
  have hkey := congrArg Json.string h
  rw [string_quote, string_quote] at hkey
  obtain ⟨hkey, htail⟩ := Prod.mk.inj (Except.ok.inj hkey)
  obtain ⟨hv, hrests⟩ := hvalue m'.2 rest rest' hrest hrest' (List.cons.inj htail).2
  exact ⟨Prod.ext hkey hv, hrests⟩

theorem kind_eq_of_append_eq {v w : Value} {rest rest' : List UInt8}
    (h : v.encode ++ rest = w.encode ++ rest') : v.kind = w.kind := by
  rw [← leading_encode v rest, ← leading_encode w rest', h]

/-- Of two texts that begin with values, the values are one if the texts are. -/
theorem encode_append_unique {v w : Value} {rest rest' : List UInt8} (hrest : Delimits rest)
    (hrest' : Delimits rest') (h : v.encode ++ rest = w.encode ++ rest') :
    v = w ∧ rest = rest' := by
  induction v using Value.inductionOnParts generalizing w rest rest' with
  | null =>
    cases w with
    | null => exact ⟨rfl, List.append_cancel_left h⟩
    | _ => cases kind_eq_of_append_eq h
  | bool b =>
    cases w with
    | bool c =>
      obtain rfl : b = c := by
        cases b <;> cases c <;> first | rfl | exact absurd (List.cons.inj h).1 (by decide)
      exact ⟨rfl, List.append_cancel_left h⟩
    | _ => cases kind_eq_of_append_eq h
  | number n =>
    cases w with
    | number m =>
      rw [encode_eq, encode_eq, text, text] at h
      have hread := congrArg numberText h
      rw [numberText_text n hrest, numberText_text m hrest'] at hread
      obtain ⟨hparts, htail⟩ := Prod.mk.inj (Except.ok.inj hread)
      obtain rfl := Numeral.parts_ofNumber_injective hparts
      exact ⟨rfl, htail⟩
    | _ => cases kind_eq_of_append_eq h
  | string s =>
    cases w with
    | string t =>
      rw [encode_eq, encode_eq, text, text] at h
      have hread := congrArg Json.string h
      rw [string_quote, string_quote] at hread
      obtain ⟨rfl, htail⟩ := Prod.mk.inj (Except.ok.inj hread)
      exact ⟨rfl, htail⟩
    | _ => cases kind_eq_of_append_eq h
  | array items ih =>
    cases w with
    | array others =>
      rw [encode_array, encode_array, List.cons_append, List.cons_append, List.append_assoc,
        List.append_assoc] at h
      obtain ⟨rfl, htail⟩ := separated_unique (.inl rfl) begins_encode
        (fun item hitem _ _ _ hrest hrest' heq => ih item hitem hrest hrest' heq) (List.cons.inj h).2
      exact ⟨rfl, htail⟩
    | _ => cases kind_eq_of_append_eq h
  | object members ih =>
    cases w with
    | object others =>
      rw [encode_object, encode_object, List.cons_append, List.cons_append, List.append_assoc,
        List.append_assoc] at h
      obtain ⟨rfl, htail⟩ := separated_unique (.inr rfl) begins_memberText
        (fun m hm _ _ _ hrest hrest' heq =>
          memberText_unique (fun _ _ _ hrest hrest' heq => ih m hm hrest hrest' heq) hrest hrest' heq)
        (List.cons.inj h).2
      exact ⟨rfl, htail⟩
    | _ => cases kind_eq_of_append_eq h

/-- The text of a value determines it. -/
theorem encode_injective : Function.Injective encode := by
  intro v w h
  exact (@encode_append_unique v w [] [] trivial trivial (by rw [h])).1

end Value

end ServiceContract.Json
