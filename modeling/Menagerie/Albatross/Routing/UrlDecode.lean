import Menagerie.Beaver.Text

/-!
# Percent decoding

`url_decode` and `url_decode_arena`, with the relation that they compute. A byte is the character
with its number.
-/

namespace Menagerie.Albatross

open Beaver List Option

/-- `hex_val`; `none` is its `-1`. -/
def hexVal (x : Char) : Option Nat :=
  if '0' ≤ x ∧ x ≤ '9' then some (x.toNat - '0'.toNat)
  else if 'a' ≤ x ∧ x ≤ 'f' then some (10 + x.toNat - 'a'.toNat)
  else if 'A' ≤ x ∧ x ≤ 'F' then some (10 + x.toNat - 'A'.toNat)
  else none

/-- `decode_into`: the text that it writes. -/
def decodeInto (plusIsSpace : Bool) : Text → Option Text
  | [] => some []
  | c :: rest =>
    if c = '+' ∧ plusIsSpace then (decodeInto plusIsSpace rest).map (' ' :: ·)
    else if c = '%' then
      match rest with
      | high :: low :: tail =>
        match hexVal high, hexVal low with
        | some hi, some lo => (decodeInto plusIsSpace tail).map (Char.ofNat (hi * 16 + lo) :: ·)
        | _, _ => none
      | _ => none
    else (decodeInto plusIsSpace rest).map (c :: ·)

/-- `url_decode`, into an arena. -/
def urlDecodeArena (text : Text) (plusIsSpace : Bool) : Option Text :=
  let needsRewrite := text.contains '%' || plusIsSpace && text.contains '+'
  if needsRewrite then decodeInto plusIsSpace text else some text

/-- `%` starts an escape, and every other character stands for itself. -/
inductive Decodes : Text → Text → Prop
  | nil : Decodes [] []
  | plain {c : Char} {rest out : Text} (literal : c ≠ '%') (later : Decodes rest out) :
      Decodes (c :: rest) (c :: out)
  | escape {high low : Char} {hi lo : Nat} {rest out : Text} (first : hexVal high = some hi)
      (second : hexVal low = some lo) (later : Decodes rest out) :
      Decodes ('%' :: high :: low :: rest) (Char.ofNat (hi * 16 + lo) :: out)

theorem decodeInto_of_decodes {text out : Text} (decodes : Decodes text out) :
    decodeInto false text = some out := by
  induction decodes with
  | nil => rfl
  | plain literal _ ih =>
    unfold decodeInto
    simp [literal, ih]
  | escape first second _ ih =>
    unfold decodeInto
    simp [first, second, ih]

theorem decodes_of_decodeInto {text out : Text} (decoded : decodeInto false text = some out) :
    Decodes text out := by
  fun_induction decodeInto false text generalizing out with
  | case1 =>
    cases decoded
    exact .nil
  | case2 c rest plus ih => simp at plus
  | case3 high low tail hi lo second first _ ih =>
    rw [map_eq_some_iff] at decoded
    obtain ⟨later, decoded, rfl⟩ := decoded
    exact .escape first second (ih decoded)
  | case4 => cases decoded
  | case5 => cases decoded
  | case6 c rest _ literal ih =>
    rw [map_eq_some_iff] at decoded
    obtain ⟨later, decoded, rfl⟩ := decoded
    exact .plain literal (ih decoded)

theorem decodes_self {text : Text} (literal : '%' ∉ text) : Decodes text text := by
  induction text with
  | nil => exact .nil
  | cons c rest ih =>
    rw [mem_cons, not_or] at literal
    exact .plain (Ne.symm literal.1) (ih literal.2)

theorem Decodes.unique {text first second : Text} (left : Decodes text first)
    (right : Decodes text second) : first = second := by
  have same := decodeInto_of_decodes left
  rw [decodeInto_of_decodes right, some.injEq] at same
  exact same.symm

theorem urlDecodeArena_eq_some_iff {text out : Text} :
    urlDecodeArena text false = some out ↔ Decodes text out := by
  unfold urlDecodeArena
  by_cases escaped : '%' ∈ text
  · simp only [contains_iff_mem.mpr escaped, Bool.true_or, if_true]
    exact ⟨decodes_of_decodeInto, decodeInto_of_decodes⟩
  · have absent : text.contains '%' = false := by simpa using escaped
    simp only [absent, Bool.false_and, Bool.or_self, Bool.false_eq_true, if_false,
      some.injEq]
    constructor
    · intro same
      exact same ▸ decodes_self escaped
    · intro decodes
      exact (decodes_self escaped).unique decodes

/-! ## Encodings -/

/-- `url_decode`. -/
def urlDecode (text : Text) (plusIsSpace : Bool) : Option Text := decodeInto plusIsSpace text

/-- From left to right, a `%` comes that two hexadecimal digits do not follow. -/
inductive Broken : Text → Prop
  | here {rest : Text} (open_ended : ∀ high low tail, rest = high :: low :: tail →
      hexVal high = none ∨ hexVal low = none) : Broken ('%' :: rest)
  | plain {c : Char} {rest : Text} (literal : c ≠ '%') (later : Broken rest) : Broken (c :: rest)
  | escape {high low : Char} {hi lo : Nat} {rest : Text} (first : hexVal high = some hi)
      (second : hexVal low = some lo) (later : Broken rest) : Broken ('%' :: high :: low :: rest)

/-- A percent-encoding of a text, with digits of either case. -/
inductive Encodes (plusIsSpace : Bool) : Text → Text → Prop
  | nil : Encodes plusIsSpace [] []
  | plain {c : Char} {out rest : Text} (literal : c ≠ '%') (noPlus : plusIsSpace = true → c ≠ '+')
      (later : Encodes plusIsSpace out rest) : Encodes plusIsSpace (c :: out) (c :: rest)
  | escape {c high low : Char} {out rest : Text} (first : hexVal high = some (c.toNat / 16))
      (second : hexVal low = some (c.toNat % 16)) (later : Encodes plusIsSpace out rest) :
      Encodes plusIsSpace (c :: out) ('%' :: high :: low :: rest)

variable {plusIsSpace : Bool} {text out : Text}

/-- The escape of a character is a quotient and a remainder. -/
theorem ofNat_div_mod (c : Char) : Char.ofNat (c.toNat / 16 * 16 + c.toNat % 16) = c := by
  have whole : c.toNat / 16 * 16 + c.toNat % 16 = c.toNat := by omega
  rw [whole, Char.ofNat_toNat]

theorem decodeInto_of_encodes (encodes : Encodes plusIsSpace out text) :
    decodeInto plusIsSpace text = some out := by
  induction encodes with
  | nil => rfl
  | plain literal noPlus _ ih =>
    unfold decodeInto
    have kept : ¬(_ = '+' ∧ plusIsSpace = true) := fun plus => noPlus plus.2 plus.1
    rw [if_neg kept, if_neg literal, ih]
    rfl
  | escape first second _ ih =>
    unfold decodeInto
    simp [first, second, ih, ofNat_div_mod]

theorem length_decodeInto (decoded : decodeInto plusIsSpace text = some out) :
    out.length ≤ text.length := by
  fun_induction decodeInto plusIsSpace text generalizing out with
  | case1 =>
    cases decoded
    exact Nat.le_refl _
  | case4 => cases decoded
  | case5 => cases decoded
  | case2 | case3 | case6 =>
    rename_i ih
    obtain ⟨later, before, rfl⟩ := map_eq_some_iff.mp decoded
    have shorter := ih before
    simp only [length_cons]
    omega

/-- The scan stops exactly at a broken escape. -/
theorem decodeInto_eq_none_iff : decodeInto plusIsSpace text = none ↔ Broken text := by
  fun_induction decodeInto plusIsSpace text with
  | case1 =>
    constructor
    · intro stopped
      cases stopped
    · intro broken
      cases broken
  | case2 c rest plus ih =>
    obtain ⟨rfl, -⟩ := plus
    rw [map_eq_none_iff, ih]
    constructor
    · exact .plain (by decide)
    · intro broken
      cases broken with
      | plain _ later => exact later
  | case3 high low tail hi lo second first _ ih =>
    rw [map_eq_none_iff, ih]
    constructor
    · exact .escape first second
    · intro broken
      cases broken with
      | here open_ended =>
        rcases open_ended high low tail rfl with none | none
        · rw [first] at none
          cases none
        · rw [second] at none
          cases none
      | plain literal => exact absurd rfl literal
      | escape _ _ later => exact later
  | case4 high low tail undecoded =>
    refine iff_of_true rfl (.here ?_)
    rintro _ _ _ ⟨⟩
    cases first : hexVal high with
    | none => exact .inl rfl
    | some hi =>
      cases second : hexVal low with
      | none => exact .inr rfl
      | some lo => exact (undecoded hi lo first second).elim
  | case5 rest short => exact iff_of_true rfl (.here fun high low tail same =>
      (short high low tail same).elim)
  | case6 c rest _ literal ih =>
    rw [map_eq_none_iff, ih]
    constructor
    · exact .plain literal
    · intro broken
      cases broken with
      | here | escape => exact absurd rfl literal
      | plain _ later => exact later

theorem encodes_self (literal : '%' ∉ text) (noPlus : plusIsSpace = true → '+' ∉ text) :
    Encodes plusIsSpace text text := by
  induction text with
  | nil => exact .nil
  | cons c rest ih =>
    rw [mem_cons, not_or] at literal
    simp only [mem_cons, not_or] at noPlus
    exact .plain (Ne.symm literal.1) (fun plus => Ne.symm (noPlus plus).1)
      (ih literal.2 (fun plus => (noPlus plus).2))

theorem urlDecodeArena_eq (text : Text) (plusIsSpace : Bool) :
    urlDecodeArena text plusIsSpace = urlDecode text plusIsSpace := by
  unfold urlDecodeArena urlDecode
  dsimp only
  split
  · rfl
  · rename_i plain
    simp only [Bool.or_eq_true, Bool.and_eq_true, contains_iff_mem, not_or, not_and] at plain
    rw [decodeInto_of_encodes (encodes_self plain.1 plain.2)]

/-- `url_decode` fails exactly at a broken escape, never lengthens a text and inverts
percent-encoding; `url_decode_arena` agrees. -/
theorem url_decode_correct (text : Text) (plusIsSpace : Bool) :
    (urlDecode text plusIsSpace = none ↔ Broken text) ∧
    (∀ out, urlDecode text plusIsSpace = some out → out.length ≤ text.length) ∧
    (∀ out, Encodes plusIsSpace out text → urlDecode text plusIsSpace = some out) ∧
    urlDecodeArena text plusIsSpace = urlDecode text plusIsSpace :=
  ⟨decodeInto_eq_none_iff, fun _ => length_decodeInto, fun _ => decodeInto_of_encodes,
    urlDecodeArena_eq text plusIsSpace⟩

end Menagerie.Albatross
