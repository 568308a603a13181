import Menagerie.Albatross.Multipart

/-!
# Multipart bodies cut short

`read_multipart` at a proper front of an encoding. Its loop ends without an error where the text
ends, so a text that is cut right behind a delimiter is taken for a complete one.
-/

namespace Menagerie.Albatross

open Beaver Search List

/-- The first parts of an encoding, with the delimiter behind them. -/
def encodeFirst (boundary : Text) (parts : List Part) : Text :=
  (parts.map (encodePart boundary)).flatten ++ (dashes ++ boundary)

def Refused (result : Except BodyError (List MultipartField)) : Prop :=
  ∃ detail, result = .error (.multipart detail)

/-- What follows the first delimiter of `encodeFirst`. -/
def firstTail (boundary : Text) : List Part → Text
  | [] => []
  | part :: rest => crlf ++ (Lines.join (headLines part) ++ (crlf ++ crlf ++
      (part.field.value ++ (crlf ++ (dashes ++ boundary) ++ firstTail boundary rest))))

theorem encodeFirst_eq (boundary : Text) (parts : List Part) :
    encodeFirst boundary parts = dashes ++ boundary ++ firstTail boundary parts := by
  induction parts with
  | nil => simp [encodeFirst, firstTail]
  | cons part rest ih =>
    unfold encodeFirst at ih ⊢
    rw [map_cons, flatten_cons, append_assoc, ih, encodePart, firstTail]
    simp only [append_assoc]

theorem refused_map {result : Except BodyError (List MultipartField)}
    (wrap : List MultipartField → List MultipartField) : Refused (result.map wrap) ↔
      Refused result := by
  cases result with
  | error error => rfl
  | ok fields => simp [Refused, Except.map]

/-! ## One part -/

section Part

variable {boundary : Text} {part : Part} {fuel : Nat} {rest : Text}

theorem readParts_crlf (rest : Text) : readParts (dashes ++ boundary) (fuel + 1) (crlf ++ rest) =
    match cut (crlf ++ crlf) rest with
    | none => .error (.multipart "unterminated headers".toList)
    | some (headers, after) =>
      match cut (crlf ++ (dashes ++ boundary)) after with
      | none => .error (.multipart "unterminated part".toList)
      | some (value, next) =>
        (readParts (dashes ++ boundary) fuel next).map (readPart headers value :: ·) := by
  have inside : ¬dashes.isPrefixOf (crlf ++ rest) = true := by simp [dashes, crlf]
  rw [readParts, if_neg (by simp [crlf]), if_neg inside]
  rfl

theorem cut_headLines (admissible : part.Admissible boundary) (more : Text) :
    cut (crlf ++ crlf) (Lines.join (headLines part) ++ (crlf ++ crlf ++ more)) =
      some (Lines.join (headLines part), more) :=
  Lines.cut_blank (headLines_whole admissible) more

theorem readParts_part (plain : '\r' ∉ boundary) (admissible : part.Admissible boundary)
    {tail : Text} (within : rest <+: Lines.join (headLines part) ++ (crlf ++ crlf ++
      (part.field.value ++ (crlf ++ (dashes ++ boundary) ++ tail)))) :
    (rest.length < (Lines.join (headLines part) ++ (crlf ++ crlf ++ (part.field.value ++
        (crlf ++ (dashes ++ boundary))))).length ∧
      Refused (readParts (dashes ++ boundary) (fuel + 1) (crlf ++ rest))) ∨
    ∃ next, rest = Lines.join (headLines part) ++ (crlf ++ crlf ++ (part.field.value ++
        (crlf ++ (dashes ++ boundary) ++ next))) ∧ next <+: tail ∧
      (Refused (readParts (dashes ++ boundary) (fuel + 1) (crlf ++ rest)) ↔
        Refused (readParts (dashes ++ boundary) fuel next)) := by
  rw [readParts_crlf]
  have head := cut_headLines admissible (part.field.value ++ (crlf ++ (dashes ++ boundary) ++ tail))
  have split := within
  rw [← append_assoc _ (crlf ++ crlf)] at split
  rcases prefix_append_cases split with short | ⟨more, rfl, within'⟩
  · left
    rw [length_append] at short
    rw [cut_of_front head within short]
    refine ⟨?_, _, rfl⟩
    rw [← append_assoc, length_append, length_append]
    omega
  · rw [append_assoc, cut_headLines admissible]
    dsimp only
    have value := cut_value plain admissible tail
    have split := within'
    rw [← append_assoc] at split
    rcases prefix_append_cases split with short | ⟨next, rfl, later⟩
    · left
      rw [length_append] at short
      rw [cut_of_front value within' short]
      refine ⟨?_, _, rfl⟩
      simp only [length_append] at short ⊢
      omega
    · right
      refine ⟨next, by simp only [append_assoc], later, ?_⟩
      rw [append_assoc, cut_value plain admissible]
      exact refused_map _

end Part

/-! ## All parts -/

/-- A single character is neither a delimiter nor a head. -/
theorem refused_singleton (delim : Text) (fuel : Nat) (c : Char) :
    Refused (readParts delim (fuel + 1) [c]) := by
  have skipped : skipCrlf [c] = [c] := by
    unfold skipCrlf
    split
    · rename_i same
      cases same
    · rfl
  rw [readParts, if_neg (by simp), if_neg (by simp [dashes]), skipped,
    cut_eq_none_of_length (by simp [crlf])]
  exact ⟨_, rfl⟩

/-- A text of at most one character is refused unless it ends behind the delimiter. -/
theorem refused_short_iff {boundary rest : Text} {fuel : Nat} (parts : List Part)
    (short : rest.length < 2) (enough : rest.length ≤ fuel) :
    Refused (readParts (dashes ++ boundary) fuel rest) ↔
      ∀ first, first <+: parts → rest ≠ firstTail boundary first := by
  cases rest with
  | nil =>
    refine iff_of_false ?_ (fun apart => apart [] nil_prefix rfl)
    rintro ⟨detail, refused⟩
    cases fuel <;> cases refused
  | cons c rest =>
    cases rest with
    | nil =>
      cases fuel with
      | zero => cases enough
      | succ fuel =>
        refine iff_of_true (refused_singleton _ fuel c) ?_
        intro first _
        cases first <;> simp [firstTail, crlf]
    | cons next rest =>
      simp only [length_cons] at short
      omega

theorem refused_readParts_iff {boundary : Text} {parts : List Part} {rest : Text} {fuel : Nat}
    (plain : '\r' ∉ boundary) (admissible : ∀ part ∈ parts, part.Admissible boundary)
    (within : rest <+: encodeTail boundary parts) (proper : rest ≠ encodeTail boundary parts)
    (enough : rest.length ≤ fuel) :
    Refused (readParts (dashes ++ boundary) fuel rest) ↔
      ∀ first, first <+: parts → rest ≠ firstTail boundary first := by
  induction parts generalizing rest fuel with
  | nil =>
    refine refused_short_iff [] ?_ enough
    have length := within.length_le
    have differs : rest.length ≠ dashes.length := fun same => proper (within.eq_of_length same)
    change rest.length ≤ 2 at length
    change rest.length ≠ 2 at differs
    omega
  | cons part parts ih =>
    rw [forall_mem_cons] at admissible
    rcases prefix_append_cases within with short | ⟨more, rfl, within'⟩
    · exact refused_short_iff _ short enough
    cases fuel with
    | zero => simp [crlf] at enough
    | succ fuel =>
      rcases readParts_part plain admissible.1 within' with ⟨short, refused⟩ |
        ⟨next, rfl, later, same⟩
      · refine iff_of_true refused ?_
        intro first front whole
        cases first with
        | nil => simp [firstTail, crlf] at whole
        | cons other first =>
          obtain ⟨rfl, -⟩ := cons_prefix_cons.mp front
          rw [firstTail, append_cancel_left_eq] at whole
          rw [whole] at short
          simp only [length_append] at short
          omega
      · have shorter : next.length ≤ fuel := by
          simp only [length_append, crlf, length_cons, length_nil] at enough
          omega
        rw [same, ih admissible.2 later (fun whole => proper (by rw [whole, encodeTail])) shorter]
        constructor
        · intro apart first front whole
          cases first with
          | nil => simp [firstTail, crlf] at whole
          | cons other first =>
            obtain ⟨rfl, before⟩ := cons_prefix_cons.mp front
            simp only [firstTail, append_cancel_left_eq] at whole
            exact apart first before whole
        · intro apart first front whole
          refine apart (part :: first) (cons_prefix_cons.mpr ⟨rfl, front⟩) ?_
          rw [whole, firstTail]

/-- A proper front of an encoding is refused exactly when it does not end right behind a delimiter.
-/
theorem truncated_multipart_iff {boundary : Text} {parts : List Part} {body : Body} {limit : Nat}
    (nonempty : boundary ≠ []) (plain : '\r' ∉ boundary ∧ '\n' ∉ boundary)
    (admissible : ∀ part ∈ parts, part.Admissible boundary)
    (within : body.flatten <+: encodeMultipart boundary parts)
    (proper : body.flatten ≠ encodeMultipart boundary parts)
    (sufficient : body.flatten.length ≤ limit) :
    Refused (readMultipart limit boundary body) ↔
      ∀ first, first <+: parts → body.flatten ≠ encodeFirst boundary first := by
  have drained : drain limit body = .ok body.flatten := by
    rw [drain, drainFrom_eq_ok (by simpa using sufficient), nil_append]
  rw [readMultipart, if_neg nonempty, drained]
  rw [encodeMultipart_eq] at within proper
  simp only [encodeFirst_eq]
  generalize body.flatten = text at within proper
  rcases prefix_append_cases within with short | ⟨rest, rfl, within'⟩
  · rw [cut_eq_none_of_length short]
    refine iff_of_true ⟨_, rfl⟩ ?_
    intro first _ whole
    rw [whole, length_append] at short
    omega
  · rw [cut_needle]
    have loop := refused_readParts_iff plain.1 admissible within'
      (fun whole => proper (by rw [whole])) (Nat.le_refl rest.length)
    simp only [ne_eq, append_cancel_left_eq]
    exact loop

/-- A body that ends inside a value, where a delimiter might begin, and one that ends inside a
header line are refused. -/
theorem truncated_multipart_inside :
    Refused (readMultipart 1000 "z".toList
      (Body.owned ((encodeMultipart "z".toList fileAndText).take 98))) ∧
    Refused (readMultipart 1000 "z".toList
      (Body.owned ((encodeMultipart "z".toList fileAndText).take 130))) := by
  have refused : ∀ cut ∈ [98, 130], Refused (readMultipart 1000 "z".toList
      (Body.owned ((encodeMultipart "z".toList fileAndText).take cut))) := by
    intro cut member
    have length : ((encodeMultipart "z".toList fileAndText).take cut).length ≤ 1000 :=
      (length_take_le' _ _).trans (by decide +kernel)
    have apart : ∀ cut ∈ [98, 130], (encodeMultipart "z".toList fileAndText).take cut ≠
        encodeMultipart "z".toList fileAndText ∧ ∀ first ∈ fileAndText.inits,
        (encodeMultipart "z".toList fileAndText).take cut ≠ encodeFirst "z".toList first := by
      decide +kernel
    obtain ⟨proper, inside⟩ := apart cut member
    refine (truncated_multipart_iff (by decide) (by decide) fileAndText_admissible ?_ ?_ ?_).mpr ?_
    all_goals rw [Body.flatten_owned]
    · exact take_prefix _ _
    · exact proper
    · exact length
    · exact fun first front => inside first ((mem_inits _ _).mpr front)
  exact ⟨refused 98 (by decide), refused 130 (by decide)⟩

/-- A body that ends behind its second delimiter is read as its first part. -/
theorem truncated_multipart_accepted :
    encodeFirst "z".toList (fileAndText.take 1) <+: encodeMultipart "z".toList fileAndText ∧
    encodeFirst "z".toList (fileAndText.take 1) ≠ encodeMultipart "z".toList fileAndText ∧
    readMultipart 1000 "z".toList (Body.owned (encodeFirst "z".toList (fileAndText.take 1))) =
      .ok ((fileAndText.take 1).map Part.field) ∧
    ¬Refused (readMultipart 1000 "z".toList
      (Body.owned (encodeFirst "z".toList (fileAndText.take 1)))) := by
  have read : readMultipart 1000 "z".toList
      (Body.owned (encodeFirst "z".toList (fileAndText.take 1))) =
        .ok ((fileAndText.take 1).map Part.field) := by decide +kernel
  refine ⟨⟨_, rfl⟩, by decide +kernel, read, ?_⟩
  rintro ⟨detail, refused⟩
  rw [read] at refused
  cases refused

end Menagerie.Albatross
