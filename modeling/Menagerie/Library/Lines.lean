import Menagerie.Library.Search

/-!
# Lines

Text in lines that end with a carriage return and a line feed: splitting, joining, and the blank
line that ends a block of lines.
-/

namespace Menagerie.Lines

open Search List

/-- The end of a line. -/
def ending : List Char := ['\r', '\n']

/-- The lines of a text, the last one perhaps not ended. -/
@[simp] def split : List Char → List (List Char)
  | [] => []
  | '\r' :: '\n' :: rest => [] :: split rest
  | c :: rest =>
    match split rest with
    | [] => [[c]]
    | line :: more => (c :: line) :: more

def join : List (List Char) → List Char
  | [] => []
  | [line] => line
  | line :: next :: more => line ++ (ending ++ join (next :: more))

/-- Not blank, and without the start of an end. -/
structure Plain (line : List Char) : Prop where
  open_ended : '\r' ∉ line
  nonempty : line ≠ []

/-- Not blank, and without an end. -/
structure Whole (line : List Char) : Prop where
  closed : ¬ending <:+: line
  nonempty : line ≠ []

variable {line : List Char} {lines : List (List Char)}

theorem Plain.whole (plain : Plain line) : Whole line := by
  refine ⟨fun inside => plain.open_ended ?_, plain.nonempty⟩
  exact inside.subset mem_cons_self

/-! ## Splitting -/

theorem split_cons {c : Char} {rest : List Char} (going : ¬ending <+: c :: rest) :
    split (c :: rest) =
      match split rest with
      | [] => [[c]]
      | line :: more => (c :: line) :: more := by
  rw [split.eq_def]
  split
  · rename_i empty
    cases empty
  · rename_i tail same
    cases same
    exact absurd ⟨tail, rfl⟩ going
  · rename_i same
    cases same
    rfl

theorem not_ending_front {c : Char} (closed : ¬ending <:+: c :: line) (rest : List Char) :
    ¬ending <+: c :: (line ++ (ending ++ rest)) := by
  intro front
  obtain ⟨rfl, second⟩ := cons_prefix_cons.mp front
  cases line with
  | nil => simp [ending] at second
  | cons d line =>
    obtain ⟨rfl, -⟩ := cons_prefix_cons.mp second
    exact closed (prefix_append ['\r', '\n'] line).isInfix

theorem not_infix_of_cons {c : Char} (closed : ¬ending <:+: c :: line) : ¬ending <:+: line :=
  fun inside => closed (inside.trans (suffix_cons ..).isInfix)

theorem split_append (closed : ¬ending <:+: line) (rest : List Char) :
    split (line ++ (ending ++ rest)) = line :: split rest := by
  induction line with
  | nil => rfl
  | cons c line ih =>
    rw [cons_append, split_cons (not_ending_front closed rest),
      ih (not_infix_of_cons closed)]

theorem split_line (whole : Whole line) : split line = [line] := by
  obtain ⟨closed, nonempty⟩ := whole
  induction line with
  | nil => exact absurd rfl nonempty
  | cons c line ih =>
    rw [split_cons (fun front => closed front.isInfix)]
    cases line with
    | nil => rfl
    | cons d line => rw [ih (not_infix_of_cons closed) (cons_ne_nil d line)]

theorem split_join (whole : ∀ line ∈ lines, Whole line) : split (join lines) = lines := by
  induction lines with
  | nil => rfl
  | cons line lines ih =>
    rw [forall_mem_cons] at whole
    cases lines with
    | nil => exact split_line whole.1
    | cons next more => rw [join, split_append whole.1.closed, ih whole.2]

theorem split_head {text : List Char} {more : List (List Char)}
    (split_eq : split text = line :: more) : line <+: text := by
  fun_induction split text generalizing line more with
  | case1 => cases split_eq
  | case2 rest ih =>
    cases split_eq
    exact nil_prefix
  | case3 c rest going none ih =>
    cases split_eq
    exact cons_prefix_cons.mpr ⟨rfl, nil_prefix⟩
  | case4 c rest going first later some ih =>
    cases split_eq
    exact cons_prefix_cons.mpr ⟨rfl, ih some⟩

theorem split_closed (text : List Char) : ∀ line ∈ split text, ¬ending <:+: line := by
  fun_induction split text with
  | case1 => simp
  | case2 rest ih =>
    rw [forall_mem_cons]
    exact ⟨by simp [ending], ih⟩
  | case3 c rest going none ih => simp [ending, infix_cons_iff]
  | case4 c rest going first later some ih =>
    rw [some, forall_mem_cons] at ih
    rw [forall_mem_cons]
    refine ⟨fun inside => ?_, ih.2⟩
    rcases infix_cons_iff.mp inside with front | inside
    · have start : c :: first <+: c :: rest := cons_prefix_cons.mpr ⟨rfl, split_head some⟩
      obtain ⟨tail, same⟩ := front.trans start
      cases same
      exact going _ rfl rfl
    · exact ih.1 inside

/-! ## Joining -/

theorem join_append_ending (line : List Char) (lines : List (List Char)) :
    join (line :: lines) ++ ending = ((line :: lines).map (· ++ ending)).flatten := by
  induction lines generalizing line with
  | nil => simp [join]
  | cons next more ih =>
    rw [join, append_assoc, append_assoc, ih, map_cons (l := next :: more),
      flatten_cons (L := (next :: more).map (· ++ ending)), append_assoc]

theorem cut_blank_line (closed : ¬ending <:+: line) (rest : List Char) :
    cut (ending ++ ending) (line ++ (ending ++ ending ++ rest)) = some (line, rest) := by
  induction line with
  | nil => exact cut_needle ..
  | cons c line ih =>
    have elsewhere : ¬ending ++ ending <+: c :: (line ++ (ending ++ ending ++ rest)) := by
      intro front
      rw [append_assoc] at front
      exact not_ending_front closed _ ((prefix_append ..).trans front)
    rw [cons_append, cut_cons_of_not elsewhere, ih (not_infix_of_cons closed)]
    rfl

theorem cut_blank_append (closed : ¬ending <:+: line) {rest : List Char}
    (going : ¬ending <+: rest) : cut (ending ++ ending) (line ++ (ending ++ rest)) =
      (cut (ending ++ ending) rest).map (fun found => (line ++ (ending ++ found.1), found.2)) := by
  induction line with
  | nil =>
    have first : ¬['\r', '\n', '\r', '\n'] <+: '\r' :: ('\n' :: rest) := by
      intro front
      exact going (cons_prefix_cons.mp (cons_prefix_cons.mp front).2).2
    have second : ¬['\r', '\n', '\r', '\n'] <+: '\n' :: rest := by simp [cons_prefix_cons]
    change cut ['\r', '\n', '\r', '\n'] ('\r' :: '\n' :: rest) = _
    rw [cut_cons_of_not first, cut_cons_of_not second, Option.map_map]
    rfl
  | cons c line ih =>
    have elsewhere : ¬ending ++ ending <+: c :: (line ++ (ending ++ rest)) := by
      intro front
      exact not_ending_front closed _ ((prefix_append ..).trans front)
    rw [cons_append, cut_cons_of_not elsewhere, ih (not_infix_of_cons closed),
      Option.map_map]
    rfl

theorem not_ending_prefix_join {next : List Char} (whole : Whole next) (more : List (List Char))
    (rest : List Char) : ¬ending <+: join (next :: more) ++ (ending ++ rest) := by
  obtain ⟨closed, nonempty⟩ := whole
  cases next with
  | nil => exact absurd rfl nonempty
  | cons c next =>
    cases more with
    | nil => exact not_ending_front closed rest
    | cons other more =>
      rw [join, append_assoc, append_assoc]
      exact not_ending_front closed _

theorem cut_blank (whole : ∀ line ∈ lines, Whole line) (rest : List Char) :
    cut (ending ++ ending) (join lines ++ (ending ++ ending ++ rest)) =
      some (join lines, rest) := by
  induction lines with
  | nil => exact cut_needle ..
  | cons line lines ih =>
    rw [forall_mem_cons] at whole
    cases lines with
    | nil => exact cut_blank_line whole.1.closed rest
    | cons next more =>
      have going := not_ending_prefix_join (whole.2 next mem_cons_self) more (ending ++ rest)
      rw [← append_assoc ending] at going
      rw [join, append_assoc, append_assoc, cut_blank_append whole.1.closed going,
        ih whole.2]
      rfl

end Menagerie.Lines
