import Mathlib.Data.List.Infix

/-!
# Searching a sequence

The first occurrence of a needle in a text, as the text before it and the text after it, and when a
needle that was put into a text is found where it was put.
-/

namespace Menagerie.Search

open List

variable {Symbol : Type} [DecidableEq Symbol]

/-- What stands before and after the first occurrence of the needle. -/
def cut (needle : List Symbol) : List Symbol → Option (List Symbol × List Symbol)
  | [] => if needle = [] then some ([], []) else none
  | symbol :: rest =>
    if needle.isPrefixOf (symbol :: rest) then some ([], (symbol :: rest).drop needle.length)
    else (cut needle rest).map (fun found => (symbol :: found.1, found.2))

variable {head : Symbol} {tail before after rest : List Symbol}

theorem cut_cons_of_not {needle : List Symbol} {symbol : Symbol}
    (elsewhere : ¬needle <+: symbol :: rest) :
    cut needle (symbol :: rest) =
      (cut needle rest).map (fun found => (symbol :: found.1, found.2)) := by
  rw [cut, if_neg]
  rw [List.isPrefixOf_iff_prefix]
  exact elsewhere

theorem cut_needle (needle after : List Symbol) :
    cut needle (needle ++ after) = some ([], after) := by
  cases whole : needle ++ after with
  | nil =>
    obtain ⟨rfl, rfl⟩ := append_eq_nil_iff.mp whole
    rfl
  | cons symbol rest =>
    have front : needle <+: symbol :: rest := ⟨after, whole⟩
    rw [cut, if_pos (List.isPrefixOf_iff_prefix.mpr front), ← whole, drop_left]

/-- Text without the first symbol of the needle is passed. -/
theorem cut_append (absent : head ∉ before) : cut (head :: tail) (before ++ rest) =
    (cut (head :: tail) rest).map (fun found => (before ++ found.1, found.2)) := by
  induction before with
  | nil => simp
  | cons symbol before ih =>
    rw [mem_cons, not_or] at absent
    have elsewhere : ¬head :: tail <+: symbol :: (before ++ rest) := by
      intro front
      exact absent.1 (cons_prefix_cons.mp front).1
    rw [cons_append, cut_cons_of_not elsewhere, ih absent.2, Option.map_map]
    rfl

/-- A needle whose first symbol does not come again in it cannot overlap itself. -/
theorem cut_of_not_infix (single : head ∉ tail) (apart : ¬head :: tail <:+: before) :
    cut (head :: tail) (before ++ (head :: tail ++ after)) = some (before, after) := by
  induction before with
  | nil => exact cut_needle ..
  | cons symbol before ih =>
    have elsewhere : ¬head :: tail <+: symbol :: before ++ (head :: tail ++ after) := by
      intro front
      rcases Nat.le_total (head :: tail).length (symbol :: before).length with shorter | longer
      · exact apart (prefix_of_prefix_length_le front (prefix_append ..) shorter).isInfix
      · -- the text before the needle is a part of the needle, which then begins again inside itself
        have start := prefix_of_prefix_length_le (prefix_append ..) front longer
        obtain ⟨overlap, whole⟩ := start
        rw [← whole, prefix_append_right_inj] at front
        cases overlap with
        | nil =>
          rw [append_nil] at whole
          exact apart (whole ▸ infix_rfl)
        | cons first overlap =>
          rw [whole] at front
          have again := (cons_prefix_cons.mp front).1
          rw [cons_append, cons.injEq] at whole
          exact single (by rw [← whole.2, ← again]; simp)
    have later := ih (fun inside => apart (inside.trans (suffix_cons ..).isInfix))
    rw [cons_append] at elsewhere ⊢
    rw [cut_cons_of_not elsewhere, later]
    rfl

theorem cut_eq_none_of_length {needle text : List Symbol} (short : text.length < needle.length) :
    cut needle text = none := by
  induction text with
  | nil =>
    rw [cut, if_neg]
    rintro rfl
    exact absurd short (Nat.lt_irrefl 0)
  | cons symbol rest ih =>
    have elsewhere : ¬needle <+: symbol :: rest := by
      intro front
      have length := front.length_le
      omega
    rw [cut_cons_of_not elsewhere, ih (by rw [length_cons] at short; omega)]
    rfl

theorem cut_of_front {needle text front : List Symbol}
    (found : cut needle text = some (before, after)) (within : front <+: text)
    (short : front.length < before.length + needle.length) : cut needle front = none := by
  induction text generalizing before front with
  | nil =>
    rw [prefix_nil.mp within, cut]
    rw [cut] at found
    split at found
    · rename_i empty
      cases found
      simp [empty] at short
    · rename_i present
      rw [if_neg present]
  | cons symbol rest ih =>
    rw [cut] at found
    split at found
    · cases found
      exact cut_eq_none_of_length (by simpa using short)
    · rename_i elsewhere
      rw [List.isPrefixOf_iff_prefix] at elsewhere
      obtain ⟨⟨before, after⟩, later, same⟩ := Option.map_eq_some_iff.mp found
      cases same
      cases front with
      | nil =>
        rw [cut, if_neg]
        rintro rfl
        exact elsewhere nil_prefix
      | cons first front =>
        obtain ⟨rfl, within'⟩ := cons_prefix_cons.mp within
        rw [cut_cons_of_not (fun start => elsewhere (start.trans within)), ih later within' (by
          simp only [length_cons] at short; omega)]
        rfl

omit [DecidableEq Symbol] in
theorem prefix_append_cases {front first second : List Symbol}
    (within : front <+: first ++ second) :
    front.length < first.length ∨ ∃ more, front = first ++ more ∧ more <+: second := by
  rcases Nat.lt_or_ge front.length first.length with shorter | longer
  · exact .inl shorter
  · obtain ⟨more, rfl⟩ := prefix_of_prefix_length_le (prefix_append ..) within longer
    exact .inr ⟨more, rfl, (prefix_append_right_inj first).mp within⟩

end Menagerie.Search
