import Mathlib.Data.List.Basic

/-!
# The builder of a table

`Table` stores its cells by column. `headers(...)` resizes the columns to the new headers and does
not clear them, so the values of earlier rows stay in the columns that it keeps. `add_row(...)`
formats and appends its values one after the other, so a formatter that throws leaves the values
before it in their columns. Memory is taken to suffice.
-/

namespace Menagerie.Chameleon

open List

/-- A sequence of bytes. -/
abbrev Bytes := List UInt8

/-- `Table`; what `headers` and `add_row` read and write. -/
structure Table where
  headers : List Bytes := []
  cells : List (List Bytes) := []
  deriving DecidableEq

/-- The values formatted before a formatter throws (`none`). -/
def formatted : List (Option Bytes) → List Bytes
  | some text :: rest => text :: formatted rest
  | _ => []

/-- One more value in each of the first columns. -/
def appendValues : List (List Bytes) → List Bytes → List (List Bytes)
  | column :: columns, text :: texts => (column ++ [text]) :: appendValues columns texts
  | columns, _ => columns

namespace Table

/-- `Table::headers`. -/
def withHeaders (table : Table) (names : List Bytes) : Table where
  headers := names
  cells := table.cells.take names.length ++ List.replicate (names.length - table.cells.length) []

/-- `Table::add_row`; throws unless there is one value for each column. -/
def addRow (table : Table) (values : List (Option Bytes)) : Table :=
  if table.cells.length ≠ values.length then table
  else { table with cells := appendValues table.cells (formatted values) }

end Table

/-- The calls on a builder. -/
inductive Call
  | headers (names : List Bytes)
  | addRow (values : List (Option Bytes))

/-- The calls on one builder, the latest first. -/
abbrev History := List Call

namespace History

/-- The builder after the calls. -/
def run : History → Table
  | [] => {}
  | .headers names :: earlier => (run earlier).withHeaders names
  | .addRow values :: earlier => (run earlier).addRow values

/-- The number of columns of the last `headers(...)`. -/
def width : History → Nat
  | [] => 0
  | .headers names :: _ => names.length
  | .addRow _ :: earlier => width earlier

/-- The rows added since the last `headers(...)` without a throw. -/
def rows : History → List (List Bytes)
  | [] => []
  | .headers _ :: _ => []
  | .addRow values :: earlier =>
    if values.length = width earlier ∧ none ∉ values then rows earlier ++ [formatted values]
    else rows earlier

/-- The columns that the last `headers(...)` kept. -/
def kept : History → List (List Bytes)
  | [] => []
  | .headers names :: earlier => (run earlier).cells.take names.length
  | .addRow _ :: earlier => kept earlier

/-- Since the last `headers(...)` a formatter has thrown behind a first value. -/
def Torn : History → Prop
  | [] => False
  | .headers _ :: _ => False
  | .addRow values :: earlier => Torn earlier ∨
    values.length = width earlier ∧ none ∈ values ∧ formatted values ≠ []

/-- The columns are those of the rows since the last `headers(...)`. -/
structure Intact (history : History) : Prop where
  length : ∀ column ∈ (run history).cells, column.length = (rows history).length
  cell : ∀ c < (run history).cells.length, ∀ r < (rows history).length,
    (run history).cells[c]?.bind (·[r]?) = (rows history)[r]?.bind (·[c]?)

/-- What was appended to a column since the last `headers(...)`. -/
def added (c : Nat) : History → List Bytes
  | [] => []
  | .headers _ :: _ => []
  | .addRow values :: earlier =>
    if values.length = width earlier then added c earlier ++ (formatted values)[c]?.toList
    else added c earlier

/-- Without an exception all values are formatted. -/
theorem formatted_length {values : List (Option Bytes)} (sound : none ∉ values) :
    (formatted values).length = values.length := by
  fun_induction formatted values with
  | case1 text rest ih => simp [ih (not_mem_of_not_mem_cons sound)]
  | case2 values other =>
    cases values with
    | nil => rfl
    | cons head tail => cases head with
      | none => exact absurd mem_cons_self sound
      | some text => exact absurd rfl (other text tail)

/-- The number of columns stays. -/
theorem length_appendValues (columns : List (List Bytes)) (texts : List Bytes) :
    (appendValues columns texts).length = columns.length := by
  fun_induction appendValues columns texts with
  | case1 column columns text texts ih => simp [ih]
  | case2 => rfl

/-- and each column gets the value of its place. -/
theorem getElem?_appendValues (columns : List (List Bytes)) (texts : List Bytes) (c : Nat) :
    (appendValues columns texts)[c]? = columns[c]?.map (· ++ texts[c]?.toList) := by
  fun_induction appendValues columns texts generalizing c with
  | case1 column columns text texts ih => cases c <;> simp [ih]
  | case2 columns texts short =>
    cases columns with
    | nil => simp
    | cons column rest => cases texts with
      | nil => simp
      | cons text others => exact absurd rfl (short column rest text others rfl)

/-- Every row has a value for each column. -/
theorem rows_length {history : History} : ∀ row ∈ rows history, row.length = width history := by
  fun_induction rows history with
  | case1 | case2 => simp
  | case3 values earlier fits ih =>
    intro row member
    rcases mem_append.mp member with before | here
    · exact ih row before
    · rw [mem_singleton.mp here, formatted_length fits.2]
      exact fits.1
  | case4 values earlier _ ih => exact ih

section

variable (history : History)

include history

/-- No more columns are kept than there are headers. -/
theorem kept_length : (kept history).length ≤ width history := by
  fun_induction kept history with
  | case1 => exact Nat.le_refl 0
  | case2 names earlier => exact length_take_le _ _
  | case3 values earlier ih => exact ih

/-- There is a column for each header. -/
theorem cells_length : (run history).cells.length = width history := by
  fun_induction run history with
  | case1 => rfl
  | case2 names earlier ih =>
    simp [Table.withHeaders, width]
    omega
  | case3 values earlier ih =>
    rw [Table.addRow, width]
    split
    · exact ih
    · rw [length_appendValues, ih]

/-- A column has what was kept, then what was added. -/
theorem cells_get {c : Nat} (inside : c < width history) :
    (run history).cells[c]? = some ((kept history).getD c [] ++ added c history) := by
  fun_induction run history with
  | case1 => exact absurd inside (Nat.not_lt_zero c)
  | case2 names earlier ih =>
    have short : c < names.length := inside
    rw [Table.withHeaders, kept, added, getD_eq_getElem?_getD]
    by_cases old : c < (run earlier).cells.length
    · rw [getElem?_append_left (by simp; omega)]
      simp [old, short]
    · have absent : (run earlier).cells[c]? = none := getElem?_eq_none (by omega)
      rw [getElem?_append_right (by simp; omega), getElem?_replicate,
        if_pos (by simp; omega)]
      simp [absent, getElem?_take]
  | case3 values earlier ih =>
    rw [Table.addRow, kept, added, cells_length earlier]
    split
    · rename_i other
      rw [if_neg fun same => other same.symm]
      exact ih inside
    · rw [if_pos (by omega), getElem?_appendValues, ih inside]
      simp

/-- Every row adds a value to each column. -/
theorem rows_length_le {c : Nat} (inside : c < width history) :
    (rows history).length ≤ (added c history).length := by
  fun_induction rows history with
  | case1 | case2 => exact Nat.le_refl _
  | case3 values earlier fits ih =>
    have short : c < (formatted values).length := by
      rw [formatted_length fits.2, fits.1]
      exact inside
    have fewer := ih inside
    simpa [added, fits.1, short] using fewer
  | case4 values earlier thrown ih =>
    have fewer := ih inside
    rw [added]
    split
    · rw [length_append]
      exact Nat.le_add_right_of_le fewer
    · exact fewer

/-- A torn row adds a value to the first column. -/
theorem rows_length_lt (torn : Torn history) :
    0 < width history ∧ (rows history).length < (added 0 history).length := by
  fun_induction rows history with
  | case1 | case2 => exact torn.elim
  | case3 values earlier fits ih =>
    obtain ⟨wide, fewer⟩ := ih (torn.resolve_right fun bad => fits.2 bad.2.1)
    have short : 0 < (formatted values).length := by
      rw [formatted_length fits.2, fits.1]
      exact wide
    refine ⟨wide, ?_⟩
    simpa [added, fits.1, short] using fewer
  | case4 values earlier thrown ih =>
    rw [added]
    rcases torn with before | ⟨count, bad, present⟩
    · obtain ⟨wide, fewer⟩ := ih before
      refine ⟨wide, ?_⟩
      split
      · rw [length_append]
        exact Nat.lt_add_right _ fewer
      · exact fewer
    · have wide : 0 < width earlier := count ▸ length_pos_of_mem bad
      have fewer := rows_length_le earlier wide
      have first : 0 < (formatted values).length := length_pos_iff.mpr present
      refine ⟨wide, ?_⟩
      rw [if_pos count, length_append]
      simp [first]
      omega

/-- If no row is torn, the rows are all that was added. -/
theorem added_eq (whole : ¬ Torn history) {c : Nat} (inside : c < width history) :
    added c history = (rows history).map (·.getD c []) := by
  fun_induction rows history with
  | case1 | case2 => rfl
  | case3 values earlier fits ih =>
    have count : (formatted values).length = width earlier :=
      (formatted_length fits.2).trans fits.1
    have short : c < (formatted values).length := count ▸ inside
    rw [added, if_pos fits.1, ih (fun torn => whole (.inl torn)) inside, map_append]
    simp [short]
  | case4 values earlier thrown ih =>
    rw [added, ih (fun torn => whole (.inl torn)) inside]
    split
    · rename_i count
      have bad : none ∈ values := by
        by_contra sound
        exact thrown ⟨count, sound⟩
      have nothing : formatted values = [] := by
        by_contra present
        exact whole (.inr ⟨count, bad, present⟩)
      simp [nothing]
    · rfl

/-- The rows stay intact exactly if the last `headers(...)` kept no column with a value and no
formatter has thrown since behind the first value of its row. -/
theorem intact_iff :
    Intact history ↔ (∀ column ∈ kept history, column = []) ∧ ¬ Torn history := by
  constructor
  · intro intact
    have lengths : ∀ c < width history,
        ((kept history).getD c []).length + (added c history).length = (rows history).length := by
      intro c inside
      have length := intact.length _ (mem_of_getElem? (cells_get history inside))
      rwa [length_append] at length
    constructor
    · intro column member
      obtain ⟨c, inside, rfl⟩ := mem_iff_getElem.mp member
      have short := Nat.lt_of_lt_of_le inside (kept_length history)
      have fewer := rows_length_le history short
      have length := lengths c short
      rw [getD_eq_getElem?_getD, getElem?_eq_getElem inside, Option.getD_some] at length
      exact eq_nil_of_length_eq_zero (by omega)
    · intro torn
      obtain ⟨wide, more⟩ := rows_length_lt history torn
      have length := lengths 0 wide
      omega
  · intro ⟨fresh, whole⟩
    have blank : ∀ c, (kept history).getD c [] = [] := by
      intro c
      rw [getD_eq_getElem?_getD]
      cases found : (kept history)[c]? with
      | none => rfl
      | some column => exact fresh column (mem_of_getElem? found)
    have columns : ∀ c < (run history).cells.length,
        (run history).cells[c]? = some ((rows history).map (·.getD c [])) := by
      intro c inside
      have inside := cells_length history ▸ inside
      rw [cells_get history inside, blank, added_eq history whole inside]
      rfl
    constructor
    · intro column member
      obtain ⟨c, inside, rfl⟩ := mem_iff_getElem.mp member
      have column := columns c inside
      rw [getElem?_eq_getElem inside, Option.some.injEq] at column
      simp [column]
    · intro c inside r row
      have short : c < (rows history)[r].length := by
        rw [rows_length _ (getElem_mem row), ← cells_length history]
        exact inside
      rw [columns c inside]
      simp [row, short]

end

/-- The first column keeps its row, which shows `1` beside `3`; and where a formatter throws behind
`"2"`, `2` stays and stands beside `4`. -/
theorem headers_keeps_rows :
    ¬ Intact [.addRow [some [50], some [51]], .headers [[97], [98]], .addRow [some [49]],
      .headers [[97]]] ∧
    (run [.addRow [some [50], some [51]], .headers [[97], [98]], .addRow [some [49]],
      .headers [[97]]]).cells = [[[49], [50]], [[51]]] ∧
    ¬ Intact [.addRow [some [51], some [52]], .addRow [some [50], none], .headers [[97], [98]]] ∧
    (run [.addRow [some [51], some [52]], .addRow [some [50], none],
      .headers [[97], [98]]]).cells = [[[50], [51]], [[52]]] := by
  refine ⟨fun intact => ?_, by decide, fun intact => ?_, by decide⟩
  · have length := intact.length [[49], [50]] (by decide)
    revert length
    decide
  · have length := intact.length [[50], [51]] (by decide)
    revert length
    decide

end History

end Menagerie.Chameleon
