import Menagerie.Beaver.Text
import Mathlib.Data.List.TakeWhile

/-!
# `InlineString` as a C string

The operations of `InlineString` at run time, and what `c_str()` shows of the text. `assign` and
`clear` write a NUL behind the text. An append writes none: it leaves what stands behind the text.
-/

namespace Menagerie.Beaver.InlineString

open List

def nul : Char := Char.ofNat 0

/-- The member functions. -/
inductive Operation
  | appendView (sv : Text)
  | appendChar (c : Char)
  | assign (sv : Text)
  | clear

/-- The text that is handed to the operation. -/
def Operation.text : Operation → Text
  | .appendView sv | .assign sv => sv
  | .appendChar c => [c]
  | .clear => []

/-- The operation writes a NUL behind the text. -/
def Operation.terminates : Operation → Bool
  | .assign _ | .clear => true
  | .appendView _ | .appendChar _ => false

variable {capacity : Nat}

section

variable (s : InlineString capacity)

/-- `operator+=(char)`. -/
def appendChar (c : Char) : Except OutOfRange (InlineString capacity) :=
  if room : s.size < capacity then
    .ok {
      size := s.size + 1
      data := s.data.set s.size c
      size_le := room
      length_data := by rw [List.length_set, s.length_data] }
  else .error {}

/-- `assign`, which cuts the text to the capacity at run time. -/
def assign (sv : Text) : InlineString capacity :=
  let n := min sv.length capacity
  { size := n
    data := sv.take n ++ nul :: s.data.drop (n + 1)
    size_le := Nat.min_le_right _ _
    length_data := by
      have length := s.length_data
      simp only [List.length_append, List.length_take, List.length_cons, List.length_drop]
      omega }

def clear : InlineString capacity where
  size := 0
  data := s.data.set 0 nul
  size_le := Nat.zero_le _
  length_data := by rw [List.length_set, s.length_data]

/-- The characters from `c_str()` on, up to the first NUL. -/
def cString : Text := s.data.takeWhile (· != nul)

/-- What an append throws, and the string; the check comes first. -/
def afterAppend {α : Type} (s : α) : Except OutOfRange α → Option OutOfRange × α
  | .ok next => (none, next)
  | .error thrown => (some thrown, s)

/-- What a call throws, and the string after it. -/
def perform : Operation → Option OutOfRange × InlineString capacity
  | .appendView sv => afterAppend s (s.append sv)
  | .appendChar c => afterAppend s (s.appendChar c)
  | .assign sv => (none, s.assign sv)
  | .clear => (none, s.clear)

end

/-- The string after a history of calls, the latest one first. -/
def run : List Operation → InlineString capacity
  | [] => { data := List.replicate (capacity + 1) nul, size_le := Nat.zero_le _ }
  | op :: earlier => ((run earlier).perform op).2

/-- The text of a `std::string` after the same calls. -/
def reference (capacity : Nat) : List Operation → Text
  | [] => []
  | .appendView sv :: earlier =>
    let text := reference capacity earlier
    if text.length + sv.length ≤ capacity then text ++ sv else text
  | .appendChar c :: earlier =>
    let text := reference capacity earlier
    if text.length + 1 ≤ capacity then text ++ [c] else text
  | .assign sv :: _ => sv.take capacity
  | .clear :: _ => []

/-- The text has not covered the position since its last NUL. -/
def blank (capacity position : Nat) : List Operation → Bool
  | [] => true
  | op :: earlier =>
    let length := (reference capacity (op :: earlier)).length
    op.terminates && length == position || length ≤ position && blank capacity position earlier

section

variable (s : InlineString capacity)

include s

theorem appendChar_eq (c : Char) : s.appendChar c = s.append [c] := by
  have bound := s.size_le
  have length := s.length_data
  unfold appendChar append
  split
  case isTrue room =>
    have written : s.data.set s.size c = s.data.take s.size ++ [c] ++ s.data.drop (s.size + 1) := by
      rw [set_eq_take_append_cons_drop, if_pos (by omega), append_assoc]
      rfl
    rw [dif_pos (by exact room)]
    simp only [length_singleton, written]
  case isFalse => rw [dif_neg (by assumption)]

theorem clear_eq : s.clear = s.assign [] := by
  have length := s.length_data
  have written : s.data.set 0 nul = nul :: s.data.drop 1 := by
    rw [set_eq_take_append_cons_drop, if_pos (by omega)]
    rfl
  simp only [clear, assign, written, length_nil, Nat.zero_min, take_nil, nil_append,
    Nat.zero_add]

theorem view_assign (sv : Text) : (s.assign sv).view = sv.take capacity := by
  have shown : (s.assign sv).view = sv.take (min sv.length capacity) :=
    take_left' (length_take_of_le (Nat.min_le_left _ _))
  rw [shown, Nat.min_comm, ← take_take, take_length]

theorem perform_eq (op : Operation) : s.perform op =
    if op.terminates then (none, s.assign op.text) else afterAppend s (s.append op.text) := by
  cases op with
  | appendView | assign => rfl
  | appendChar c => exact congrArg (afterAppend s) (s.appendChar_eq c)
  | clear => exact congrArg (none, ·) s.clear_eq

theorem perform_throws {op : Operation} {thrown : OutOfRange}
    (throws : (s.perform op).1 = some thrown) : (s.perform op).2 = s := by
  rw [perform_eq] at throws ⊢
  split at throws
  case isTrue => cases throws
  case isFalse appends =>
    rw [if_neg appends]
    cases result : s.append op.text with
    | ok next =>
      rw [result] at throws
      cases throws
    | error => rfl

/-- Behind the text only the terminator is written. -/
theorem data_perform (op : Operation) {position : Nat} (behind : (s.perform op).2.size ≤ position) :
    (s.perform op).2.data[position]? =
      if op.terminates ∧ (s.perform op).2.size = position then some nul
      else s.data[position]? := by
  have bound := s.size_le
  have length := s.length_data
  rw [perform_eq] at behind ⊢
  cases writes : op.terminates with
  | true =>
    simp only [writes, if_true, true_and, assign] at behind ⊢
    have count := length_take_of_le (Nat.min_le_left op.text.length capacity)
    rw [getElem?_append_right (by omega), count, getElem?_cons, getElem?_drop]
    split
    case isTrue => rw [if_pos (by omega)]
    case isFalse =>
      rw [if_neg (by omega)]
      congr 1
      omega
  | false =>
    simp only [writes, Bool.false_eq_true, if_false, false_and] at behind ⊢
    by_cases fits : s.size + op.text.length ≤ capacity
    · simp only [append, dif_pos fits, afterAppend] at behind ⊢
      have count : (s.data.take s.size ++ op.text).length = s.size + op.text.length := by
        rw [length_append, length_take_of_le (by omega)]
      rw [getElem?_append_right (by omega), count, getElem?_drop,
        Nat.add_sub_cancel' behind]
    · rw [s.append_overflow op.text (by omega)]
      rfl

theorem cString_eq_view_of (clean : nul ∉ s.view) :
    s.cString = s.view ↔ s.data[s.size]? = some nul := by
  have inside : s.size < s.data.length := by
    have bound := s.size_le
    have length := s.length_data
    omega
  have shown : ∀ c ∈ s.view, (c != nul) = true := by
    intro c member
    exact bne_iff_ne.mpr fun same => clean (same ▸ member)
  have split : s.data = s.view ++ s.data.drop s.size := (take_append_drop s.size s.data).symm
  have read : s.cString = s.view ++ (s.data.drop s.size).takeWhile (· != nul) := by
    rw [← takeWhile_append_of_pos shown, ← split]
    rfl
  rw [read, append_right_eq_self, drop_eq_getElem_cons inside, takeWhile_cons,
    getElem?_eq_getElem inside]
  simp

end

theorem reference_cons (op : Operation) (earlier : List Operation) :
    reference capacity (op :: earlier) =
      if op.terminates then op.text.take capacity
      else if (reference capacity earlier).length + op.text.length ≤ capacity then
        reference capacity earlier ++ op.text
      else reference capacity earlier := by
  cases op with
  | clear => exact take_nil.symm
  | _ => rfl

theorem view_run (ops : List Operation) :
    (run ops : InlineString capacity).view = reference capacity ops := by
  induction ops with
  | nil => rfl
  | cons op earlier ih =>
    have size : (run earlier : InlineString capacity).size =
        (reference capacity earlier).length := by
      rw [← ih, view_length]
    rw [reference_cons, run, perform_eq]
    split
    case isTrue => exact view_assign _ _
    case isFalse =>
      split
      case isTrue fits =>
        obtain ⟨next, appended, -, view⟩ := (run earlier).append_fits op.text (by omega)
        rw [appended]
        exact view.trans (by rw [ih])
      case isFalse long =>
        rw [append_overflow _ _ (by omega)]
        exact ih

theorem size_run (ops : List Operation) :
    (run ops : InlineString capacity).size = (reference capacity ops).length := by
  rw [← view_run, view_length]

theorem nul_not_mem_reference {ops : List Operation} (clean : ∀ op ∈ ops, nul ∉ op.text) :
    nul ∉ reference capacity ops := by
  induction ops with
  | nil => exact not_mem_nil
  | cons op earlier ih =>
    obtain ⟨now, before⟩ := forall_mem_cons.mp clean
    have rest := ih before
    rw [reference_cons]
    split
    · exact fun member => now (mem_of_mem_take member)
    · split
      · exact not_mem_append rest now
      · exact rest

theorem data_run {ops : List Operation} (clean : ∀ op ∈ ops, nul ∉ op.text) {position : Nat}
    (inside : position ≤ capacity) :
    (run ops : InlineString capacity).data[position]? = some nul ↔
      blank capacity position ops = true := by
  induction ops with
  | nil => simp [run, blank, nul, Nat.lt_succ_of_le inside]
  | cons op earlier ih =>
    have size : (run (op :: earlier) : InlineString capacity).size = _ := size_run _
    by_cases covered : position < (reference capacity (op :: earlier)).length
    · have shown : (run (op :: earlier) : InlineString capacity).data[position]? =
          some ((reference capacity (op :: earlier))[position]) := by
        rw [← getElem?_eq_getElem covered, ← view_run, view,
          getElem?_take_of_lt (by omega)]
      have text : (reference capacity (op :: earlier))[position] ≠ nul := fun same =>
        nul_not_mem_reference clean (same ▸ getElem_mem covered)
      rw [shown]
      simp [text, blank, Nat.not_le_of_gt covered, Nat.ne_of_gt covered]
    · have written := (run earlier).data_perform op
        (show (run (op :: earlier) : InlineString capacity).size ≤ position by omega)
      have rest := ih (forall_mem_cons.mp clean).2
      change (run (op :: earlier)).data[position]? = _ at written
      rw [written]
      change (if op.terminates = true ∧ (run (op :: earlier)).size = position then _ else _) = _ ↔ _
      rw [size]
      split
      case isTrue last => simp [blank, last]
      case isFalse other =>
        have below := Nat.le_of_not_lt covered
        simp only [not_and] at other
        simp only [rest, blank, below, decide_true, Bool.true_and, Bool.or_eq_true,
          Bool.and_eq_true, beq_iff_eq]
        exact ⟨.inr, fun known => known.resolve_left fun last => other last.1 last.2⟩

/-- The text never covers the end of the buffer. -/
theorem blank_end (ops : List Operation) : blank capacity capacity ops = true := by
  induction ops with
  | nil => rfl
  | cons op earlier ih =>
    have bound := (run (op :: earlier) : InlineString capacity).size_le
    rw [size_run] at bound
    simp [blank, bound, ih]

/-- `c_str()` shows the text exactly when, since a NUL was last written where the text ends now, no
call made it longer than it is now. -/
theorem cString_eq_view_iff (capacity : Nat) (ops : List Operation)
    (clean : ∀ op ∈ ops, nul ∉ op.text) (s : InlineString capacity) (here : s = run ops) :
    (s.cString = s.view ↔ blank capacity (reference capacity ops).length ops = true) ∧
      nul ∈ s.data ∧ s.size ≤ capacity ∧ s.view = reference capacity ops ∧
      ∀ op thrown, (s.perform op).1 = some thrown → (s.perform op).2 = s := by
  subst here
  have view : (run ops : InlineString capacity).view = reference capacity ops := view_run ops
  have bound := (run ops : InlineString capacity).size_le
  refine ⟨?_, ?_, bound, view, fun op thrown => perform_throws _⟩
  · rw [cString_eq_view_of _ (view ▸ nul_not_mem_reference clean), size_run,
      data_run clean (size_run ops ▸ bound)]
  · exact mem_of_getElem? ((data_run clean (Nat.le_refl capacity)).mpr (blank_end ops))

/-- A cleared string is written again. -/
theorem cString_eq_view_iff_cleared :
    (run [.appendChar 'y', .clear, .appendView ['x']] : InlineString 8).cString =
      (run [.appendChar 'y', .clear, .appendView ['x']] : InlineString 8).view :=
  (cString_eq_view_iff 8 _ (by simp [Operation.text, nul]) _ rfl).1.mpr (by decide)

/-- An append behind a shorter `assign` shows the rest of the longer text. -/
theorem append_behind_assign :
    ∃ ops, (∀ op ∈ ops, nul ∉ Operation.text op) ∧
      (run ops : InlineString 8).view = "xy".toList ∧
      (run ops : InlineString 8).cString = "xyc".toList :=
  ⟨[.appendView ['y'], .assign ['x'], .appendView ['a', 'b', 'c']], by simp [Operation.text, nul],
    by decide, by decide⟩

end Menagerie.Beaver.InlineString
