import Menagerie.Library.Sql.Scanner

/-!
# Scanning a text piece by piece

A piece of text is read on its own, whatever stands behind it, if what stands behind it starts with
a character that cannot belong to the last token of the piece.
-/

namespace Menagerie.Sql

open List

@[simp]
theorem join_nil_left (second : Option (List Token)) : join (some []) second = second := by
  cases second <;> rfl

@[simp]
theorem join_none_right (first : Option (List Token)) : join first none = none := by
  cases first <;> rfl

@[simp]
theorem join_nil_right (first : Option (List Token)) : join first (some []) = first := by
  cases first <;> simp [join]

theorem join_some (first second : List Token) : join (some first) (some second) =
    some (first ++ second) := rfl

theorem join_assoc (first second third : Option (List Token)) :
    join (join first second) third = join first (join second third) := by
  cases first <;> cases second <;> cases third <;> simp [join]

namespace Scanner

variable (scanner : Scanner)

theorem scan_go {mode after : Mode} {c : Char} (goes : scanner.next mode c = .go after)
    (rest : Text) : scanner.scan mode (c :: rest) = scanner.scan after rest := by
  rw [scan, goes]

/-- Where a token ends, the scanner starts afresh. -/
theorem scan_stop {mode : Mode} {c : Char} (stops : scanner.next mode c = .stop) (rest : Text) :
    scanner.scan mode (c :: rest) =
      join (scanner.flush mode) (scanner.scan .start (c :: rest)) := by
  have start : scanner.next .start c = .stop := rfl
  have nothing : scanner.flush .start = some [] := rfl
  rw [scan, stops, scan, start]
  cases scanner.first c <;> simp [nothing]

theorem scan_first {c : Char} {after : Mode} (goes : scanner.first c = .go after) (rest : Text) :
    scanner.scan .start (c :: rest) = scanner.scan after rest := by
  have start : scanner.next .start c = .stop := rfl
  have nothing : scanner.flush .start = some [] := rfl
  rw [scan, start]
  simp [goes, nothing]

theorem scan_collect (mode : Text → Mode) (text : Text)
    (each : ∀ acc, ∀ c ∈ text, scanner.next (mode acc) c = .go (mode (acc ++ [c])))
    (acc rest : Text) :
    scanner.scan (mode acc) (text ++ rest) = scanner.scan (mode (acc ++ text)) rest := by
  induction text generalizing acc with
  | nil => simp
  | cons c others ih =>
    rw [cons_append, scanner.scan_go (each acc c mem_cons_self),
      ih (fun acc d member => each acc d (mem_cons_of_mem _ member)), append_assoc]
    rfl

theorem scan_units {α : Type} (mode : Text → Mode) (spelling content : α → Text) (units : List α)
    (each : ∀ acc rest, ∀ item ∈ units, scanner.scan (mode acc) (spelling item ++ rest) =
      scanner.scan (mode (acc ++ content item)) rest)
    (acc rest : Text) :
    scanner.scan (mode acc) (units.flatMap spelling ++ rest) =
      scanner.scan (mode (acc ++ units.flatMap content)) rest := by
  induction units generalizing acc with
  | nil => simp
  | cons item others ih =>
    rw [flatMap_cons, append_assoc, each acc _ item mem_cons_self,
      ih (fun acc rest other member => each acc rest other (mem_cons_of_mem _ member)),
      flatMap_cons, append_assoc]

/-- The tokens that end inside the text, and the mode after it. -/
def run (mode : Mode) : Text → Option (List Token × Mode)
  | [] => some ([], mode)
  | c :: rest =>
    let prepend (tokens : Option (List Token)) (after : Mode) : Option (List Token × Mode) :=
      tokens.bind fun front => (run after rest).map fun (behind, last) => (front ++ behind, last)
    match scanner.next mode c with
    | .go after => run after rest
    | .emit tokens after => prepend tokens after
    | .fail => none
    | .stop =>
      match scanner.first c with
      | .go after => prepend (scanner.flush mode) after
      | .emit tokens after => prepend (join (scanner.flush mode) tokens) after
      | .fail | .stop => none

theorem scan_append (mode : Mode) (text rest : Text) :
    scanner.scan mode (text ++ rest) =
      (scanner.run mode text).bind fun (tokens, after) =>
        join (some tokens) (scanner.scan after rest) := by
  have attach : ∀ (tokens : Option (List Token)) (after : Mode) (others : Text),
      scanner.scan after (others ++ rest) = ((scanner.run after others).bind fun (behind, last) =>
        join (some behind) (scanner.scan last rest)) →
      join tokens (scanner.scan after (others ++ rest)) =
        ((tokens.bind fun front => (scanner.run after others).map fun (behind, last) =>
          (front ++ behind, last)).bind fun (tokens, after) =>
          join (some tokens) (scanner.scan after rest)) := by
    intro tokens after others same
    rw [same]
    cases tokens with
    | none => rfl
    | some front =>
      cases scanner.run after others with
      | none => rfl
      | some result => simp [← join_assoc, join_some]
  induction text generalizing mode with
  | nil => simp [run]
  | cons c others ih =>
    rw [cons_append, scan, run]
    cases scanner.next mode c with
    | go after => exact ih after
    | emit tokens after => exact attach tokens after others (ih after)
    | fail => rfl
    | stop =>
      cases scanner.first c with
      | go after => exact attach _ after others (ih after)
      | emit tokens after =>
        simp only [← join_assoc]
        exact attach _ after others (ih after)
      | fail => rfl
      | stop => rfl

/-- The end, a comma, a closing parenthesis, or a blank before what cannot continue a literal. -/
def separates : Text → Bool
  | [] => true
  | ' ' :: c :: _ => !isSpace c && c ≠ '\'' && c ≠ '-'
  | c :: _ => c = ',' || c = ')'

/-- The current token ends where a separated text starts. -/
def Settles (mode : Mode) : Prop :=
  ∀ rest, separates rest = true →
    scanner.scan mode rest = join (scanner.flush mode) (scanner.scan .start rest)

/-- A text is read on its own in front of a separated text. -/
def Reads (text : Text) (tokens : Option (List Token)) : Prop :=
  ∀ rest, separates rest = true →
    scanner.scan .start (text ++ rest) = join tokens (scanner.scan .start rest)

/-- A text is read on its own, whatever stands behind it. -/
def Completes (text : Text) (tokens : Option (List Token)) : Prop :=
  ∀ rest, scanner.scan .start (text ++ rest) = join tokens (scanner.scan .start rest)

variable {scanner}

section

variable {text : Text} {tokens : Option (List Token)}

theorem Completes.reads (completes : scanner.Completes text tokens) : scanner.Reads text tokens :=
  fun rest _ => completes rest

theorem Reads.lex (reads : scanner.Reads text tokens) :
    scanner.lex text = tokens := by
  have nothing : scanner.scan .start [] = some [] := rfl
  have whole := reads [] rfl
  rwa [append_nil, nothing, join_nil_right] at whole

end

theorem completes_of_run {text : Text} {tokens : List Token}
    (ran : scanner.run .start text = some (tokens, .start)) :
    scanner.Completes text (some tokens) := by
  intro rest
  rw [scanner.scan_append, ran]
  rfl

theorem reads_of_run {text : Text} {tokens : List Token} {mode : Mode}
    (ran : scanner.run .start text = some (tokens, mode)) (settles : scanner.Settles mode) :
    scanner.Reads text (join (some tokens) (scanner.flush mode)) := by
  intro rest separated
  rw [scanner.scan_append, ran, join_assoc, ← settles rest separated]
  rfl

theorem settles_of_stop {mode : Mode} (blank : scanner.next mode ' ' = .stop)
    (comma : scanner.next mode ',' = .stop) (paren : scanner.next mode ')' = .stop) :
    scanner.Settles mode := by
  intro rest separated
  cases rest with
  | nil =>
    have nothing : scanner.scan .start [] = some [] := rfl
    rw [nothing, join_nil_right]
    rfl
  | cons c others =>
    apply scanner.scan_stop
    unfold separates at separated
    split at separated
    · next same => cases same
    · next same =>
      cases same
      exact blank
    · next same =>
      cases same
      simp only [Bool.or_eq_true, decide_eq_true_eq] at separated
      rcases separated with rfl | rfl
      · exact comma
      · exact paren

/-- A separated text does not continue a literal. -/
theorem settles_textQuote (kind : Literal) (acc : Text) (nonAscii : Bool) :
    scanner.Settles (.textQuote kind acc nonAscii) := by
  intro rest separated
  unfold separates at separated
  split at separated
  · have nothing : scanner.scan .start [] = some [] := rfl
    rw [nothing, join_nil_right]
    rfl
  · next c others =>
    simp only [Bool.and_eq_true, Bool.not_eq_true', decide_eq_true_eq] at separated
    obtain ⟨⟨solid, unquoted⟩, undashed⟩ := separated
    have gap : scanner.next (.textQuote kind acc nonAscii) ' ' =
        .go (.textGap kind acc nonAscii false) := rfl
    have stops : scanner.next (.textGap kind acc nonAscii false) c = .stop := by
      simp [next, solid, undashed]
    have blank : scanner.first ' ' = .go .start := rfl
    rw [scanner.scan_go gap, scanner.scan_stop stops, scanner.scan_first blank]
    rfl
  · next c others _ =>
    simp only [Bool.or_eq_true, decide_eq_true_eq] at separated
    apply scanner.scan_stop
    rcases separated with rfl | rfl <;> simp [next, isSpace]

end Scanner

end Menagerie.Sql
