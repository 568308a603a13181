import Mathlib.Data.List.Basic

/-!
# Incremental parsers

A parser is offered a buffer and says whether it has finished, has failed or wants more. It may
consume a part of the buffer and keep the rest for the next call. Such a parser is independent of
how its input is cut into reads if asking again with a longer buffer is the same as asking once with
the whole.
-/

namespace Menagerie.Incremental

open List

variable {Symbol State Error : Type}

/-- What a parser answers to a buffer, and how much it has consumed. -/
inductive Outcome (State Error : Type)
  | more (state : State) (consumed : Nat)
  | done (state : State) (consumed : Nat)
  | failed (error : Error)

/-- The answer when `n` more symbols have been consumed before. -/
def Outcome.shift (n : Nat) : Outcome State Error → Outcome State Error
  | .more state consumed => .more state (n + consumed)
  | .done state consumed => .done state (n + consumed)
  | .failed error => .failed error

/-- The answers to a buffer and to a longer one agree. -/
structure ChunkIndependent (put : State → List Symbol → Outcome State Error) : Prop where
  more_le : ∀ {state buffer after consumed}, put state buffer = .more after consumed →
    consumed ≤ buffer.length
  done_le : ∀ {state buffer after consumed}, put state buffer = .done after consumed →
    consumed ≤ buffer.length
  /-- A parser goes on as if it had been given everything at once. -/
  more_append : ∀ {state buffer after consumed} (extra : List Symbol), buffer ≠ [] → extra ≠ [] →
    put state buffer = .more after consumed →
    put state (buffer ++ extra) = (put after (buffer.drop consumed ++ extra)).shift consumed
  done_append : ∀ {state buffer after consumed} (extra : List Symbol), buffer ≠ [] →
    put state buffer = .done after consumed → put state (buffer ++ extra) = .done after consumed
  failed_append : ∀ {state buffer error} (extra : List Symbol), buffer ≠ [] →
    put state buffer = .failed error → put state (buffer ++ extra) = .failed error

/-- How feeding a parser read by read ends. -/
inductive Fed (Symbol State Error : Type)
  | done (state : State) (buffer : List Symbol) (reads : List (List Symbol))
  | failed (error : Error)
  | ended (state : State)

section Feed

variable (put : State → List Symbol → Outcome State Error)

/-- Ask the parser, unless the buffer is empty. -/
def offer (state : State) (buffer : List Symbol) : Outcome State Error :=
  match buffer with
  | [] => .more state 0
  | _ :: _ => put state buffer

/-- Offer the buffer; read more while the parser wants more. -/
def feed (state : State) (buffer : List Symbol) (reads : List (List Symbol)) :
    Fed Symbol State Error :=
  match offer put state buffer with
  | .failed error => .failed error
  | .done after consumed => .done after (buffer.drop consumed) reads
  | .more after consumed =>
    match reads with
    | [] => .ended after
    | read :: rest => feed after (buffer.drop consumed ++ read) rest

variable {put}

theorem offer_of_ne_nil {buffer : List Symbol} (present : buffer ≠ []) (state : State) :
    offer put state buffer = put state buffer := by
  cases buffer with
  | nil => contradiction
  | cons symbol rest => rfl

section

variable (independent : ChunkIndependent put) {state : State} {buffer : List Symbol}

include independent

theorem ChunkIndependent.offer_more {after : State} {consumed : Nat}
    (wants : offer put state buffer = .more after consumed) {extra : List Symbol}
    (present : extra ≠ []) :
    consumed ≤ buffer.length ∧ offer put state (buffer ++ extra) =
      (offer put after (buffer.drop consumed ++ extra)).shift consumed := by
  have whole : ∀ front : List Symbol, front ++ extra ≠ [] := fun front =>
    append_ne_nil_of_right_ne_nil front present
  rw [offer_of_ne_nil (whole _), offer_of_ne_nil (whole _)]
  cases buffer with
  | nil =>
    cases wants
    cases answer : put state extra <;> simp [answer, Outcome.shift]
  | cons symbol rest =>
    exact ⟨independent.more_le wants, independent.more_append extra (by simp) present wants⟩

theorem ChunkIndependent.offer_done {after : State} {consumed : Nat}
    (finished : offer put state buffer = .done after consumed) (extra : List Symbol) :
    consumed ≤ buffer.length ∧ offer put state (buffer ++ extra) = .done after consumed := by
  cases buffer with
  | nil => cases finished
  | cons symbol rest =>
    exact ⟨independent.done_le finished, independent.done_append extra (by simp) finished⟩

theorem ChunkIndependent.offer_failed {error : Error}
    (fails : offer put state buffer = .failed error) (extra : List Symbol) :
    offer put state (buffer ++ extra) = .failed error := by
  cases buffer with
  | nil => cases fails
  | cons symbol rest => exact independent.failed_append extra (by simp) fails

end

/-- What feeding gives, by the answer to the whole input. -/
def Matches (whole : List Symbol) (fed : Fed Symbol State Error) : Outcome State Error → Prop
  | .done after consumed => consumed ≤ whole.length ∧ ∃ buffer reads,
      fed = .done after buffer reads ∧ (∀ read ∈ reads, read ≠ []) ∧
      buffer ++ reads.flatten = whole.drop consumed
  | .failed error => fed = .failed error
  | .more after _ => fed = .ended after

theorem Matches.shift {front rest : List Symbol} {fed : Fed Symbol State Error}
    {answer : Outcome State Error} {n : Nat} (fits : n ≤ front.length)
    (agrees : Matches (front.drop n ++ rest) fed answer) :
    Matches (front ++ rest) fed (answer.shift n) := by
  cases answer with
  | more after consumed => exact agrees
  | failed error => exact agrees
  | done after consumed =>
    obtain ⟨bound, buffer, reads, finished, present, left⟩ := agrees
    refine ⟨?_, buffer, reads, finished, present, ?_⟩
    · simp only [length_append, length_drop] at bound ⊢
      omega
    · rw [left, ← drop_drop, drop_append_of_le_length fits]

theorem ChunkIndependent.feed_matches (independent : ChunkIndependent put)
    (reads : List (List Symbol)) (present : ∀ read ∈ reads, read ≠ []) (state : State)
    (buffer : List Symbol) :
    Matches (buffer ++ reads.flatten) (feed put state buffer reads)
      (offer put state (buffer ++ reads.flatten)) := by
  induction reads generalizing state buffer with
  | nil =>
    rw [flatten_nil, append_nil]
    unfold feed
    cases answer : offer put state buffer with
    | more after consumed => rfl
    | failed error => rfl
    | done after consumed =>
      have finished := independent.offer_done answer []
      exact ⟨finished.1, _, _, rfl, by simp, by simp⟩
  | cons read rest ih =>
    unfold feed
    cases answer : offer put state buffer with
    | failed error =>
      rw [independent.offer_failed answer]
      rfl
    | done after consumed =>
      have finished := independent.offer_done answer (read :: rest).flatten
      rw [finished.2]
      refine ⟨?_, _, _, rfl, present, (drop_append_of_le_length finished.1).symm⟩
      rw [length_append]
      omega
    | more after consumed =>
      have extra : (read :: rest).flatten ≠ [] := by
        rw [flatten_cons]
        exact append_ne_nil_of_left_ne_nil (present read mem_cons_self) _
      obtain ⟨bound, goesOn⟩ := independent.offer_more answer extra
      rw [goesOn]
      have later := ih (fun other member => present other (mem_cons_of_mem _ member)) after
        (buffer.drop consumed ++ read)
      rw [append_assoc, ← flatten_cons] at later
      exact later.shift bound

end Feed

end Menagerie.Incremental
