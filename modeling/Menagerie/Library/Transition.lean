import Mathlib.Logic.Function.Basic

/-!
# Labelled transition systems

A concurrent component is a set of initial states and a partial step on labels: one label
names the thread that moves and whatever the environment decides for it, and a disabled
label is refused. A run may be restricted by a guard on its steps, so that a result about
every run and a result about the runs that keep clear of a defect use the same rules.
-/

namespace Menagerie.Transition

/-- A transition system. -/
structure System (State Label : Type) where
  initial : State → Prop
  /-- The successor, or `none` when the label is disabled. -/
  step : State → Label → Option State

namespace System

variable {State Label : Type} (sys : System State Label)

/-- A run all of whose steps satisfy the guard. -/
inductive Leads (guard : State → Label → Prop) (source : State) : State → Prop
  | refl : Leads guard source source
  | tail {middle target : State} {label : Label} (run : Leads guard source middle)
      (allowed : guard middle label) (moved : sys.step middle label = some target) :
      Leads guard source target

/-- The states that runs within the guard reach. -/
def ReachableBy (guard : State → Label → Prop) (state : State) : Prop :=
  ∃ start, sys.initial start ∧ sys.Leads guard start state

/-- The states that unrestricted runs reach. -/
abbrev Reachable (state : State) : Prop := sys.ReachableBy (fun _ _ => True) state

/-- Execute labels; a refused label refuses the list. -/
def run (state : State) : List Label → Option State
  | [] => some state
  | label :: rest => (sys.step state label).bind (fun next => run next rest)

/-- Execute labels within a guard. -/
def runWithin (guard : State → Label → Prop) [∀ state label, Decidable (guard state label)]
    (state : State) : List Label → Option State
  | [] => some state
  | label :: rest =>
    if guard state label then (sys.step state label).bind (fun next => runWithin guard next rest)
    else none

variable {sys}

/-- What every step within the guard keeps, every run keeps. -/
theorem Leads.preserves {guard : State → Label → Prop} {holds : State → Prop}
    {source target : State} (run : sys.Leads guard source target) (start : holds source)
    (step : ∀ state label next, holds state → guard state label →
      sys.step state label = some next → holds next) : holds target := by
  induction run with
  | refl => exact start
  | tail _ allowed moved ih => exact step _ _ _ ih allowed moved

/-- Runs within one guard compose. -/
theorem Leads.trans {guard : State → Label → Prop} {first second third : State}
    (left : sys.Leads guard first second) (right : sys.Leads guard second third) :
    sys.Leads guard first third := by
  induction right with
  | refl => exact left
  | tail _ allowed moved ih => exact .tail ih allowed moved

theorem Leads.mono {guard weaker : State → Label → Prop} {source target : State}
    (run : sys.Leads guard source target) (weak : ∀ state label, guard state label →
      weaker state label) : sys.Leads weaker source target := by
  induction run with
  | refl => exact .refl
  | tail _ allowed moved ih => exact .tail ih (weak _ _ allowed) moved

theorem ReachableBy.leads {guard : State → Label → Prop} {source target : State}
    (reached : sys.ReachableBy guard source) (run : sys.Leads guard source target) :
    sys.ReachableBy guard target := by
  obtain ⟨start, initial, before⟩ := reached
  exact ⟨start, initial, before.trans run⟩

theorem ReachableBy.invariant {guard : State → Label → Prop} {holds : State → Prop}
    {state : State} (reached : sys.ReachableBy guard state)
    (start : ∀ state, sys.initial state → holds state)
    (step : ∀ state label next, sys.ReachableBy guard state → holds state →
      guard state label → sys.step state label = some next → holds next) : holds state := by
  obtain ⟨first, initial, run⟩ := reached
  induction run with
  | refl => exact start first initial
  | tail before allowed moved ih => exact step _ _ _ ⟨first, initial, before⟩ ih allowed moved

theorem leads_of_run {source target : State} {labels : List Label}
    (executed : sys.run source labels = some target) :
    sys.Leads (fun _ _ => True) source target := by
  induction labels generalizing source with
  | nil =>
    cases executed
    exact .refl
  | cons label rest ih =>
    simp only [run, Option.bind_eq_some_iff] at executed
    obtain ⟨next, moved, later⟩ := executed
    exact Leads.trans (.tail .refl trivial moved) (ih later)

theorem leads_of_runWithin {guard : State → Label → Prop}
    [∀ state label, Decidable (guard state label)] {source target : State} {labels : List Label}
    (executed : sys.runWithin guard source labels = some target) :
    sys.Leads guard source target := by
  induction labels generalizing source with
  | nil =>
    cases executed
    exact .refl
  | cons label rest ih =>
    simp only [runWithin, Option.ite_none_right_eq_some, Option.bind_eq_some_iff] at executed
    obtain ⟨allowed, next, moved, later⟩ := executed
    exact Leads.trans (.tail .refl allowed moved) (ih later)

theorem exists_reachable (sys : System State Label) {start : State}
    (initial : sys.initial start) (labels : List Label) {property : State → Prop}
    (ends : ∃ state, sys.run start labels = some state ∧
      (sys.Reachable state → property state)) :
    ∃ state, sys.Reachable state ∧ property state := by
  obtain ⟨state, executed, held⟩ := ends
  have reached : sys.Reachable state := ⟨start, initial, leads_of_run executed⟩
  exact ⟨state, reached, held reached⟩

theorem exists_reachableBy (sys : System State Label) (guard : State → Label → Prop)
    [∀ state label, Decidable (guard state label)] {start : State} (initial : sys.initial start)
    (labels : List Label) {property : State → Prop}
    (ends : ∃ state, sys.runWithin guard start labels = some state ∧
      (sys.ReachableBy guard state → property state)) :
    ∃ state, sys.ReachableBy guard state ∧ property state := by
  obtain ⟨state, executed, held⟩ := ends
  have reached : sys.ReachableBy guard state := ⟨start, initial, leads_of_runWithin executed⟩
  exact ⟨state, reached, held reached⟩

end System

end Menagerie.Transition

namespace Menagerie

theorem update_apply_eq {Party Local : Type} [DecidableEq Party] {parties : Party → Local}
    {moved party : Party} {state held : Local} :
    Function.update parties moved state party = held ↔
      party = moved ∧ state = held ∨ party ≠ moved ∧ parties party = held := by
  by_cases same : party = moved
  · subst same
    simp
  · simp [same]

end Menagerie
