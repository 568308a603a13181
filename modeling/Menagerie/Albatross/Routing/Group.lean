import Menagerie.Beaver.Text
import Mathlib.Data.List.DropRight

/-!
# Route groups

`join_path` puts a path behind a prefix. Groups and controllers nest prefixes with it, and the full
path of a route does not depend on how they are nested.
-/

namespace Menagerie.Albatross

open Beaver List

/-- `join_path` removes the slashes at the end. -/
def popSlashes (path : Text) : Text := path.rdropWhile (· = '/')

/-- `join_path`. -/
def joinPath (before path : Text) : Text :=
  let out := popSlashes before
  if path = [] ∨ path = ['/'] then if out = [] then ['/'] else out
  else if path.head? ≠ some '/' then out ++ ['/'] ++ path
  else out ++ path

/-- `GroupBinding`, as its prefix. -/
structure GroupBinding where
  before : Text

/-- A nested group. -/
def GroupBinding.inGroup (group : GroupBinding) (nested : Text) : GroupBinding :=
  ⟨joinPath group.before nested⟩

/-- The path under which `bake_into` registers a route of a controller. -/
def GroupBinding.routePath (group : GroupBinding) (path : Text) : Text :=
  joinPath group.before path

/-- A path with a slash at the front. -/
def rooted (path : Text) : Text := if path.head? = some '/' then path else '/' :: path

variable {path rest : Text}

theorem popSlashes_append (kept : popSlashes rest ≠ []) (path : Text) :
    popSlashes (path ++ rest) = path ++ popSlashes rest := by
  induction rest using reverseRecOn with
  | nil => exact absurd rfl kept
  | append_singleton rest c ih =>
    rw [popSlashes, rdropWhile_concat] at kept
    rw [popSlashes, popSlashes, ← append_assoc, rdropWhile_concat,
      rdropWhile_concat]
    split
    · rename_i slash
      rw [if_pos slash] at kept
      exact ih kept
    · simp

theorem popSlashes_append_slashes (slashes : popSlashes rest = []) (path : Text) :
    popSlashes (path ++ rest) = popSlashes path := by
  rw [popSlashes, rdropWhile_eq_nil_iff] at slashes
  induction rest using reverseRecOn with
  | nil => rw [append_nil]
  | append_singleton rest c ih =>
    have last := slashes c (by simp)
    rw [← append_assoc, popSlashes, rdropWhile_concat, if_pos last]
    exact ih (fun d member => slashes d (by simp [member]))

theorem popSlashes_idem (path : Text) : popSlashes (popSlashes path) = popSlashes path :=
  rdropWhile_idempotent _ _

theorem joinPath_blank (blank : path = [] ∨ path = ['/']) (before : Text) :
    joinPath before path = if popSlashes before = [] then ['/'] else popSlashes before := by
  rw [joinPath, if_pos blank]

theorem joinPath_proper (proper : ¬(path = [] ∨ path = ['/'])) (before : Text) :
    joinPath before path = popSlashes before ++ rooted path := by
  rw [joinPath, if_neg proper, rooted]
  by_cases slash : path.head? = some '/'
  · rw [if_neg (not_not.mpr slash), if_pos slash]
  · rw [if_pos slash, if_neg slash, append_assoc]
    rfl

theorem rooted_append (nonempty : path ≠ []) (rest : Text) :
    rooted (path ++ rest) = rooted path ++ rest := by
  cases path with
  | nil => exact absurd rfl nonempty
  | cons c path =>
    unfold rooted
    split <;> simp_all

theorem popSlashes_rooted (kept : popSlashes path ≠ []) :
    popSlashes (rooted path) = rooted (popSlashes path) := by
  have start : (popSlashes path).head? = path.head? := by
    have front : popSlashes path <+: path := rdropWhile_prefix _ _
    obtain ⟨tail, whole⟩ := front
    cases first : popSlashes path with
    | nil => exact absurd first kept
    | cons c more => rw [← whole, first, cons_append, head?_cons, head?_cons]
  unfold rooted
  rw [start]
  split
  · rfl
  · exact popSlashes_append kept ['/']

theorem popSlashes_joinPath (before path : Text) : popSlashes (joinPath before path) =
    if popSlashes path = [] then popSlashes before
    else popSlashes before ++ rooted (popSlashes path) := by
  by_cases blank : path = [] ∨ path = ['/']
  · have slashes : popSlashes path = [] := by
      rcases blank with rfl | rfl <;> rfl
    rw [joinPath_blank blank, if_pos slashes]
    split
    · rename_i empty
      rw [empty]
      rfl
    · exact popSlashes_idem before
  · rw [joinPath_proper blank]
    by_cases slashes : popSlashes path = []
    · have rootedSlashes : popSlashes (rooted path) = [] := by
        unfold rooted
        split
        · exact slashes
        · exact popSlashes_append_slashes slashes ['/']
      rw [if_pos slashes, popSlashes_append_slashes rootedSlashes, popSlashes_idem]
    · have kept := popSlashes_rooted slashes
      have nonempty : popSlashes (rooted path) ≠ [] := by
        rw [kept, rooted]
        split
        · exact slashes
        · exact cons_ne_nil _ _
      rw [if_neg slashes, popSlashes_append nonempty, kept]

theorem joinPath_assoc (first second third : Text) :
    joinPath (joinPath first second) third = joinPath first (joinPath second third) := by
  by_cases blank : third = [] ∨ third = ['/']
  · rw [joinPath_blank blank, joinPath_blank blank, popSlashes_joinPath]
    by_cases slashes : popSlashes second = []
    · rw [if_pos slashes, if_pos slashes, joinPath_blank (.inr rfl)]
    · have proper : ¬(popSlashes second = [] ∨ popSlashes second = ['/']) := by
        rintro (empty | root)
        · exact slashes empty
        · have again := popSlashes_idem second
          rw [root] at again
          cases again
      have nonempty : popSlashes first ++ rooted (popSlashes second) ≠ [] := by
        rw [rooted]
        split <;> simp [slashes]
      rw [if_neg slashes, if_neg slashes, if_neg nonempty, joinPath_proper proper]
  · have start : (rooted third).head? = some '/' := by
      unfold rooted
      split <;> simp_all
    rw [joinPath_proper blank, joinPath_proper blank, popSlashes_joinPath]
    by_cases slashes : popSlashes second = []
    · have proper : ¬(rooted third = [] ∨ rooted third = ['/']) := by
        unfold rooted
        split <;> simp_all
      have rootedTwice : rooted (rooted third) = rooted third := if_pos start
      rw [if_pos slashes, slashes, nil_append, joinPath_proper proper, rootedTwice]
    · have proper : ¬(popSlashes second ++ rooted third = [] ∨
          popSlashes second ++ rooted third = ['/']) := by
        intro short
        have length : (popSlashes second ++ rooted third).length ≤ 1 := by
          rcases short with empty | root
          · simp [empty]
          · simp [root]
        have one := length_pos_of_ne_nil slashes
        have two : 0 < (rooted third).length := by
          rw [length_pos_iff]
          rintro empty
          rw [empty] at start
          cases start
        rw [length_append] at length
        omega
      rw [if_neg slashes, joinPath_proper proper, rooted_append slashes, append_assoc]

/-- However prefixes are nested in groups and controllers, the full path of a route is the same. -/
theorem join_path_associative (first second third : Text) (group : GroupBinding)
    (prefixes : List Text) (path : Text) :
    joinPath (joinPath first second) third = joinPath first (joinPath second third) ∧
      (prefixes.foldl GroupBinding.inGroup group).routePath path =
        group.routePath (prefixes.foldr joinPath path) := by
  refine ⟨joinPath_assoc first second third, ?_⟩
  induction prefixes generalizing group with
  | nil => rfl
  | cons first rest ih =>
    rw [foldl_cons, ih, foldr_cons]
    exact joinPath_assoc group.before first _

end Menagerie.Albatross
