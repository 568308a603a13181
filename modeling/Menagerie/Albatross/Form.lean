import Menagerie.Albatross.Body
import Menagerie.Albatross.Routing.UrlDecode
import Mathlib.Data.List.Forall2

/-!
# Forms and query strings

`read_form` and the query parameters of a request. Both go over the pairs of a text between its
ampersands; a form refuses a pair that it cannot read and keeps the last value of a key, and a query
passes over such a pair and gives the first value.
-/

namespace Menagerie.Albatross

open Beaver Search Function List

/-- `FormParseError` and `BodyLimitExceeded`. -/
inductive FormError
  | form (detail : Text)
  | body (error : BodyError)
  deriving DecidableEq

/-- The form that `read_form` gives. -/
abbrev Form := Text → Option Text

/-- The pairs of the loops: nothing is read behind an ampersand at the end. -/
def pairsOf : Text → List Text
  | [] => []
  | c :: rest =>
    if c = '&' then [] :: pairsOf rest
    else
      match pairsOf rest with
      | [] => [[c]]
      | pair :: more => (c :: pair) :: more

/-- The key and the value of a pair, before they are decoded. -/
def splitPair (pair : Text) : Text × Text :=
  match cut ['='] pair with
  | none => (pair, [])
  | some found => found

/-- A pair is added to the form. -/
def addPair (out : Form) (pair : Text) : Except FormError Form :=
  let (rk, rv) := splitPair pair
  if rk = [] then .error (.form "empty key".toList)
  else
    match urlDecode rk true, urlDecode rv true with
    | some k, some v => .ok (Function.update out k (some v))
    | _, _ => .error (.form "invalid percent-escape".toList)

/-- `Body::read_form`. -/
def readForm (limit : Nat) (body : Body) : Except FormError Form :=
  match drain limit body with
  | .error error => .error (.body error)
  | .ok text => (pairsOf text).foldlM addPair (fun _ => none)

/-- `query_string`, as `ensure_split` finds it. -/
def queryString (target : Text) : Text :=
  match cut ['?'] target with
  | none => []
  | some (_, query) => query

/-- `ensure_query_parsed` at one pair. -/
def queryParam (pair : Text) : Option (Text × Text) :=
  let (rk, rv) := splitPair pair
  match urlDecode rv true, urlDecode rk true with
  | some v, some k => some (k, v)
  | _, _ => none

/-- What the pairs give a name. -/
def firstValue (params : List (Text × Text)) (name : Text) : Option Text :=
  (params.find? (fun param => param.1 = name)).map Prod.snd

/-- `raw_query`. -/
def rawQuery (target name : Text) : Option Text :=
  firstValue ((pairsOf (queryString target)).filterMap queryParam) name

/-- A percent-encoding of a key or a value without separators. -/
structure Escapes (text encoded : Text) : Prop where
  encodes : Encodes true text encoded
  noAmpersand : '&' ∉ encoded
  noEquals : '=' ∉ encoded

/-- A client writes a pair. -/
inductive WritesPair : Text × Text → Text → Prop
  | mk {key value encodedKey encodedValue : Text} (key_escapes : Escapes key encodedKey)
      (value_escapes : Escapes value encodedValue) :
      WritesPair (key, value) (encodedKey ++ '=' :: encodedValue)

/-- The key of a pair. -/
def decodedKey (pair : Text) : Option Text := urlDecode (splitPair pair).1 true

/-! ## Pairs -/

/-- The pair has a key, and both its parts can be decoded. -/
structure ReadsPair (param : Text × Text) (pair : Text) : Prop where
  present : (splitPair pair).1 ≠ []
  key : decodedKey pair = some param.1
  value : urlDecode (splitPair pair).2 true = some param.2

variable {param : Text × Text} {pair : Text}

theorem addPair_eq_ok_iff {out form : Form} : addPair out pair = .ok form ↔
    ∃ param, ReadsPair param pair ∧ form = update out param.1 (some param.2) := by
  unfold addPair
  dsimp only
  constructor
  · intro added
    split at added
    · cases added
    rename_i present
    split at added
    · rename_i k v key value
      cases added
      exact ⟨(k, v), ⟨present, key, value⟩, rfl⟩
    · cases added
  · rintro ⟨⟨k, v⟩, ⟨present, key, value⟩, rfl⟩
    rw [decodedKey] at key
    rw [if_neg present, key, value]

theorem queryParam_of_reads (reads : ReadsPair param pair) : queryParam pair = some param := by
  have key := reads.key
  rw [decodedKey] at key
  unfold queryParam
  dsimp only
  rw [reads.value, key]

theorem reads_of_writes (writes : WritesPair param pair) (named : param.1 ≠ []) :
    ReadsPair param pair := by
  cases writes with
  | @mk key value encodedKey encodedValue key_escapes value_escapes =>
    have split : splitPair (encodedKey ++ '=' :: encodedValue) = (encodedKey, encodedValue) := by
      rw [splitPair, cut_append key_escapes.noEquals]
      have found := cut_needle ['='] encodedValue
      rw [singleton_append] at found
      rw [found, Option.map_some, append_nil]
    refine ⟨?_, ?_, ?_⟩
    · rw [split]
      rintro rfl
      cases key_escapes.encodes
      exact named rfl
    · rw [decodedKey, split]
      exact decodeInto_of_encodes key_escapes.encodes
    · rw [split]
      exact decodeInto_of_encodes value_escapes.encodes

/-- A written pair has no separator in it and is not empty. -/
theorem plain_of_writes (writes : WritesPair param pair) : '&' ∉ pair ∧ pair ≠ [] := by
  cases writes with
  | mk key_escapes value_escapes =>
    refine ⟨?_, by simp⟩
    rw [mem_append, mem_cons, not_or, not_or]
    exact ⟨key_escapes.noAmpersand, by decide, value_escapes.noAmpersand⟩

theorem forall₂_of_writes {params : List (Text × Text)} {pairs : List Text}
    (writes : Forall₂ WritesPair params pairs) (named : ∀ param ∈ params, param.1 ≠ []) :
    Forall₂ ReadsPair params pairs ∧ ∀ pair ∈ pairs, '&' ∉ pair ∧ pair ≠ [] := by
  induction writes with
  | nil => exact ⟨.nil, by simp⟩
  | cons first _ ih =>
    rw [forall_mem_cons] at named
    obtain ⟨reads, plain⟩ := ih named.2
    exact ⟨.cons (reads_of_writes first named.1) reads,
      forall_mem_cons.mpr ⟨plain_of_writes first, plain⟩⟩

/-! ## Texts -/

theorem pairsOf_plain (plain : '&' ∉ pair) (nonempty : pair ≠ []) :
    pairsOf pair = [pair] := by
  induction pair with
  | nil => exact absurd rfl nonempty
  | cons c pair ih =>
    rw [mem_cons, not_or] at plain
    rw [pairsOf, if_neg (Ne.symm plain.1)]
    cases pair with
    | nil => rfl
    | cons next pair => rw [ih plain.2 (cons_ne_nil _ _)]

theorem pairsOf_append (plain : '&' ∉ pair) (rest : Text) :
    pairsOf (pair ++ '&' :: rest) = pair :: pairsOf rest := by
  induction pair with
  | nil => rfl
  | cons c pair ih =>
    rw [mem_cons, not_or] at plain
    rw [cons_append, pairsOf, if_neg (Ne.symm plain.1), ih plain.2]

theorem pairsOf_intercalate {pairs : List Text}
    (plain : ∀ pair ∈ pairs, '&' ∉ pair ∧ pair ≠ []) :
    pairsOf (intercalate ['&'] pairs) = pairs := by
  induction pairs with
  | nil => rfl
  | cons pair rest ih =>
    rw [forall_mem_cons] at plain
    cases rest with
    | nil =>
      rw [intercalate_singleton]
      exact pairsOf_plain plain.1.1 plain.1.2
    | cons next more =>
      rw [intercalate_cons_cons, append_assoc, singleton_append,
        pairsOf_append plain.1.1, ih plain.2]

/-! ## Forms -/

/-- The form of parameters in their order. -/
def formOf (out : Form) (params : List (Text × Text)) : Form :=
  params.foldl (fun out param => Function.update out param.1 (some param.2)) out

theorem foldlM_addPair_iff {pairs : List Text} {out form : Form} :
    pairs.foldlM addPair out = .ok form ↔
      ∃ params, Forall₂ ReadsPair params pairs ∧ form = formOf out params := by
  induction pairs generalizing out with
  | nil =>
    constructor
    · rintro ⟨⟩
      exact ⟨[], .nil, rfl⟩
    · rintro ⟨params, reads, rfl⟩
      cases reads
      rfl
  | cons pair rest ih =>
    rw [foldlM_cons]
    constructor
    · intro folded
      cases added : addPair out pair with
      | error error =>
        rw [added] at folded
        cases folded
      | ok next =>
        rw [added] at folded
        obtain ⟨param, read, rfl⟩ := addPair_eq_ok_iff.mp added
        obtain ⟨params, reads, rfl⟩ := ih.mp folded
        exact ⟨param :: params, .cons read reads, rfl⟩
    · rintro ⟨params, reads, rfl⟩
      cases reads with
      | @cons param _ params _ read reads =>
        have added := addPair_eq_ok_iff.mpr ⟨param, read, @rfl _ (update out _ _)⟩
        rw [added]
        exact ih.mpr ⟨params, reads, rfl⟩

theorem formOf_eq {params : List (Text × Text)} (distinct : (params.map Prod.fst).Nodup)
    (out : Form) (name : Text) :
    formOf out params name = (firstValue params name).or (out name) := by
  induction params generalizing out with
  | nil => rfl
  | cons param rest ih =>
    rw [map_cons, nodup_cons] at distinct
    have unfolded : formOf out (param :: rest) =
        formOf (update out param.1 (some param.2)) rest := rfl
    rw [unfolded, ih distinct.2]
    by_cases same : param.1 = name
    · have later : firstValue rest name = none := by
        rw [firstValue, Option.map_eq_none_iff, find?_eq_none]
        intro other member equal
        rw [same, ← of_decide_eq_true equal] at distinct
        exact distinct.1 (mem_map_of_mem member)
      rw [later, Option.none_or, ← same, update_self]
      simp [firstValue]
    · rw [update_of_ne (Ne.symm same)]
      simp [firstValue, same]

section

variable {params : List (Text × Text)} {pairs : List Text}
  (reads : Forall₂ ReadsPair params pairs)

include reads

theorem filterMap_queryParam : pairs.filterMap queryParam = params := by
  induction reads with
  | nil => rfl
  | cons read _ ih => rw [filterMap_cons_some (queryParam_of_reads read), ih]

theorem map_decodedKey :
    pairs.map decodedKey = (params.map Prod.fst).map some := by
  induction reads with
  | nil => rfl
  | cons read _ ih => rw [map_cons, read.key, ih, map_cons, map_cons]

end

/-- Written pairs with distinct keys are read back as the form, in any chunks. -/
theorem readForm_of_writes {params : List (Text × Text)} {pairs : List Text} {limit : Nat}
    {body : Body} (writes : Forall₂ WritesPair params pairs)
    (distinct : (params.map Prod.fst).Nodup) (named : ∀ param ∈ params, param.1 ≠ [])
    (joined : body.flatten = intercalate ['&'] pairs) (sufficient : body.flatten.length ≤ limit) :
    readForm limit body = .ok (firstValue params) := by
  obtain ⟨reads, plain⟩ := forall₂_of_writes writes named
  rw [readForm, drain, drainFrom_eq_ok (by simpa using sufficient), nil_append, joined]
  dsimp only
  rw [pairsOf_intercalate plain, foldlM_addPair_iff]
  refine ⟨params, reads, funext fun name => ?_⟩
  rw [formOf_eq distinct, Option.or_none]

/-- A form with distinct keys has the values of the query string. -/
theorem rawQuery_of_readForm {limit : Nat} {body : Body} {form : Form} {path : Text}
    (read : readForm limit body = .ok form)
    (distinct : ((pairsOf body.flatten).map decodedKey).Nodup) (unmarked : '?' ∉ path)
    (name : Text) : rawQuery (path ++ '?' :: body.flatten) name = form name := by
  rw [readForm] at read
  split at read
  · cases read
  rename_i text drained
  have whole := drainFrom_flatten drained
  rw [nil_append] at whole
  subst whole
  obtain ⟨params, reads, rfl⟩ := foldlM_addPair_iff.mp read
  rw [map_decodedKey reads] at distinct
  have query : queryString (path ++ '?' :: body.flatten) = body.flatten := by
    rw [queryString, cut_append unmarked]
    have found := cut_needle ['?'] body.flatten
    rw [singleton_append] at found
    rw [found]
    rfl
  rw [rawQuery, query, filterMap_queryParam reads,
    formOf_eq (Pairwise.of_map some (by simp) distinct), Option.or_none]

/-- Written pairs are read back as a form, and a form is what the query string gives. -/
theorem form_query_agree :
    (∀ (params : List (Text × Text)) (pairs : List Text) (limit : Nat) (body : Body),
      List.Forall₂ WritesPair params pairs → (params.map Prod.fst).Nodup →
      (∀ param ∈ params, param.1 ≠ []) → body.flatten = List.intercalate ['&'] pairs →
      body.flatten.length ≤ limit → readForm limit body = .ok (firstValue params)) ∧
    ∀ (limit : Nat) (body : Body) (form : Form) (path : Text),
      readForm limit body = .ok form → ((pairsOf body.flatten).map decodedKey).Nodup →
      '?' ∉ path → ∀ name, rawQuery (path ++ '?' :: body.flatten) name = form name :=
  ⟨fun _ _ _ _ writes distinct named joined sufficient =>
      readForm_of_writes writes distinct named joined sufficient,
    fun _ _ _ _ read distinct unmarked name => rawQuery_of_readForm read distinct unmarked name⟩

/-- The pairs `(k, &)` and `(l, )`, in two chunks and as a query. -/
theorem form_query_agree_escape :
    readForm 20 [['k', '=', '%', '2'], ['6', '&', 'l', '=']] =
        .ok (firstValue [(['k'], ['&']), (['l'], [])]) ∧
      ∀ name, rawQuery (['/', 'p'] ++ '?' :: ['k', '=', '%', '2', '6', '&', 'l', '=']) name =
        firstValue [(['k'], ['&']), (['l'], [])] name := by
  have letter : ∀ c, c ≠ '%' → c ≠ '+' → c ≠ '&' → c ≠ '=' → Escapes [c] [c] := by
    intro c percent plus ampersand equals
    exact ⟨.plain percent (fun _ => plus) .nil, by simpa using Ne.symm ampersand,
      by simpa using Ne.symm equals⟩
  have escaped : Escapes ['&'] ['%', '2', '6'] :=
    ⟨.escape (by decide) (by decide) .nil, by decide, by decide⟩
  have first : WritesPair (['k'], ['&']) ['k', '=', '%', '2', '6'] :=
    .mk (letter 'k' (by decide) (by decide) (by decide) (by decide)) escaped
  have second : WritesPair (['l'], []) ['l', '='] :=
    .mk (letter 'l' (by decide) (by decide) (by decide) (by decide))
      ⟨.nil, by decide, by decide⟩
  have read := form_query_agree.1 _ _ 20 [['k', '=', '%', '2'], ['6', '&', 'l', '=']]
    (.cons first (.cons second .nil)) (by decide) (by decide) rfl (by decide)
  exact ⟨read, form_query_agree.2 20 _ _ ['/', 'p'] read (by decide +kernel) (by decide)⟩

end Menagerie.Albatross
