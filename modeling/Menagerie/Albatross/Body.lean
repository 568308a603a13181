import Menagerie.Albatross.Response
import Menagerie.Library.Lines

/-!
# Bodies of requests

`Body` with its helpers `drain` and `read_multipart`. A position in a text is the text from there
on, and `find` cuts it at the first occurrence.
-/

namespace Menagerie.Albatross

open Beaver Search

/-- Two hyphens. -/
def dashes : Text := ['-', '-']

/-- `Body`: the chunks that `read_chunk` yields. -/
abbrev Body := List Text

/-- `Body::owned` and `Body::beast_view`: one chunk, unless it is empty. -/
def Body.owned (bytes : Text) : Body := if bytes = [] then [] else [bytes]

theorem Body.flatten_owned (bytes : Text) : (Body.owned bytes).flatten = bytes := by
  unfold Body.owned
  split <;> simp_all

/-- `MultipartField`. -/
@[ext]
structure MultipartField where
  name : Text := []
  value : Text := []
  contentType : Text := []
  filename : Text := []
  deriving DecidableEq

/-- What a reader of a body throws. -/
inductive BodyError
  | multipart (detail : Text)
  | limitExceeded (limit : Nat)
  deriving DecidableEq

/-- The loop of `drain`. -/
def drainFrom (limit : Nat) (out : Text) : Body → Except BodyError Text
  | [] => .ok out
  | chunk :: rest =>
    if limit < out.length + chunk.length then .error (.limitExceeded limit)
    else drainFrom limit (out ++ chunk) rest

/-- `Body::drain`. -/
def drain (limit : Nat) (body : Body) : Except BodyError Text := drainFrom limit [] body

theorem drainFrom_eq_ok {limit : Nat} {out : Text} {body : Body}
    (sufficient : out.length + body.flatten.length ≤ limit) :
    drainFrom limit out body = .ok (out ++ body.flatten) := by
  induction body generalizing out with
  | nil => simp [drainFrom]
  | cons chunk rest ih =>
    simp only [List.flatten_cons, List.length_append] at sufficient
    rw [drainFrom, if_neg (by omega), ih (by simp only [List.length_append]; omega)]
    simp

theorem drainFrom_flatten {limit : Nat} {out text : Text} {body : Body}
    (drained : drainFrom limit out body = .ok text) : text = out ++ body.flatten := by
  induction body generalizing out with
  | nil =>
    cases drained
    simp
  | cons chunk rest ih =>
    rw [drainFrom] at drained
    split at drained
    · cases drained
    · rw [ih drained]
      simp

/-- `ci_starts`. -/
def ciStarts (line start : Text) : Bool :=
  start.length ≤ line.length &&
    (line.take start.length).map Char.toLower == start.map Char.toLower

/-- The search of `param`: what follows the first `key=` that no letter precedes. -/
def findParam (key : Text) : Option Char → Text → Option Text
  | _, [] => none
  | previous, c :: rest =>
    if !previous.any Char.isAlpha && (key ++ ['=']).isPrefixOf (c :: rest) then
      some ((c :: rest).drop (key.length + 1))
    else findParam key (some c) rest

/-- The quoted text at the front, or the empty one. -/
def quoted : Text → Text
  | '"' :: rest =>
    match cut ['"'] rest with
    | none => []
    | some (text, _) => text
  | _ => []

/-- `param`. -/
def param (line key : Text) : Text :=
  match findParam key none line with
  | none => []
  | some rest => quoted rest

/-- What a header line of a part adds to its field. -/
def readHeaderLine (field : MultipartField) (line : Text) : MultipartField :=
  if ciStarts line "content-disposition:".toList then
    { field with
      name := param line "name".toList
      filename := param line "filename".toList }
  else if ciStarts line "content-type:".toList then
    let value := (line.dropWhile (· ≠ ':')).tail
    { field with contentType := value.dropWhile (fun c => c = ' ' || c = '\t') }
  else field

/-- The field of a part, from its header lines. -/
def readPart (headers value : Text) : MultipartField :=
  { (Lines.split headers).foldl readHeaderLine {} with value := value }

/-- A line end at the front is skipped. -/
def skipCrlf : Text → Text
  | '\r' :: '\n' :: rest => rest
  | rest => rest

/-- The loop of `read_multipart` behind a delimiter; `fuel` bounds what is left. -/
def readParts (delim : Text) : Nat → Text → Except BodyError (List MultipartField)
  | 0, _ => .ok []
  | fuel + 1, rest =>
    if rest = [] then .ok []
    else if dashes.isPrefixOf rest then .ok []
    else
      match cut (crlf ++ crlf) (skipCrlf rest) with
      | none => .error (.multipart "unterminated headers".toList)
      | some (headers, after) =>
        match cut (crlf ++ delim) after with
        | none => .error (.multipart "unterminated part".toList)
        | some (value, next) => (readParts delim fuel next).map (readPart headers value :: ·)

/-- `Body::read_multipart`. -/
def readMultipart (limit : Nat) (boundary : Text) (body : Body) :
    Except BodyError (List MultipartField) :=
  if boundary = [] then .error (.multipart "empty boundary".toList)
  else
    match drain limit body with
    | .error error => .error error
    | .ok text =>
      let delim := dashes ++ boundary
      match cut delim text with
      | none => .error (.multipart "no boundary found".toList)
      | some (_, rest) => readParts delim rest.length rest

end Menagerie.Albatross
