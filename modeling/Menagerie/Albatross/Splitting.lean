import Menagerie.Albatross.Framing

/-!
# Response splitting

Neither the headers of a response nor `serialize_response` look at the characters of a name or of a
value, so a line end in them becomes a line end of the head.
-/

namespace Menagerie.Albatross

open Beaver Search Lines List

/-- `RequestContext::redirect`. -/
def redirect (location : Text) (status : HttpStatus) : Response :=
  ({ status := status } : Response).addHeader "Location".toList location

/-- The head that a reader finds has the status line, a line for each header and the added lines,
and the body follows. -/
def HeadIntact (stamps : Stamps) (response : Response) : Prop :=
  ∃ head, cut (crlf ++ crlf) (serializeResponse stamps response) = some (head, response.written) ∧
    Lines.split head = headText stamps response

/-- No header contains a line end. -/
def Response.Unbroken (response : Response) : Prop :=
  ∀ header ∈ response.headers, ¬crlf <:+: header.1 ∧ ¬crlf <:+: header.2

theorem ending_infix_fieldLine_iff (header : Text × Text) :
    ending <:+: Http.fieldLine header ↔ crlf <:+: header.1 ∨ crlf <:+: header.2 := by
  obtain ⟨name, value⟩ := header
  constructor
  · intro inside
    induction name with
    | nil =>
      rcases infix_cons_iff.mp inside with front | inside
      · simp [ending, cons_prefix_cons] at front
      · rcases infix_cons_iff.mp inside with front | inside
        · simp [ending, cons_prefix_cons] at front
        · exact .inr inside
    | cons c name ih =>
      rcases infix_cons_iff.mp inside with front | inside
      · obtain ⟨rfl, front⟩ := cons_prefix_cons.mp front
        cases name with
        | nil => simp [cons_prefix_cons] at front
        | cons d name =>
          obtain ⟨rfl, -⟩ := cons_prefix_cons.mp front
          exact .inl (prefix_append crlf name).isInfix
      · rcases ih inside with here | there
        · exact .inl (here.trans (suffix_cons ..).isInfix)
        · exact .inr there
  · rintro (inside | inside)
    · exact inside.trans (prefix_append ..).isInfix
    · have behind : value <:+ Http.fieldLine (name, value) := ⟨name ++ ": ".toList, by
        simp [Http.fieldLine]⟩
      exact inside.trans behind.isInfix

/-- The head is intact exactly when no header contains a line end. -/
theorem response_head_intact_iff {stamps : Stamps} (sound : stamps.Sound) (response : Response) :
    HeadIntact stamps response ↔ response.Unbroken := by
  constructor
  · rintro ⟨head, -, split⟩ header member
    have line : Http.fieldLine header ∈ Lines.split head := by
      rw [split]
      exact mem_cons_of_mem _ (mem_map_of_mem (headers_subset member))
    have closed := split_closed head _ line
    rw [ending_infix_fieldLine_iff, not_or] at closed
    exact closed
  · intro unbroken
    have whole : ∀ line ∈ headText stamps response, Whole line := by
      refine headText_whole sound (fun header member => ?_)
      rw [ending_infix_fieldLine_iff, not_or]
      exact unbroken header member
    refine ⟨_, ?_, split_join whole⟩
    rw [serializeResponse_eq]
    exact cut_blank whole _

/-- A redirect to a plain target. -/
theorem redirect_head_intact : HeadIntact someStamps (redirect "/home".toList .found) := by
  refine (response_head_intact_iff someStamps_sound (redirect "/home".toList .found)).mpr ?_
  intro header member
  rw [mem_singleton.mp member]
  decide

def cookieTarget : Text := "/\r\nSet-Cookie: a=b".toList

/-- The cookie becomes a line of the head. -/
theorem redirect_head_split :
    (cut (crlf ++ crlf) (serializeResponse someStamps (redirect cookieTarget .found))).map
      (fun found => Lines.split found.1) =
        some ["HTTP/1.1 302 OK".toList, "Location: /".toList, "Set-Cookie: a=b".toList,
          "Date: Thu, 01 Jan 1970 00:00:00 GMT".toList, "Server: Menagerie".toList,
          "Content-Length: 0".toList] ∧
    ¬HeadIntact someStamps (redirect cookieTarget .found) := by
  have lines : (cut (crlf ++ crlf) (serializeResponse someStamps
      (redirect cookieTarget .found))).map (fun found => split found.1) =
        some ["HTTP/1.1 302 OK".toList, "Location: /".toList, "Set-Cookie: a=b".toList,
          "Date: Thu, 01 Jan 1970 00:00:00 GMT".toList, "Server: Menagerie".toList,
          "Content-Length: 0".toList] := by decide +kernel
  refine ⟨lines, ?_⟩
  rintro ⟨head, found, split⟩
  rw [found, Option.map_some, split, Option.some.injEq] at lines
  exact absurd (congrArg length lines) (by decide +kernel)

end Menagerie.Albatross
