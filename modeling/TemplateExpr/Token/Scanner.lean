/-
# Scanners

A scanner goes through a source and answers each request with the next token or an error.  It can
also list the tokens: the list ends before the end of the source or with the first error, whatever
further requests would be answered with.

Main statements:
* `next_stream`: a scanner answers with the head of its stream and goes on with the tail;
* `nextItem_of_finished`: a list that has ended stays ended.
-/
import TemplateExpr.Token.Stream

namespace TemplateExpr

/-- No blank is skipped twice. -/
theorem takeWhile_dropWhile (p : Char → Bool) (cs : List Char) :
    (cs.dropWhile p).takeWhile p = [] := by
  induction cs with
  | nil => rfl
  | cons c cs ih => by_cases h : p c = true <;> simp [h, ih]

theorem dropWhile_dropWhile (p : Char → Bool) (cs : List Char) :
    (cs.dropWhile p).dropWhile p = cs.dropWhile p := by
  induction cs with
  | nil => rfl
  | cons c cs ih => by_cases h : p c = true <;> simp [h, ih]

/-- A source under way. -/
structure Scanner where
  /-- The text that is left. -/
  rest : List Char
  /-- Where it begins. -/
  position : Position
  /-- The list of tokens has ended. -/
  finished : Bool
deriving Inhabited

namespace Scanner

/-- A scanner at the beginning of a source. -/
def ofSource (source : String) : Scanner := ⟨source.toList, .start, false⟩

/-- The answers to all further requests. -/
def stream (s : Scanner) : TokenStream := streamFrom s.position s.rest

theorem stream_ofSource (source : String) : (ofSource source).stream = streamOf source := rfl

/-! ## Requests -/

/-- The next token, the end of the source included, and the scanner behind it. -/
def next (s : Scanner) : TokenAnswer × Scanner :=
  let start := s.position.after (s.rest.takeWhile Text.isBlank)
  let reading := Token.read (s.rest.dropWhile Text.isBlank)
  (reading.answerAt start,
    { s with rest := reading.rest, position := start.after reading.taken })

/-- A scanner answers with the head of its stream and goes on with the tail. -/
theorem next_stream (s : Scanner) :
    s.next.1 = s.stream.head ∧ s.next.2.stream = s.stream.tail := by
  by_cases h : (Token.read (s.rest.dropWhile Text.isBlank)).taken = []
  · have hs : s.stream = ⟨[], s.next.1⟩ := streamFrom_of_taken_eq_nil s.position h
    have hrest : (Token.read (s.rest.dropWhile Text.isBlank)).rest =
        s.rest.dropWhile Text.isBlank := by
      have happend := Token.read_append (s.rest.dropWhile Text.isBlank)
      rwa [h, List.nil_append] at happend
    refine ⟨by rw [hs]; rfl, ?_⟩
    rw [hs, stream, streamFrom]
    simp only [next, h, hrest, Position.after_nil, takeWhile_dropWhile, dropWhile_dropWhile,
      dite_true, TokenStream.tail, List.tail_nil]
  · have hs : s.stream = s.next.2.stream.prepend s.next.1 :=
      streamFrom_of_taken_ne_nil s.position h
    rw [hs]
    exact ⟨rfl, rfl⟩

/-! ## The list of tokens -/

/-- The next item of the list of tokens, if it has not ended. -/
def nextItem (s : Scanner) : Option TokenAnswer × Scanner :=
  if s.finished then (none, s)
  else
    match s.next with
    | (.ok ⟨.endOfSource, _⟩, rest) => (none, { rest with finished := true })
    | (.error e, rest) => (some (.error e), { rest with finished := true })
    | (answer, rest) => (some answer, rest)

theorem nextItem_of_finished {s : Scanner} (h : s.finished = true) : s.nextItem = (none, s) := by
  simp [nextItem, h]

end Scanner

end TemplateExpr
