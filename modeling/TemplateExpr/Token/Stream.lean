/-
# Streams of tokens

Whoever asks a source for its tokens, one after the other, is answered with tokens and errors:
after a faulty token the reading goes on behind the characters that were taken for it.  Where no
character is taken, at the end of the source and at a character that begins no token, every later
answer is the same.  So all answers together are a finite list and the one that remains.

Main statements:
* `length_rest_lt`: every token that is read leaves less text;
* `streamFrom_of_taken_eq_nil`, `streamFrom_of_taken_ne_nil`: the answers of a stream, one by one.
-/
import TemplateExpr.Token.Reading

namespace TemplateExpr

/-- A fault and where the faulty token begins. -/
structure LexicalError where
  /-- What is wrong. -/
  fault : LexicalFault
  /-- Where it begins. -/
  position : Position
deriving DecidableEq, Inhabited

/-- The message for an error. -/
def LexicalError.message (e : LexicalError) : String := e.fault.message ++ " at " ++ e.position.text

/-- The answer to a request for a token. -/
abbrev TokenAnswer := Except LexicalError (Located Token)

/-- The outcome of a reading, at the place where the reading began. -/
def Reading.answerAt (r : Reading) (p : Position) : TokenAnswer :=
  match r.outcome with
  | .ok token => .ok ⟨token, p⟩
  | .error fault => .error ⟨fault, p⟩

/-! ## Streams -/

/-- A finite list of answers and the answer that is repeated after them. -/
structure TokenStream where
  /-- The answers that are given once. -/
  ahead : List TokenAnswer
  /-- The answer that remains. -/
  final : TokenAnswer

namespace TokenStream

/-- The next answer. -/
def head (s : TokenStream) : TokenAnswer := s.ahead.headD s.final

/-- The stream after the next answer. -/
def tail (s : TokenStream) : TokenStream := ⟨s.ahead.tail, s.final⟩

/-- The stream with one more answer at its head. -/
def prepend (s : TokenStream) (answer : TokenAnswer) : TokenStream := ⟨answer :: s.ahead, s.final⟩

/-- The tokens before the first error among some answers and the final one, and that error. -/
def splitAtError (final : TokenAnswer) :
    List TokenAnswer → List (Located Token) × Option LexicalError
  | [] =>
    match final with
    | .ok _ => ([], none)
    | .error e => ([], some e)
  | .ok token :: answers =>
    let (tokens, error) := splitAtError final answers
    (token :: tokens, error)
  | .error e :: _ => ([], some e)

/-- The tokens before the first error, and the error if there is one. -/
def untilError (s : TokenStream) : List (Located Token) × Option LexicalError :=
  splitAtError s.final s.ahead

end TokenStream

/-- Where a token is read, less text is left. -/
theorem length_rest_lt {text : List Char}
    (h : (Token.read (text.dropWhile Text.isBlank)).taken ≠ []) :
    (Token.read (text.dropWhile Text.isBlank)).rest.length < text.length := by
  have hpos := List.length_pos_iff.2 h
  have happend := congrArg List.length (Token.read_append (text.dropWhile Text.isBlank))
  have hdrop := (List.dropWhile_sublist (l := text) Text.isBlank).length_le
  rw [List.length_append] at happend
  omega

/-- The stream of the text that begins at the given place. -/
def streamFrom (p : Position) (text : List Char) : TokenStream :=
  let start := p.after (text.takeWhile Text.isBlank)
  let reading := Token.read (text.dropWhile Text.isBlank)
  if _h : reading.taken = [] then ⟨[], reading.answerAt start⟩
  else
    (streamFrom (start.after reading.taken) reading.rest).prepend (reading.answerAt start)
termination_by text.length
decreasing_by exact length_rest_lt _h

theorem streamFrom_of_taken_eq_nil (p : Position) {text : List Char}
    (h : (Token.read (text.dropWhile Text.isBlank)).taken = []) :
    streamFrom p text = ⟨[], (Token.read (text.dropWhile Text.isBlank)).answerAt
      (p.after (text.takeWhile Text.isBlank))⟩ := by
  rw [streamFrom]
  simp only [h, dite_true]

theorem streamFrom_of_taken_ne_nil (p : Position) {text : List Char}
    (h : (Token.read (text.dropWhile Text.isBlank)).taken ≠ []) :
    streamFrom p text =
      (streamFrom ((p.after (text.takeWhile Text.isBlank)).after
          (Token.read (text.dropWhile Text.isBlank)).taken)
        (Token.read (text.dropWhile Text.isBlank)).rest).prepend
      ((Token.read (text.dropWhile Text.isBlank)).answerAt
        (p.after (text.takeWhile Text.isBlank))) := by
  rw [streamFrom]
  simp only [h, dite_false]

/-! ## Sources -/

/-- The stream of a source. -/
def streamOf (source : String) : TokenStream := streamFrom .start source.toList

/-- The tokens of a source without its end, or the first error. -/
def tokensOf (source : String) : Except LexicalError (List (Located Token)) :=
  match (streamOf source).untilError with
  | (tokens, none) => .ok tokens
  | (_, some e) => .error e

end TemplateExpr
