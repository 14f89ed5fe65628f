/-! The lines of a text. Each keeps its line feed, so a text is the concatenation of its lines. -/
namespace SourceSnapshot.Lines

def push (c : Char) (rest : List (List Char)) : List (List Char) :=
  if c = '\n' then [c] :: rest
  else match rest with
    | [] => [[c]]
    | line :: later => (c :: line) :: later

/-- The lines of a text: each ends at a line feed, except a last one without. The empty text has
none. -/
def split (s : List Char) : List (List Char) := s.foldr push []

@[simp] theorem flatten_push (c : Char) (rest : List (List Char)) :
    (push c rest).flatten = c :: rest.flatten := by
  unfold push
  split
  · simp
  · cases rest <;> simp

/-- No character is lost, added or moved. -/
@[simp] theorem flatten_split (s : List Char) : (split s).flatten = s := by
  induction s with
  | nil => rfl
  | cons c s ih =>
    simp only [split, List.foldr_cons, flatten_push, List.cons.injEq, true_and] at *
    exact ih

end SourceSnapshot.Lines
