/-! File contents and names are finite sequences of bytes, as the disk keeps them; text is a reading
of them (`SourceSnapshot.Utf8`). -/
namespace SourceSnapshot

abbrev Bytes := List UInt8

/-- The parts of a list between the elements that satisfy `sep`, which are dropped; a list without
one is its own only part. -/
def cutWhere {α : Type} (sep : α → Bool) (xs : List α) : List (List α) :=
  xs.foldr (fun x parts => if sep x then [] :: parts else
    match parts with
    | [] => [[x]]
    | part :: rest => (x :: part) :: rest) [[]]

/-- Leaves out every element at the end that satisfies `p`, up to the last that does not. -/
def dropWhileEnd {α : Type} (p : α → Bool) (xs : List α) : List α :=
  (xs.reverse.dropWhile p).reverse

end SourceSnapshot
