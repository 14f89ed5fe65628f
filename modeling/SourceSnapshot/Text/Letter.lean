import SourceSnapshot.Text.LetterTable

/-! Letters and numbers of any script. -/
namespace SourceSnapshot.Letter

def isAlphabetic (c : Char) : Bool :=
  LetterTable.alphabetic.any fun r => r.1 ≤ c.toNat && c.toNat ≤ r.2

def isAlphanumeric (c : Char) : Bool :=
  isAlphabetic c || LetterTable.otherNumbers.any fun r => r.1 ≤ c.toNat && c.toNat ≤ r.2

end SourceSnapshot.Letter
