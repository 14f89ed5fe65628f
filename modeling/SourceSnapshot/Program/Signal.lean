/-! The signals that can end a program, by number and name. -/
namespace SourceSnapshot.Signal

def names : List (Nat × String) := [
  (1, "HUP"), (2, "INT"), (3, "QUIT"), (4, "ILL"), (5, "TRAP"), (6, "ABRT"), (7, "BUS"), (8, "FPE"),
  (9, "KILL"), (10, "USR1"), (11, "SEGV"), (12, "USR2"), (13, "PIPE"), (14, "ALRM"), (15, "TERM"),
  (16, "STKFLT"), (17, "CHLD"), (18, "CONT"), (19, "STOP"), (20, "TSTP"), (21, "TTIN"),
  (22, "TTOU"), (23, "URG"), (24, "XCPU"), (25, "XFSZ"), (26, "VTALRM"), (27, "PROF"),
  (28, "WINCH"), (29, "IO"), (30, "PWR"), (31, "SYS")]

def greatest : Nat := 64

def default : Nat := 15

/-- Whether a program that does not expect a signal lives on when it comes; number 0 is none. -/
def isHarmless (number : Nat) : Bool := [0, 17, 18, 23, 28].contains number

def isUnstoppable (number : Nat) : Bool := [9, 19].contains number

def ofName? (name : String) : Option Nat := (names.find? (·.2 == name)).map Prod.fst

def describe (number : Nat) : String :=
  match names.lookup number with
  | none => s!"signal: {number}"
  | some name => s!"signal: {number} (SIG{name})"

end SourceSnapshot.Signal
