import LatencySweep.Number.Digits

/-
  Signals by number and name.

  Key definitions include:
    * `Signal.names`
    * `Signal.ofText?`
    * `Signal.nameOf`
    * `Signal.notice?`
-/

namespace LatencySweep

namespace Signal

/- The names of signals in the order of their numbers. The
   first one stands for the end of the shell. -/
def names : List String :=
  [ "EXIT", "HUP", "INT", "QUIT", "ILL", "TRAP", "ABRT",
    "BUS", "FPE", "KILL", "USR1", "SEGV", "USR2", "PIPE",
    "ALRM", "TERM", "STKFLT", "CHLD", "CONT", "STOP", "TSTP",
    "TTIN", "TTOU", "URG", "XCPU", "XFSZ", "VTALRM", "PROF",
    "WINCH", "IO", "PWR", "SYS" ]

/- The number of a signal that is given by number or
   name. -/
def ofText? (text : String) : Option Nat :=
  let cs := text.toList
  if cs ≠ [] ∧ cs.all isDigit then
    let n := digitsValue cs
    if n < 65 then some n else none
  else
    let upper := String.ofList (cs.map Char.toUpper)
    names.idxOf? upper

/- The name of a signal. -/
def nameOf (n : Nat) : String :=
  (names[n]?).getD (toString n)

/- A signal that does not end a program by itself. -/
def isHarmless (n : Nat) : Bool :=
  [0, 17, 18, 23, 28].contains n

/- What the shell says about a program that a signal has
   ended. -/
def notice? (n : Nat) : Option String :=
  match n with
  | 1 => some "Hangup"
  | 3 => some "Quit"
  | 4 => some "Illegal instruction"
  | 5 => some "Trace/breakpoint trap"
  | 6 => some "Aborted"
  | 7 => some "Bus error"
  | 8 => some "Floating point exception"
  | 9 => some "Killed"
  | 10 => some "User defined signal 1"
  | 11 => some "Segmentation fault"
  | 12 => some "User defined signal 2"
  | 14 => some "Alarm clock"
  | 15 => some "Terminated"
  | _ => none

example : ofText? "term" = some 15 := by decide +kernel
example : ofText? "SIGTERM" = none := by decide +kernel

end Signal

end LatencySweep
