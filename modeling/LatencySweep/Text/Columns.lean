/-
  Text padded to a width, for reports in columns.

  Key definitions include:
    * `padLeft`
    * `padRight`
-/

namespace LatencySweep

/- Blanks that bring a text to the given width. -/
def padding (width : Nat) (text : String) : String :=
  String.ofList (List.replicate (width - text.length) ' ')

/- The text at the right end of a column. -/
def padLeft (width : Nat) (text : String) : String :=
  padding width text ++ text

/- The text at the left end of a column. -/
def padRight (width : Nat) (text : String) : String :=
  text ++ padding width text

end LatencySweep
