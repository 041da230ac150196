import BenchGate.Console.Line

/-!
# Printed lines

Lines are printed one after the other (`Line.print_append`), and a plain line is its text and a line
break, with and without colours (`Line.print_ofText`).
-/

namespace BenchGate.Line

theorem print_append (colours : Bool) (lines lines' : List Line) :
    print colours (lines ++ lines') = print colours lines ++ print colours lines' := by
  simp [print]

/-- A plain line is printed as it is. -/
theorem print_ofText (colours : Bool) (text : String) :
    print colours [ofText text] = text ++ "\n" := by
  cases colours <;> simp [print, render, ofText, coloured, Line.text, Style.apply, Style.codes?]

/-- Plain lines are printed as they are. -/
theorem print_map_ofText (colours : Bool) (texts : List String) :
    print colours (texts.map fun text => ofText text) =
      String.join (texts.map fun text => text ++ "\n") := by
  induction texts with
  | nil => rfl
  | cons text texts ih =>
    rw [List.map_cons, List.map_cons, String.join_cons, ← List.singleton_append, print_append,
      print_ofText, ih]

end BenchGate.Line
