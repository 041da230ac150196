/-!
# Blanks and words

The characters that separate words: the ASCII blanks, the byte order mark, the line and
paragraph separators and every space separator of Unicode. `words` cuts a text into its maximal
runs of other characters.
-/

namespace BenchGate.Text

/-- The space separators of Unicode, the two line separators, the byte order mark and the ASCII
blanks. -/
def isBlank (c : Char) : Bool :=
  let n := c.toNat
  (0x09 ≤ n && n ≤ 0x0d) || n = 0x20 || n = 0xa0 || n = 0x1680 || (0x2000 ≤ n && n ≤ 0x200a) ||
    n = 0x2028 || n = 0x2029 || n = 0x202f || n = 0x205f || n = 0x3000 || n = 0xfeff

theorem length_dropWhile_le {α : Type} (p : α → Bool) (l : List α) :
    (l.dropWhile p).length ≤ l.length :=
  (List.dropWhile_sublist p).length_le

/-- The maximal runs of characters that are not blank, in order. -/
def words (text : List Char) : List (List Char) :=
  match _h : text.dropWhile isBlank with
  | [] => []
  | c :: rest =>
    (c :: rest.takeWhile fun d => !isBlank d) :: words (rest.dropWhile fun d => !isBlank d)
termination_by text.length
decreasing_by
  have h₁ := length_dropWhile_le isBlank text
  have h₂ := length_dropWhile_le (fun d => !isBlank d) rest
  rw [_h, List.length_cons] at h₁
  omega

end BenchGate.Text
