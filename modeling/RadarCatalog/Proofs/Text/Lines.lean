import RadarCatalog.Text.Lines

/-!
# Texts made of lines

A text that is made of lines without line ends in them is cut into just these lines.
-/

namespace RadarCatalog.Text

/-- The text of some lines. -/
def ofLines (lines : List (List Char)) : List Char := lines.flatMap fun line => line ++ ['\n']

theorem ofLines_append (lines lines' : List (List Char)) :
    ofLines (lines ++ lines') = ofLines lines ++ ofLines lines' := List.flatMap_append

theorem linesFrom_line : ∀ {line read rest : List Char}, (∀ c ∈ line, c ≠ '\n' ∧ c ≠ '\r') →
    linesFrom read (line ++ '\n' :: rest) = (read.reverse ++ line) :: linesFrom [] rest
  | [], read, rest, _ => by simp [linesFrom]
  | c :: line, read, rest, h => by
    obtain ⟨hfeed, hreturn⟩ := h c List.mem_cons_self
    have hstep : linesFrom read (c :: (line ++ '\n' :: rest)) =
        linesFrom (c :: read) (line ++ '\n' :: rest) := by
      rw [linesFrom]
      · exact fun _ e _ => hreturn e
      · exact fun e => hfeed e
    rw [List.cons_append, hstep, linesFrom_line fun a ha => h a (List.mem_cons_of_mem _ ha)]
    simp

/-- **A text is cut into the lines** that it was made of. -/
theorem linesOf_ofLines : ∀ {lines : List (List Char)},
    (∀ line ∈ lines, ∀ c ∈ line, c ≠ '\n' ∧ c ≠ '\r') → linesOf (ofLines lines) = lines
  | [], _ => rfl
  | line :: lines, h => by
    have hline : linesFrom [] (line ++ '\n' :: ofLines lines) =
        line :: linesFrom [] (ofLines lines) := linesFrom_line (h line List.mem_cons_self)
    have hrest : linesFrom [] (ofLines lines) = lines :=
      linesOf_ofLines fun line' hline' => h line' (List.mem_cons_of_mem _ hline')
    rw [linesOf, ofLines, List.flatMap_cons, List.append_assoc]
    exact hline.trans (congrArg (line :: ·) hrest)

end RadarCatalog.Text
