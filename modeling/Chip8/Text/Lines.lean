/-!
# Lines

Printed text is put together line by line and ended line by line, so that texts can be appended.

* `ofLines` — lines as a text in which every line is ended; `ofLines_append`, `ofLines_intercalate`.
-/

namespace Chip8.Text

/-- Lines as a text; every line is ended, the last one too. -/
def ofLines (lines : List String) : String := String.join (lines.map (· ++ "\n"))

theorem ofLines_append (first second : List String) :
    ofLines (first ++ second) = ofLines first ++ ofLines second := by
  simp [ofLines, String.join_append]

/-- Lines with breaks between them are one line that is ended. -/
theorem ofLines_intercalate {lines : List String} (filled : lines ≠ []) :
    ofLines ["\n".intercalate lines] = ofLines lines := by
  induction lines with
  | nil => exact absurd rfl filled
  | cons line rest ih =>
    cases rest with
    | nil => simp
    | cons next rest =>
      have ended := ih (List.cons_ne_nil _ _)
      simp only [ofLines, List.map_cons, List.map_nil, String.join_cons, String.join_nil,
        String.append_empty] at ended ⊢
      rw [← ended, String.intercalate_cons_cons, String.append_assoc, String.append_assoc]

end Chip8.Text
