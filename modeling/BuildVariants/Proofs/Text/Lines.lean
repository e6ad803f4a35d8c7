import BuildVariants.Listing
import BuildVariants.Text.Pieces

/-!
# Lines that are printed

What is printed line by line is read line by line: cut at every line end, it
gives the lines and the empty rest behind the last one (`pieces_unlines`). A line
end within a line would cut it in two, so there must be none, and that is all
there is to it (`pieces_unlines_iff`).
-/

namespace BuildVariants.Text

/-- Each line is followed by its line feed. -/
theorem unlines_cons (line : String) (lines : List String) :
    (unlines (line :: lines)).toList = line.toList ++ '\n' :: (unlines lines).toList := by
  rw [unlines, List.map_cons, String.join_cons, String.toList_append, String.toList_append,
    List.append_assoc]
  rfl

theorem unlines_append (lines others : List String) :
    unlines (lines ++ others) = unlines lines ++ unlines others := by
  rw [unlines, List.map_append, String.join_append]
  rfl

/-- **Lines that are printed are read back**, each of them whole. -/
theorem pieces_unlines {lines : List String} (h : ∀ line ∈ lines, '\n' ∉ line.toList) :
    (pieces '\n' (unlines lines).toList).map String.ofList = lines ++ [""] := by
  induction lines with
  | nil => rfl
  | cons line lines ih =>
    obtain ⟨hline, hlines⟩ := List.forall_mem_cons.1 h
    rw [unlines_cons, pieces_append_cons hline, List.map_cons, ih hlines, String.ofList_toList]
    rfl

/-- **A text that stays on one line.** -/
def OneLine (text : String) : Prop := '\n' ∉ text.toList

instance (text : String) : Decidable (OneLine text) := by
  unfold OneLine
  infer_instance

/-- A text made of two is one line if both of them are. -/
theorem oneLine_append_iff {first second : String} :
    OneLine (first ++ second) ↔ OneLine first ∧ OneLine second := by
  unfold OneLine
  rw [String.toList_append, List.mem_append, not_or]

/-- What is read where lines are broken: the pieces of each line, and the empty rest
behind the last one. -/
theorem pieces_unlines_eq (lines : List String) :
    pieces '\n' (unlines lines).toList
      = lines.flatMap (fun line => pieces '\n' line.toList) ++ [[]] := by
  induction lines with
  | nil => rfl
  | cons line lines ih =>
    rw [unlines_cons, pieces_append, ih, List.flatMap_cons, List.append_assoc]

/-- **Lines are read back exactly if each of them stays on one line.** -/
theorem pieces_unlines_iff {lines : List String} :
    (pieces '\n' (unlines lines).toList).map String.ofList = lines ++ [""]
      ↔ ∀ line ∈ lines, OneLine line := by
  refine ⟨fun h line hline => ?_, pieces_unlines⟩
  have hpiece : line ∈ (pieces '\n' (unlines lines).toList).map String.ofList := by
    rw [h]
    exact List.mem_append_left _ hline
  obtain ⟨chars, hchars, rfl⟩ := List.mem_map.1 hpiece
  unfold OneLine
  rw [String.toList_ofList]
  exact not_mem_of_mem_pieces hchars

end BuildVariants.Text
