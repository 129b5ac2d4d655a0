import PlotPage.Document.Script
import PlotPage.Proofs.Text.SingleLine

/-!
# Texts cut at line feeds

A script is read line by line, that is, cut at its line feeds.  Cutting a script gives back the lines
it was put together from, except that a line which itself holds line feeds falls into several.
-/

namespace PlotPage

open Line

/-- The pieces of a text between its line feeds. -/
def Text.pieces (s : String) : List String := (s.toList.splitOn '\n').map String.ofList

namespace Text

/-- The pieces before a line feed and those after it are cut apart. -/
theorem pieces_append_feed (s t : String) : pieces (s ++ "\n" ++ t) = pieces s ++ pieces t := by
  have hfeed : "\n".toList = ['\n'] := by decide
  have hlist : (s ++ "\n" ++ t).toList = s.toList ++ '\n' :: t.toList := by
    rw [String.toList_append, String.toList_append, hfeed, List.append_assoc]
    rfl
  rw [pieces, hlist, List.splitOn_append_cons_self, List.map_append]
  rfl

theorem pieces_of_isSingle {s : String} (h : isSingle s = true) : pieces s = [s] := by
  have hmem : '\n' ∉ s.toList := fun hm => (isSingle_iff.mp h _ hm).1 rfl
  rw [pieces, List.splitOn_eq_singleton hmem, List.map_singleton, String.ofList_toList]

theorem flatMap_pieces_of_isSingle {ls : List String} (h : ∀ l ∈ ls, isSingle l = true) :
    ls.flatMap pieces = ls := by
  induction ls with
  | nil => rfl
  | cons l rest ih =>
    have hrest : ∀ m ∈ rest, isSingle m = true := fun m hm => h m (List.mem_cons_of_mem l hm)
    rw [List.flatMap_cons, pieces_of_isSingle (h l List.mem_cons_self), ih hrest]
    rfl

theorem pieces_joinLines {ls : List String} (h : ls ≠ []) :
    pieces (Document.joinLines ls) = ls.flatMap pieces ++ [""] := by
  have hempty : pieces "" = [""] := by decide
  induction ls with
  | nil => exact absurd rfl h
  | cons l rest ih =>
    rw [List.flatMap_cons]
    cases rest with
    | nil =>
      have hjoin : Document.joinLines [l] = l ++ "\n" ++ "" := by
        rw [Document.joinLines, String.intercalate_singleton, String.append_empty]
      rw [hjoin, pieces_append_feed, hempty, List.flatMap_nil, List.append_nil]
    | cons m rest =>
      have hjoin : Document.joinLines (l :: m :: rest) =
          l ++ "\n" ++ Document.joinLines (m :: rest) := by
        rw [Document.joinLines, Document.joinLines, String.intercalate_cons_cons,
          ← String.append_assoc]
      rw [hjoin, pieces_append_feed, ih (List.cons_ne_nil m rest), List.append_assoc]

end Text

end PlotPage
