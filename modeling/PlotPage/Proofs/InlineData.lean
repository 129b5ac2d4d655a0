import PlotPage.Proofs.Number.Numeral
import PlotPage.Proofs.Table
import PlotPage.Proofs.Workspace

/-!
# Inline data read back

The inline data of a graph follow its command without anything that names the tables: what ends a
table is the line `e`, and what separates two numbers is a single space.  A reader that knows only
these two rules gets back all tables of the graph (`Plot.readLines?_dataLines`).  Three facts carry
this: no row is written as `e`, a row has at least one number, and the text of a double holds no
space and is read back as the double.
-/

namespace PlotPage

namespace Table

/-! ### The reader -/

/-- The numbers of a row, which is cut at every single space. -/
def readRow? (line : String) : Option (List Double) :=
  (line.toList.splitOn ' ').mapM fun cs => Numeral.read? (String.ofList cs)

/-- The tables in inline data: the rows of each are the lines up to the next terminator, and after
the last terminator no line is left over. -/
def readLines? (ls : List String) : Option (List Table) :=
  let blocks := ls.splitOn terminator
  if blocks.getLast? = some [] then blocks.dropLast.mapM fun rows => rows.mapM readRow? else none

/-! ### Rows -/

theorem space_not_mem_text (d : Double) : ' ' ∉ d.text.toList :=
  fun h => absurd (d.numberChars_text ' ' h) (by decide)

theorem splitOn_rowLine {row : List Double} (h : row ≠ []) :
    (rowLine row).toList.splitOn ' ' = row.map fun d => d.text.toList := by
  have hspace : " ".toList = [' '] := by decide
  rw [rowLine, String.toList_intercalate, hspace, List.map_map]
  refine List.splitOn_intercalate ' ' ?_ (fun hnil => h (List.map_eq_nil_iff.mp hnil))
  intro l hl
  obtain ⟨d, -, rfl⟩ := List.mem_map.mp hl
  exact space_not_mem_text d

/-- Reading every part of a text gives back the parts if each of them is read back. -/
theorem mapM_map_of_left_inverse {α β : Type} {write : α → β} {read : β → Option α} {xs : List α}
    (h : ∀ x ∈ xs, read (write x) = some x) : (xs.map write).mapM read = some xs := by
  induction xs with
  | nil => rfl
  | cons x xs ih =>
    rw [List.map_cons, List.mapM_cons, h x List.mem_cons_self,
      ih fun y hy => h y (List.mem_cons_of_mem x hy)]
    rfl

/-- A row is read back, unless it has no number. -/
theorem readRow?_rowLine {row : List Double} (h : row ≠ []) : readRow? (rowLine row) = some row := by
  rw [readRow?, splitOn_rowLine h]
  refine mapM_map_of_left_inverse fun d _ => ?_
  rw [String.ofList_toList]
  exact Numeral.read?_text d

/-! ### Tables -/

/-- The terminator cuts the data of a table off from what follows. -/
theorem splitOn_lines_append (t : Table) (ls : List String) :
    (lines t ++ ls).splitOn terminator = t.map rowLine :: ls.splitOn terminator := by
  have hrow : terminator ∉ t.map rowLine := by
    intro h
    obtain ⟨row, -, hrow⟩ := List.mem_map.mp h
    exact rowLine_ne_terminator row hrow
  rw [lines_eq, List.append_assoc, List.singleton_append, List.splitOn_append_cons_self,
    List.splitOn_eq_singleton hrow, List.singleton_append]

theorem splitOn_flatMap_lines (ts : List Table) :
    (ts.flatMap lines).splitOn terminator = ts.map (List.map rowLine) ++ [[]] := by
  induction ts with
  | nil => rfl
  | cons t ts ih =>
    rw [List.flatMap_cons, splitOn_lines_append, ih, List.map_cons, List.cons_append]

/-- **Tables without empty rows are read back from their lines.** -/
theorem readLines?_flatMap_lines {ts : List Table} (h : ∀ t ∈ ts, ∀ row ∈ t, row ≠ []) :
    readLines? (ts.flatMap lines) = some ts := by
  have hblocks : (ts.map (List.map rowLine)).mapM (fun rows => rows.mapM readRow?) = some ts :=
    mapM_map_of_left_inverse fun t ht =>
      mapM_map_of_left_inverse fun row hrow => readRow?_rowLine (h t ht row hrow)
  simp only [readLines?, splitOn_flatMap_lines]
  rw [List.getLast?_concat, if_pos rfl, List.dropLast_concat, hblocks]

end Table

/-! ### Plots -/

namespace Plot

/-- The table of a plot, if it draws one. -/
def table? (p : Plot) : Option Table :=
  match p.source with
  | .function _ => none
  | .table rows => some rows

/-- The tables among plots, in the order of the plots. -/
def tables (ps : List Plot) : List Table := ps.filterMap table?

/-- Plots with expressions leave nothing in the inline data. -/
theorem flatMap_dataLines (ps : List Plot) :
    ps.flatMap dataLines = (tables ps).flatMap Table.lines := by
  induction ps with
  | nil => rfl
  | cons p ps ih =>
    obtain ⟨source, title, style⟩ := p
    rw [List.flatMap_cons, ih]
    cases source with
    | function expression => rfl
    | table rows => rfl

theorem Constructed.row_ne_nil {p : Plot} (h : Constructed p) {t : Table} (ht : p.table? = some t)
    {row : List Double} (hrow : row ∈ t) : row ≠ [] := by
  cases h with
  | function h =>
    simp only [ofFunction, bind_eq_ok_iff, pure_eq_ok_iff] at h
    obtain ⟨e, -, title, -, style, -, rfl⟩ := h
    exact absurd ht (by simp [table?])
  | table h =>
    simp only [ofTable, bind_eq_ok_iff, pure_eq_ok_iff] at h
    obtain ⟨rows, hrows, title, -, style, -, rfl⟩ := h
    obtain rfl : rows = t := Option.some.inj ht
    exact Table.row_ne_nil_of_ofValue hrows hrow

/-- **The inline data of constructed plots are read back as their tables.** -/
theorem readLines?_dataLines {ps : List Plot} (h : ∀ p ∈ ps, p.Constructed) :
    Table.readLines? (ps.flatMap dataLines) = some (tables ps) := by
  rw [flatMap_dataLines]
  refine Table.readLines?_flatMap_lines fun t ht row hrow => ?_
  obtain ⟨p, hp, htable⟩ := List.mem_filterMap.mp ht
  exact (h p hp).row_ne_nil htable hrow

end Plot

/-! ### Graphs -/

theorem Graph.drawingLines_eq (g : Graph) :
    g.drawingLines = g.plotCommand?.toList ++ g.dataLines := by
  rw [drawingLines]
  cases hcommand : g.plotCommand? with
  | none =>
    have hempty : g.plots = [] := by
      rw [plotCommand?, ite_eq_left_iff] at hcommand
      by_contra hplots
      exact absurd (hcommand fun h => hplots (List.isEmpty_iff.mp h)) (by simp)
    rw [dataLines, hempty]
    rfl
  | some command => rfl

/-- **A graph's tables are read back from the lines after its command**, so no other plots give the
same lines there unless they have the same tables. -/
theorem Workspace.tables_of_graphLines {w : Workspace} {id : GraphId}
    (h : ∀ p ∈ (w.graph id).plots, p.Constructed) :
    ∃ settings inline, w.graphLines id = settings ++ (w.graph id).plotCommand?.toList ++ inline ∧
      settings = (w.graph id).axes.flatMap (fun e => (w.axis e.2).lines) ∧
      Table.readLines? inline = some (Plot.tables (w.graph id).plots) ∧
      ∀ ps : List Plot, (∀ p ∈ ps, p.Constructed) → ps.flatMap Plot.dataLines = inline →
        Plot.tables ps = Plot.tables (w.graph id).plots := by
  have hread := Plot.readLines?_dataLines h
  refine ⟨_, (w.graph id).dataLines, ?_, rfl, hread, ?_⟩
  · rw [graphLines, Graph.drawingLines_eq, List.append_assoc]
  · intro ps hps hsame
    rw [Graph.dataLines] at hsame
    exact Option.some.inj ((Plot.readLines?_dataLines hps).symm.trans (hsame ▸ hread))

/-- Two tables with a function between them and another one after them; the first table is a flat
column, and both expressions look like something that the command or the data hold. -/
theorem Workspace.tables_of_graphLines_two_tables :
    ∃ p q r s, Plot.ofTable (.list [.real (.zero true), .text " 1e3 ", .null]) .null .null = .ok p ∧
      Plot.ofFunction (.text "e") .null .null = .ok q ∧
      Plot.ofTable (.tuple [.list [.int 1, .bool true], .list [.int 2, .int (-7)]]) .null .null =
        .ok r ∧
      Plot.ofFunction (.text "'-'") .null .null = .ok s ∧
      let w : Workspace := ⟨[], [⟨false, [p, q, r, s], []⟩]⟩
      w.graphLines 0 = "plot '-', e, '-', '-'" ::
        ["-0.0", "1000.0", "nan", "e", "1.0 1.0", "2.0 -7.0", "e"] ∧
      Table.readLines? ["-0.0", "1000.0", "nan", "e", "1.0 1.0", "2.0 -7.0", "e"] =
        some [[[.zero true], [.ofInt 1000], [.nan]],
          [[.ofInt 1, .ofInt 1], [.ofInt 2, .ofInt (-7)]]] := by
  have hcolumn := toOption_eq_some_iff.mp (by decide +kernel :
    (Table.ofValue (.list [.real (.zero true), .text " 1e3 ", .null])).toOption =
      some [[.zero true], [.ofInt 1000], [.nan]])
  have hrows := toOption_eq_some_iff.mp (by decide +kernel :
    (Table.ofValue (.tuple [.list [.int 1, .bool true], .list [.int 2, .int (-7)]])).toOption =
      some [[.ofInt 1, .ofInt 1], [.ofInt 2, .ofInt (-7)]])
  have hp : Plot.ofTable (.list [.real (.zero true), .text " 1e3 ", .null]) .null .null =
      .ok ⟨.table [[.zero true], [.ofInt 1000], [.nan]], none, none⟩ := by
    rw [Plot.ofTable, hcolumn]
    rfl
  have hr : Plot.ofTable (.tuple [.list [.int 1, .bool true], .list [.int 2, .int (-7)]])
      .null .null = .ok ⟨.table [[.ofInt 1, .ofInt 1], [.ofInt 2, .ofInt (-7)]], none, none⟩ := by
    rw [Plot.ofTable, hrows]
    rfl
  have hq : Plot.ofFunction (.text "e") .null .null = .ok ⟨.function "e", none, none⟩ := rfl
  have hs : Plot.ofFunction (.text "'-'") .null .null = .ok ⟨.function "'-'", none, none⟩ := rfl
  refine ⟨_, _, _, _, hp, hq, hr, hs, ?_⟩
  intro w
  have hbuilt : ∀ p ∈ (w.graph 0).plots, p.Constructed := by
    intro x hx
    have hx : x ∈ [_, _, _, _] := hx
    simp only [List.mem_cons, List.not_mem_nil, or_false] at hx
    rcases hx with rfl | rfl | rfl | rfl
    · exact .table hp
    · exact .function hq
    · exact .table hr
    · exact .function hs
  have hlines : w.graphLines 0 = "plot '-', e, '-', '-'" ::
      ["-0.0", "1000.0", "nan", "e", "1.0 1.0", "2.0 -7.0", "e"] := by
    decide +kernel
  obtain ⟨settings, inline, hsplit, rfl, hread, -⟩ := tables_of_graphLines hbuilt
  obtain rfl : inline = ["-0.0", "1000.0", "nan", "e", "1.0 1.0", "2.0 -7.0", "e"] :=
    (List.cons.inj (hsplit.symm.trans hlines)).2
  exact ⟨hlines, hread⟩

end PlotPage
