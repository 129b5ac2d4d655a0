import PlotPage.Proofs.Document.Script
import PlotPage.Proofs.Document.Steps
import PlotPage.Proofs.Text.Pieces

/-!
# The shape of a script

The lines of a script follow a grammar.  Each rule of it is a predicate on lists of lines, and the
rules refer to the graphs that the lines draw:

    InlineData   the rows of each table, and `e` after them
    Fragment     `set ` lines; then, if there are plots, one `plot ` or `splot ` line and inline data
    Blocks       for each graph a `set origin ` line, a `set size ` line and its fragment
    Drawing      the fragment of one graph, or `set multiplot`, the blocks of several, `unset multiplot`

Around the drawing stand the commands of the caller, a `set ` line for each property, and the lines
of the terminal (`Sections`).  No line but those commands holds a line end, so a script that is cut
at its line feeds falls into exactly these lines again: whatever a title, a label or a value holds,
it cannot begin a line of its own.  This is `Page.exists_sections`, for every page that a run has
reached.
-/

namespace PlotPage

open Line

/-- A command on one line: it begins with the word of the command. -/
structure Line.IsCommand (word line : String) : Prop where
  single : isSingle line = true
  begins : Begins word line

namespace Shape

/-- The inline data of plots, in the order of the plots. -/
inductive InlineData : List Plot → List String → Prop where
  | nil : InlineData [] []
  | function {p : Plot} {ps : List Plot} {ls : List String} {expression : String}
      (source : p.source = .function expression) (rest : InlineData ps ls) : InlineData (p :: ps) ls
  | table {p : Plot} {ps : List Plot} {rows ls : List String} {t : Table}
      (source : p.source = .table t) (rows_eq : rows = t.map Table.rowLine)
      (single : ∀ l ∈ rows, isSingle l = true) (inside : "e" ∉ rows) (rest : InlineData ps ls) :
      InlineData (p :: ps) (rows ++ "e" :: ls)

/-- The lines of one graph. -/
inductive Fragment (g : Graph) : List String → Prop where
  | bare {settings : List String} (plots : g.plots = [])
      (settings_set : ∀ l ∈ settings, IsCommand "set " l) : Fragment g settings
  | drawn {settings : List String} {command : String} {data : List String} (plots : g.plots ≠ [])
      (settings_set : ∀ l ∈ settings, IsCommand "set " l)
      (command_plot : IsCommand (if g.is3d then "splot " else "plot ") command)
      (data_inline : InlineData g.plots data) : Fragment g (settings ++ command :: data)

/-- The lines of tiled graphs. -/
inductive Blocks : List Graph → List String → Prop where
  | nil : Blocks [] []
  | cons {g : Graph} {gs : List Graph} {origin size : String} {fragment rest : List String}
      (origin_set : IsCommand "set origin " origin) (size_set : IsCommand "set size " size)
      (fragment_of : Fragment g fragment) (rest_of : Blocks gs rest) :
      Blocks (g :: gs) (origin :: size :: (fragment ++ rest))

/-- The lines of all graphs of a page. -/
inductive Drawing : List Graph → List String → Prop where
  | single {g : Graph} {fragment : List String} (fragment_of : Fragment g fragment) :
      Drawing [g] fragment
  | several {gs : List Graph} {header : String} {blocks : List String} (two : 2 ≤ gs.length)
      (header_set : IsCommand "set multiplot" header) (blocks_of : Blocks gs blocks) :
      Drawing gs (header :: (blocks ++ ["unset multiplot"]))

/-- The sections of a script. -/
structure Sections where
  preInit : List String
  properties : List String
  term : List String
  output : List String
  postInit : List String
  drawing : List String

namespace Sections

def settings (s : Sections) : List String := s.properties ++ (s.term ++ s.output)

def ending (s : Sections) : List String := s.drawing ++ ["quit"]

def lines (s : Sections) : List String := s.preInit ++ s.settings ++ s.postInit ++ s.ending

/-- The sections of the script of a page: one line for each property, at most one for the device
and one for the file, and the lines of the graphs. -/
structure Of (p : Page) (s : Sections) : Prop where
  preInit : p.document.preInit = s.preInit.map .text
  postInit : p.document.postInit = s.postInit.map .text
  properties : List.Forall₂ (fun e l => IsCommand ("set " ++ e.1) l)
    p.document.properties.entries s.properties
  term_length : s.term.length ≤ 1
  term : ∀ l ∈ s.term, IsCommand "set term " l
  output_length : s.output.length ≤ 1
  output : ∀ l ∈ s.output, IsCommand "set output " l
  drawing : Drawing (p.document.graphs.map p.workspace.graph) s.drawing

end Sections

/-! ### Every rule is about single lines -/

theorem InlineData.isSingle {ps : List Plot} {ls : List String} (h : InlineData ps ls) :
    ∀ l ∈ ls, isSingle l = true := by
  induction h with
  | nil => intro l hl; exact absurd hl List.not_mem_nil
  | function _ _ ih => exact ih
  | table _ _ single _ _ ih =>
    intro l hl
    rcases List.mem_append.mp hl with hl | hl
    · exact single l hl
    · rcases List.mem_cons.mp hl with rfl | hl
      · decide
      · exact ih l hl

theorem Fragment.isSingle {g : Graph} {ls : List String} (h : Fragment g ls) :
    ∀ l ∈ ls, isSingle l = true := by
  intro l hl
  cases h with
  | bare _ settings_set => exact (settings_set l hl).single
  | drawn _ settings_set command_plot data_inline =>
    rcases List.mem_append.mp hl with hl | hl
    · exact (settings_set l hl).single
    · rcases List.mem_cons.mp hl with rfl | hl
      · exact command_plot.single
      · exact data_inline.isSingle l hl

theorem Blocks.isSingle {gs : List Graph} {ls : List String} (h : Blocks gs ls) :
    ∀ l ∈ ls, isSingle l = true := by
  induction h with
  | nil => intro l hl; exact absurd hl List.not_mem_nil
  | cons origin_set size_set fragment_of _ ih =>
    intro l hl
    rcases List.mem_cons.mp hl with rfl | hl
    · exact origin_set.single
    rcases List.mem_cons.mp hl with rfl | hl
    · exact size_set.single
    rcases List.mem_append.mp hl with hl | hl
    · exact fragment_of.isSingle l hl
    · exact ih l hl

theorem Drawing.isSingle {gs : List Graph} {ls : List String} (h : Drawing gs ls) :
    ∀ l ∈ ls, isSingle l = true := by
  intro l hl
  cases h with
  | single fragment_of => exact fragment_of.isSingle l hl
  | several _ header_set blocks_of =>
    rcases List.mem_cons.mp hl with rfl | hl
    · exact header_set.single
    rcases List.mem_append.mp hl with hl | hl
    · exact blocks_of.isSingle l hl
    · rw [List.mem_singleton.mp hl]
      decide

namespace Sections

variable {p : Page} {s : Sections}

theorem Of.isSingle_settings (h : Of p s) : ∀ l ∈ s.settings, isSingle l = true := by
  intro l hl
  rcases List.mem_append.mp hl with hl | hl
  · obtain ⟨i, hi, rfl⟩ := List.getElem_of_mem hl
    have hlen : i < p.document.properties.entries.length := by
      rw [h.properties.length_eq]
      exact hi
    exact (h.properties.get hlen hi).single
  · rcases List.mem_append.mp hl with hl | hl
    · exact (h.term l hl).single
    · exact (h.output l hl).single

theorem Of.isSingle_ending (h : Of p s) : ∀ l ∈ s.ending, isSingle l = true := by
  intro l hl
  rcases List.mem_append.mp hl with hl | hl
  · exact h.drawing.isSingle l hl
  · rw [List.mem_singleton.mp hl]
    decide

/-- A script is cut into the lines of its sections; the commands of the caller, and they alone, may
be cut into several. -/
theorem Of.pieces (h : Of p s) : Text.pieces (Document.joinLines s.lines) =
    s.preInit.flatMap Text.pieces ++ s.settings ++ s.postInit.flatMap Text.pieces ++ s.ending ++
      [""] := by
  have hne : s.lines ≠ [] := by
    simp [lines, ending]
  rw [Text.pieces_joinLines hne, lines, List.flatMap_append, List.flatMap_append,
    List.flatMap_append, Text.flatMap_pieces_of_isSingle h.isSingle_settings,
    Text.flatMap_pieces_of_isSingle h.isSingle_ending]

end Sections

/-! ### What the parts of a page give -/

theorem inlineData_dataLines : ∀ ps : List Plot, InlineData ps (ps.flatMap Plot.dataLines) := by
  intro ps
  induction ps with
  | nil => exact .nil
  | cons p ps ih =>
    rw [List.flatMap_cons]
    cases hsource : p.source with
    | function expression =>
      have hdata : p.dataLines = [] := by rw [Plot.dataLines, hsource]
      rw [hdata, List.nil_append]
      exact .function hsource ih
    | table t =>
      have hdata : p.dataLines = t.map Table.rowLine ++ ["e"] := by
        rw [Plot.dataLines, hsource]
        exact Table.lines_eq t
      have hsingle : ∀ l ∈ t.map Table.rowLine, isSingle l = true := by
        intro l hl
        obtain ⟨row, -, rfl⟩ := List.mem_map.mp hl
        exact Table.isSingle_rowLine row
      have hinside : "e" ∉ t.map Table.rowLine := by
        intro hl
        obtain ⟨row, -, hrow⟩ := List.mem_map.mp hl
        exact Table.rowLine_ne_terminator row hrow
      rw [hdata, List.append_assoc, List.singleton_append]
      exact .table hsource rfl hsingle hinside ih

theorem isCommand_plotCommand {g : Graph} (hplots : ∀ p ∈ g.plots, p.Constructed) {command : String}
    (h : g.plotCommand? = some command) :
    IsCommand (if g.is3d then "splot " else "plot ") command := by
  unfold Graph.plotCommand? at h
  split at h
  · exact absurd h (by simp)
  · obtain rfl := Option.some.inj h
    refine ⟨?_, begins_append _ _⟩
    have hword : isSingle (if g.is3d then "splot " else "plot ") = true := by
      cases g.is3d <;> decide
    rw [isSingle_append, hword, Bool.true_and]
    apply isSingle_intercalate (by decide)
    intro l hl
    obtain ⟨p, hp, rfl⟩ := List.mem_map.mp hl
    exact (hplots p hp).isSingle_definition

theorem fragment_graphLines {w : Workspace} (h : w.WellFormed) (id : GraphId) :
    Fragment (w.graph id) (w.graphLines id) := by
  have hset : ∀ l ∈ (w.graph id).axes.flatMap (fun e => (w.axis e.2).lines), IsCommand "set " l := by
    intro l hl
    obtain ⟨e, -, hl⟩ := List.mem_flatMap.mp hl
    exact ⟨(h.axis e.2).properties.isSingle_lines hl, Properties.begins_of_mem_lines hl⟩
  rw [Workspace.graphLines, Graph.drawingLines]
  cases hc : (w.graph id).plotCommand? with
  | none =>
    have hplots : (w.graph id).plots = [] := by
      unfold Graph.plotCommand? at hc
      split at hc
      · rename_i hempty
        exact List.isEmpty_iff.mp hempty
      · exact absurd hc (by simp)
    rw [List.append_nil]
    exact .bare hplots hset
  | some command =>
    have hplots : (w.graph id).plots ≠ [] := by
      intro hnil
      rw [Graph.plotCommand?, hnil] at hc
      exact absurd hc (by simp)
    exact .drawn hplots hset (isCommand_plotCommand (h.graph id) hc)
      (inlineData_dataLines (w.graph id).plots)

/-- The lines of a tile are its origin and its size. -/
theorem exists_tile_lines {l : Layout} {index : Value} {ls : List String}
    (h : l.tileLines index = .ok ls) : ∃ origin size, ls = [origin, size] ∧
      IsCommand "set origin " origin ∧ IsCommand "set size " size := by
  have hpair : ∀ {word : String} {a b : Scalar} {s t : String}, isSingle word = true →
      a.numberText = .ok s → b.numberText = .ok t → IsCommand word (word ++ s ++ "," ++ t) := by
    intro word a b s t hword hs ht
    constructor
    · rw [isSingle_append, isSingle_append, isSingle_append, hword,
        Value.isSingle_of_numberText hs, Value.isSingle_of_numberText ht]
      decide
    · rw [String.append_assoc, String.append_assoc]
      exact begins_append _ _
  simp only [Layout.tileLines, Tile.lines, bind_eq_ok_iff, pure_eq_ok_iff] at h
  obtain ⟨t, -, x, hx, y, hy, width, hwidth, height, hheight, rfl⟩ := h
  exact ⟨_, _, rfl, hpair (by decide) hx hy, hpair (by decide) hwidth hheight⟩

theorem blocks_of_tilePairs {w : Workspace} (h : w.WellFormed) {l : Layout} {start : Nat}
    {pairs : List (List String)} {ids : List GraphId} (hlength : pairs.length = ids.length)
    (hpairs : Document.TilePairs l start pairs) :
    Blocks (ids.map w.graph) (Document.blocks w pairs ids) := by
  induction ids generalizing start pairs with
  | nil =>
    obtain rfl := List.eq_nil_of_length_eq_zero hlength
    exact .nil
  | cons id ids ih =>
    obtain ⟨pair, pairs, rfl⟩ := List.exists_cons_of_length_eq_add_one hlength
    obtain ⟨hpair, hrest⟩ := Document.tilePairs_cons.mp hpairs
    obtain ⟨origin, size, rfl, horigin, hsize⟩ := exists_tile_lines hpair
    rw [Document.blocks_cons, List.append_assoc]
    show Blocks _ (origin :: size :: (w.graphLines id ++ Document.blocks w pairs ids))
    exact .cons horigin hsize (fragment_graphLines h id) (ih (Nat.succ.inj hlength) hrest)

theorem isCommand_header {d : Document} (h : isSingle d.title = true) :
    IsCommand "set multiplot" d.header := by
  unfold Document.header
  split
  · exact ⟨by decide, List.prefix_rfl⟩
  · constructor
    · rw [isSingle_append, isSingle_append, h]
      decide
    · have hword : "set multiplot title \"" = "set multiplot" ++ " title \"" := by decide
      rw [hword, String.append_assoc, String.append_assoc]
      exact begins_append _ _

theorem drawing_plotLines {p : Page} (h : p.WellFormed) (hne : p.document.graphs ≠ [])
    {ls : List String} (hls : (Document.plotLines p.workspace p.document).1 = .ok ls) :
    Drawing (p.document.graphs.map p.workspace.graph) ls := by
  by_cases hone : p.document.graphs.length = 1
  · obtain ⟨id, hid⟩ := List.length_eq_one_iff.mp hone
    rw [Document.plotLines_single hid] at hls
    obtain ⟨-, rfl⟩ := Graph.written_eq_ok_iff.mp hls
    rw [hid]
    exact .single (fragment_graphLines h.workspace id)
  · have htwo : 2 ≤ (p.document.graphs.map p.workspace.graph).length := by
      have hpos := List.length_pos_iff.mpr hne
      rw [List.length_map]
      omega
    have hsingle := Document.ne_singleton_of_length hone
    by_cases hcapacity : p.document.layout.capacity = p.document.graphs.length
    · rw [Document.plotLines_of_capacity_eq hsingle hcapacity, map_eq_ok_iff] at hls
      obtain ⟨tiled, htiled, rfl⟩ := hls
      obtain ⟨-, pairs, hlength, hpairs, rfl⟩ := Document.tiledLines_eq_ok_iff.mp htiled
      exact .several htwo (isCommand_header h.title_single)
        (blocks_of_tilePairs h.workspace hlength hpairs)
    · obtain ⟨f, hf⟩ := Document.plotLines_of_capacity_ne (w := p.workspace) hsingle hcapacity
      rw [hf] at hls
      exact absurd hls (by simp)

/-- Both parts of a terminal stay on one line. -/
theorem isSingle_of_build {spec : Option Terminal.Spec} {t : Terminal}
    (h : Terminal.build spec = .ok t) : isSingle t.device = true ∧ isSingle t.output = true := by
  cases spec with
  | none =>
    obtain rfl := Except.ok.inj h
    exact ⟨rfl, rfl⟩
  | some spec =>
    simp only [Terminal.build, Terminal.ofValues, Terminal.part, bind_eq_ok_iff, check_eq_ok_iff,
      pure_eq_ok_iff, exists_const] at h
    obtain ⟨device, ⟨_, -, hdevice, rfl⟩, output, ⟨_, -, houtput, rfl⟩, rfl⟩ := h
    exact ⟨hdevice, houtput⟩

theorem isCommand_device {t : Terminal} (h : isSingle t.device = true) :
    ∀ l ∈ (if t.device = "" then [] else ["set term " ++ t.device]), IsCommand "set term " l := by
  intro l hl
  split at hl
  · exact absurd hl List.not_mem_nil
  · rw [List.mem_singleton.mp hl]
    refine ⟨?_, begins_append _ _⟩
    rw [isSingle_append, h]
    decide

theorem isCommand_output {t : Terminal} (h : isSingle t.output = true) :
    ∀ l ∈ (if t.output = "" then [] else ["set output '" ++ t.output ++ "'"]),
      IsCommand "set output " l := by
  intro l hl
  split at hl
  · exact absurd hl List.not_mem_nil
  · rw [List.mem_singleton.mp hl]
    constructor
    · rw [isSingle_append, isSingle_append, h]
      decide
    · have hword : "set output '" = "set output " ++ "'" := by decide
      rw [hword, String.append_assoc, String.append_assoc]
      exact begins_append _ _

theorem isCommand_property {p : Properties} (h : p.WellFormed) :
    List.Forall₂ (fun e l => IsCommand ("set " ++ e.1) l) p.entries p.lines := by
  rw [Properties.lines, List.forall₂_map_right_iff, List.forall₂_same]
  intro e he
  refine ⟨h.isSingle_lines (List.mem_map_of_mem he), ?_⟩
  unfold Properties.line
  split
  · exact List.prefix_rfl
  · rw [String.append_assoc]
    exact begins_append _ _

end Shape

/-- **The shape of a script.**  Whatever was done to a page since it was new, when it compiles for a
terminal its script consists of the sections of the page.  No line but the commands of the caller
holds a line end, and cutting the script at its line feeds gives back these lines. -/
theorem Page.exists_sections {spec : Option Layout.Spec} {p : Page} {ns : List Notice}
    (hnew : Page.new spec = .ok (p, ns)) {cs : List Page.Command} (hbuilt : ∀ c ∈ cs, c.Built)
    {device : Option Terminal.Spec} {t : Terminal} (hterminal : Terminal.build device = .ok t)
    {script : String} (hscript : ((p.runAll cs).1.compile t).1 = .ok script) :
    ∃ s : Shape.Sections, s.Of (p.runAll cs).1 ∧ script = Document.joinLines s.lines ∧
      (∀ l ∈ s.settings ++ s.ending, isSingle l = true) ∧
      Text.pieces script = s.preInit.flatMap Text.pieces ++ s.settings ++
        s.postInit.flatMap Text.pieces ++ s.ending ++ [""] := by
  have hwell : (p.runAll cs).1.WellFormed := (wellFormed_new hnew).runAll hbuilt
  have hgraphs : (p.runAll cs).1.document.graphs ≠ [] := graphs_ne_nil hnew cs
  obtain ⟨hdevice, houtput⟩ := Shape.isSingle_of_build hterminal
  obtain ⟨pre, post, plots, hpre, hpost, hplots, rfl⟩ := Document.compile_eq_ok_iff.mp hscript
  let s : Shape.Sections := {
    preInit := pre
    properties := (p.runAll cs).1.document.properties.lines
    term := if t.device = "" then [] else ["set term " ++ t.device]
    output := if t.output = "" then [] else ["set output '" ++ t.output ++ "'"]
    postInit := post
    drawing := plots }
  have hs : s.Of (p.runAll cs).1 := {
    preInit := hpre
    postInit := hpost
    properties := Shape.isCommand_property hwell.properties
    term_length := by dsimp only [s]; split <;> simp
    term := Shape.isCommand_device hdevice
    output_length := by dsimp only [s]; split <;> simp
    output := Shape.isCommand_output houtput
    drawing := Shape.drawing_plotLines hwell hgraphs hplots }
  refine ⟨s, hs, rfl, ?_, hs.pieces⟩
  intro l hl
  rcases List.mem_append.mp hl with hl | hl
  · exact hs.isSingle_settings l hl
  · exact hs.isSingle_ending l hl

/-- Two graphs, one with an expression and one with a table, and a command of two lines. -/
theorem Page.exists_sections_two_graphs :
    ∃ p ns t script, Page.new none = .ok (p, ns) ∧
      Terminal.build (some ⟨.text "png", .null⟩) = .ok t ∧
      let q := (p.runAll [.addPlot (.spec (.function (.text "sin(x)") (.text "sine") .null)) .null,
        .newGraph false, .addPlot (.spec (.table (.list [.int 1, .int 2]) .null .null)) .null,
        .addPreInit (.text "reset\nclear"), .set (.text "grid") .null]).1
      (q.compile t).1 = .ok script ∧
      ∃ s : Shape.Sections, s.Of q ∧ script = Document.joinLines s.lines ∧
        (∀ l ∈ s.settings ++ s.ending, isSingle l = true) ∧
        Text.pieces script = s.preInit.flatMap Text.pieces ++ s.settings ++
          s.postInit.flatMap Text.pieces ++ s.ending ++ [""] := by
  have hscript := toOption_eq_some_iff.mp (by decide +kernel :
    (((⟨⟨[], [.empty false]⟩, .ofGraph 0⟩ : Page).runAll
      [.addPlot (.spec (.function (.text "sin(x)") (.text "sine") .null)) .null,
        .newGraph false, .addPlot (.spec (.table (.list [.int 1, .int 2]) .null .null)) .null,
        .addPreInit (.text "reset\nclear"), .set (.text "grid") .null]).1.compile
      ⟨"png", ""⟩).1.toOption = some ("reset\nclear\nset grid\nset term png\n" ++
        "set multiplot\nset origin 0.0,0.0\nset size 0.5,1.0\nplot sin(x) title \"sine\"\n" ++
        "set origin 0.5,0.0\nset size 0.5,1.0\nplot '-'\n1.0\n2.0\ne\nunset multiplot\nquit\n"))
  have hnew : Page.new none = .ok (⟨⟨[], [.empty false]⟩, .ofGraph 0⟩, []) := rfl
  have hterminal : Terminal.build (some ⟨.text "png", .null⟩) = .ok ⟨"png", ""⟩ := rfl
  refine ⟨_, _, _, _, hnew, hterminal, hscript, exists_sections hnew ?_ hterminal hscript⟩
  intro c hc
  simp only [List.mem_cons, List.not_mem_nil, or_false] at hc
  rcases hc with rfl | rfl | rfl | rfl | rfl <;> exact trivial

end PlotPage
