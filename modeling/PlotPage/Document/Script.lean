import PlotPage.Document.Basic
import PlotPage.Script.Terminal

/-!
# Scripts

The script of a document, line by line:

    <commands before the settings>
    set <key> <value>            one for each property
    set term <device>            if the terminal names one
    set output '<file>'          if the terminal names one
    <commands after the settings>
    <the lines of the graph>
    quit

With more than one graph the lines of the graphs stand between `set multiplot` and
`unset multiplot`, and the origin and size of its tile precede each graph.  Compiling changes
nothing, so the same document and terminal always give the same script.
-/

namespace PlotPage

namespace Document

/-- The command that begins a page of several graphs. -/
def header (d : Document) : String :=
  if d.title = "" then "set multiplot" else "set multiplot title \"" ++ d.title ++ "\""

/-- The tiles and lines of the graphs from position `start` on, and what is reported meanwhile. -/
def tiledLines (w : Workspace) (l : Layout) :
    (start : Nat) → List GraphId → Except Fault (List String) × List Notice
  | _, [] => (.ok [], [])
  | start, id :: rest =>
    match l.tileLines (.int start) with
    | .error f => (.error f, [])
    | .ok tile =>
      match (w.graph id).written (w.graphLines id) with
      | .error f => (.error f, [])
      | .ok own =>
        let (lines, notices) := tiledLines w l (start + 1) rest
        (lines.map fun ls => tile ++ own ++ ls, (w.graph id).lineNotices ++ notices)

/-- The lines of all graphs.  A single graph needs no tile; several need a layout of their
number. -/
def plotLines (w : Workspace) (d : Document) : Except Fault (List String) × List Notice :=
  match d.graphs with
  | [id] => ((w.graph id).written (w.graphLines id), (w.graph id).lineNotices)
  | ids =>
    if d.layout.capacity = ids.length then
      let (lines, notices) := tiledLines w d.layout 0 ids
      (lines.map fun ls => d.header :: (ls ++ ["unset multiplot"]), notices)
    else
      (do throw (.layoutMismatch (← (Value.int d.layout.capacity).plain) (toString ids.length)), [])

/-- The text of a line; a command that is no text cannot be a line. -/
def lineText : Value → Except Fault String
  | .text s => .ok s
  | _ => .error (.outside .notText)

/-- Lines as one text, each with a line feed at its end. -/
def joinLines (ls : List String) : String := "\n".intercalate ls ++ "\n"

/-- The lines of a script around the lines of its graphs. -/
def scriptLines (d : Document) (t : Terminal) (plots : List String) : List Value :=
  d.preInit ++ (d.properties.lines ++ t.lines).map .text ++ d.postInit ++
    (plots ++ ["quit"]).map .text

/-- The script of a document and what is reported while it is made. -/
def compile (w : Workspace) (d : Document) (t : Terminal) : Except Fault String × List Notice :=
  match plotLines w d with
  | (.error f, notices) => (.error f, notices)
  | (.ok plots, notices) =>
    let lines := d.scriptLines t plots
    let report := s!"Compiled {d.graphs.length} graph(s) into {lines.length} script lines"
    ((lines.mapM lineText).map joinLines, notices ++ [⟨.debug, source, report⟩])

end Document

def Page.compile (p : Page) (t : Terminal) : Except Fault String × List Notice :=
  Document.compile p.workspace p.document t

end PlotPage
