import PlotPage.Description
import PlotPage.Proofs.Entries
import PlotPage.Proofs.Layout.Grid
import PlotPage.Proofs.Plot
import PlotPage.Proofs.Table

/-!
# Descriptions written out directly

The script of a description can be written down from the description alone, entry by entry, without
a page that is filled and compiled:

* the commands of `pre_init`, one `set` line for each key of `set`, the lines of the terminal, the
  commands of `post_init`;
* the fragment of each entry of `graphs`, one after the other.  Two or more stand in a multiplot,
  each after the lines of its tile;
* `quit`.

A fragment has the settings of each axis that the entry names, in the order in which the names first
appear, and then the plots.  `Proofs/Description/Script` shows that this is the script of the page
that is built from the description.
-/

namespace PlotPage.Description.Render

/-! ### Values -/

/-- A value as it is written. -/
def str (v : Value) : String := v.plain?.getD ""

/-- A value as it is written, with nothing as the empty text. -/
def optional : Value → String
  | .null => ""
  | v => str v

def items : Value → List Value
  | .list items _ => items
  | .tuple items _ => items
  | .set items => items
  | .text s => s.toList.map fun c => .text (String.singleton c)
  | .bytes bs => bs.map fun b => .int b.toNat
  | .map entries _ => entries.map Prod.fst
  | _ => []

def entries : Value → List (Value × Value)
  | .map entries _ => entries
  | _ => []

/-- The text of a number. -/
def numeral (v : Value) : String := (v.toDouble.toOption.map Double.text).getD ""

/-! ### Axes -/

/-- One end of a range; nothing leaves it open. -/
def bound : Value → String
  | .null => ""
  | v => numeral v

def range : Value → String
  | .list [low, high] _ => "[" ++ bound low ++ ":" ++ bound high ++ "]"
  | .tuple [low, high] _ => "[" ++ bound low ++ ":" ++ bound high ++ "]"
  | _ => ""

def isTrue : Value → Bool
  | .bool b => b
  | _ => false

/-- What one entry of an axis does to its settings, in order: it gives a setting a value, or takes
it away. -/
def changes (name : String) (fields : List (Value × Value)) : List (String × Option String) :=
  ((Value.field fields "label").map fun v =>
      (Axis.labelKey name, some ("\"" ++ str v ++ "\""))).toList ++
  ((Value.field fields "range").map fun v => (Axis.rangeKey name, some (range v))).toList ++
  ((Value.field fields "log").map fun v =>
      (Axis.logScaleKey name, if isTrue v then some "" else none)).toList ++
  ((Value.field fields "tics").map fun v => (Axis.ticsKey name, some (str v))).toList

/-- The settings after a change: a setting that is there keeps its place. -/
def change (settings : List (String × String)) (c : String × Option String) :
    List (String × String) :=
  match c.2 with
  | some value => Entries.update "" c.1 (fun _ => value) settings
  | none => settings.filter fun e => e.1 ≠ c.1

/-- The settings that the entries of one axis result in. -/
def settings (name : String) (fields : List (List (Value × Value))) : List (String × String) :=
  (fields.flatMap (changes name)).foldl change []

/-- The lines of the axes of a graph: every name once. -/
def axisLines (axes : List (Value × Value)) : List String :=
  (Entries.grouped (axes.map fun e => (str e.1, entries e.2))).flatMap fun g =>
    (settings g.1 g.2).map Properties.line

/-! ### Plots -/

def title : Value → String
  | .null => ""
  | v => " title \"" ++ str v ++ "\""

/-- A style as a part of a clause; an empty one is left out. -/
def style : Value → String
  | .null => ""
  | v => if str v = "" then "" else " with " ++ str v

def decoration (fields : List (Value × Value)) : String :=
  title (fieldOrNull fields "title") ++ style (fieldOrNull fields "style")

def clause (plot : Value) : String :=
  let fields := entries plot
  match Value.field fields "function" with
  | some expression => str expression ++ decoration fields
  | none => "'-'" ++ decoration fields

/-- The inline data of a plot: a line for each row, and the line that ends them. -/
def inlineData (plot : Value) : List String :=
  match Value.field (entries plot) "data" with
  | some data => (Table.rowsOf data).map (fun row =>
      " ".intercalate (row.map fun v => (Table.number v).text)) ++ ["e"]
  | none => []

/-- The command that draws the plots, and their inline data in the same order. -/
def drawing (is3d : Bool) (plots : List Value) : List String :=
  if plots.isEmpty then []
  else ((if is3d then "splot " else "plot ") ++ ", ".intercalate (plots.map clause)) ::
    plots.flatMap inlineData

/-! ### Pages -/

def fragment (graph : Value) : List String :=
  let fields := entries graph
  axisLines (entries (fieldOrNull fields "axes")) ++
    drawing (isTrue (fieldOrNull fields "splot")) (items (fieldOrNull fields "plots"))

/-- The fragments of a page; one without graphs has an empty one. -/
def fragments (fields : List (Value × Value)) : List (List String) :=
  match items (fieldOrNull fields "graphs") with
  | [] => [[]]
  | graphs => graphs.map fragment

def header (pageTitle : String) : String :=
  if pageTitle = "" then "set multiplot" else "set multiplot title \"" ++ pageTitle ++ "\""

/-- The lines of all graphs of a page. -/
def plotLines (pageTitle : String) (shape : Nat × Nat) : List (List String) → List String
  | [fragment] => fragment
  | fragments =>
    header pageTitle ::
      ((List.range fragments.length).flatMap fun i =>
        Grid.placeLines shape.1 shape.2 i ++ fragments.getD i []) ++
      ["unset multiplot"]

/-- The `set` lines of a page: every key once, with its last value. -/
def setLines (set : List (Value × Value)) : List String :=
  (Entries.grouped (set.map fun e => (str e.1, optional e.2))).map fun g =>
    Properties.line (g.1, g.2.getLastD "")

/-- The script of a description. -/
def script (fields : List (Value × Value)) (prefersColumns : Bool) (t : Terminal) : String :=
  let fragments := fragments fields
  Document.joinLines (
    (items (fieldOrNull fields "pre_init")).map str ++
    setLines (entries (fieldOrNull fields "set")) ++
    t.lines ++
    (items (fieldOrNull fields "post_init")).map str ++
    plotLines (optional (fieldOrNull fields "title"))
      (Grid.shape fragments.length prefersColumns) fragments ++
    ["quit"])

end PlotPage.Description.Render
