import PlotPage.Proofs.Document.Parts
import PlotPage.Proofs.Document.Script

/-!
# Edits in another order

A run of edits can be looked at one part at a time: what the edits of a part answer, and what stands
in the part at the end, is the same as if no other part had been edited (`Agrees.runAll`).  So two
runs with the same edits of each part agree in every part, whatever the order among the parts, and a
page compiles to what its parts are (`compile_congr`).

In the script every part has a section of its own (`compile_eq_ok_iff_sections`), and an edit
changes no section but that of its part (`EditsOnly.sections`).
-/

namespace PlotPage.Page

variable {o : Holding} {p q : Page} {c : Page.Command} {cs ds : List Page.Command} {π : Part}

/-! ### Runs -/

/-- The edits of one part in a run, in their order. -/
def editsOn (o : Holding) (p : Page) (π : Part) (cs : List Page.Command) : List Page.Command :=
  cs.filter fun c => p.part? o c = some π

/-- The edits of one part in a run, and what they answer. -/
def answersOn (o : Holding) (p : Page) (π : Part) (cs : List Page.Command) :
    List (Page.Command × Except Fault Value) :=
  (cs.zip (p.runAll cs).2).filter fun e => p.part? o e.1 = some π

/-- The same edits in an order that keeps the order of the edits of each part. -/
def Reorders (o : Holding) (p : Page) (cs ds : List Page.Command) : Prop :=
  ∀ π, p.editsOn o π cs = p.editsOn o π ds

/-- Two neighbours that edit different parts may change places. -/
theorem Reorders.swap {d : Page.Command} (h : p.part? o c ≠ p.part? o d)
    (es fs : List Page.Command) : p.Reorders o (es ++ c :: d :: fs) (es ++ d :: c :: fs) := by
  intro π
  simp only [editsOn, List.filter_append, List.filter_cons]
  by_cases hc : p.part? o c = some π
  · have hd : p.part? o d ≠ some π := fun hd => h (hc.trans hd.symm)
    simp [hc, hd]
  · simp [hc]

theorem editsOn_congr (h : p.document.graphs = q.document.graphs) (π : Part)
    (cs : List Page.Command) : p.editsOn o π cs = q.editsOn o π cs := by
  simp only [editsOn, part?_congr h]

theorem editsOn_cons (h : p.document.graphs = q.document.graphs) :
    p.editsOn o π (c :: cs) =
      if p.part? o c = some π then c :: q.editsOn o π cs else q.editsOn o π cs := by
  rw [← editsOn_congr h]
  simp only [editsOn, List.filter_cons, decide_eq_true_eq]

theorem answersOn_cons (h : p.document.graphs = (p.run c).state.document.graphs) :
    p.answersOn o π (c :: cs) =
      if p.part? o c = some π then (c, (p.run c).result) :: (p.run c).state.answersOn o π cs
      else (p.run c).state.answersOn o π cs := by
  simp only [answersOn, Page.runAll, List.zip_cons_cons, List.filter_cons, decide_eq_true_eq,
    ← part?_congr h]

/-- Two pages that agree in a part, whatever they have in the others. -/
structure Agrees (o : Holding) (π : Part) (p q : Page) : Prop where
  outline : SameOutline p q
  holds : o.Holds p.document.graphs p.workspace
  holds' : o.Holds q.document.graphs q.workspace
  content : p.content o π = q.content o π

theorem has_congr (h : p.document.graphs = q.document.graphs) : p.Has π ↔ q.Has π := by
  cases π with
  | graph id => simp only [Has, h]
  | _ => exact Iff.rfl

/-- An edit of another part leaves the agreement. -/
theorem Agrees.other (h : Agrees o π p q) (hc : p.Edits o c) (hπ : p.Has π)
    (hne : p.part? o c ≠ some π) : Agrees o π (p.run c).state q := by
  obtain ⟨ρ, hρ, honly⟩ := hc.editsOnly h.holds
  have hπρ : π ≠ ρ := fun hπρ => hne (hπρ ▸ hρ)
  exact ⟨honly.outline.trans h.outline, honly.holds, h.holds',
    (honly.others π hπ hπρ).trans h.content⟩

/-- An edit of the part answers the same on both, and leaves the agreement. -/
theorem Agrees.same (h : Agrees o π p q) (hc : p.Edits o c) (hpart : p.part? o c = some π) :
    (p.run c).result = (q.run c).result ∧ Agrees o π (p.run c).state (q.run c).state := by
  obtain ⟨e, he⟩ := actsOn hpart hc.2
  obtain ⟨hresult, hcontent, honly⟩ := he p rfl h.holds
  obtain ⟨hresult', hcontent', honly'⟩ := he q h.outline.graphs h.holds'
  rw [hresult, hresult', h.content]
  refine ⟨rfl, honly.outline.trans (h.outline.trans honly'.outline.symm), honly.holds,
    honly'.holds, ?_⟩
  rw [hcontent, hcontent', h.content]

/-- **A run, seen from one of its parts**, is the run of the edits of that part. -/
theorem Agrees.runAll (h : Agrees o π p q) (hπ : p.Has π) (hcs : ∀ c ∈ cs, p.Edits o c) :
    p.answersOn o π cs = (p.editsOn o π cs).zip (q.runAll (p.editsOn o π cs)).2 ∧
      Agrees o π (p.runAll cs).1 (q.runAll (p.editsOn o π cs)).1 := by
  induction cs generalizing p q with
  | nil => exact ⟨rfl, h⟩
  | cons c cs ih =>
    have hc := hcs c List.mem_cons_self
    have hgraphs : p.document.graphs = (p.run c).state.document.graphs := by
      obtain ⟨ρ, -, honly⟩ := hc.editsOnly h.holds
      exact honly.outline.graphs.symm
    have hrest : ∀ d ∈ cs, (p.run c).state.Edits o d := fun d hd =>
      edits_congr hgraphs (hcs d (List.mem_cons_of_mem c hd))
    have hhas : (p.run c).state.Has π := (has_congr hgraphs).mp hπ
    rw [answersOn_cons hgraphs, editsOn_cons hgraphs]
    by_cases hpart : p.part? o c = some π
    · obtain ⟨hresult, hagrees⟩ := h.same hc hpart
      obtain ⟨hanswers, hfinal⟩ := ih hagrees hhas hrest
      rw [if_pos hpart, if_pos hpart, hanswers, hresult]
      exact ⟨rfl, hfinal⟩
    · rw [if_neg hpart, if_neg hpart]
      exact ih (h.other hc hπ hpart) hhas hrest

/-! ### Sections of a script -/

/-- Lines of a script that come from one part of the page, or from none. -/
structure Section where
  part : Option Part
  lines : List Value

def Section.ofTexts (part : Option Part) (ls : List String) : Section := ⟨part, ls.map .text⟩

/-- The lines of a tile, none if it has none. -/
def tileText (l : Layout) (i : Nat) : List String :=
  match l.tileLines (.int i) with
  | .ok ls => ls
  | .error _ => []

/-- The sections of tiled graphs from position `start` on. -/
def tiledSections (w : Workspace) (l : Layout) : (start : Nat) → List GraphId → List Section
  | _, [] => []
  | start, id :: rest =>
    .ofTexts none (tileText l start) :: .ofTexts (some (.graph id)) (w.graphLines id) ::
      tiledSections w l (start + 1) rest

def drawingSections (w : Workspace) (d : Document) : List Section :=
  match d.graphs with
  | [id] => [.ofTexts (some (.graph id)) (w.graphLines id)]
  | ids =>
    .ofTexts (some .title) [d.header] ::
      (tiledSections w d.layout 0 ids ++ [.ofTexts none ["unset multiplot"]])

/-- The sections of a script. -/
def sections (p : Page) (t : Terminal) : List Section :=
  [⟨some .preInit, p.document.preInit⟩,
    .ofTexts (some .properties) p.document.properties.lines, .ofTexts none t.lines,
    ⟨some .postInit, p.document.postInit⟩] ++
    (drawingSections p.workspace p.document ++ [.ofTexts none ["quit"]])

/-- Several graphs have a layout of their number with a tile for each. -/
def Tiled (d : Document) : Prop :=
  (∀ id, d.graphs ≠ [id]) → d.layout.capacity = d.graphs.length ∧
    ∀ i < d.graphs.length, ∃ ls, d.layout.tileLines (.int i) = .ok ls

theorem drawingSections_of_ne {w : Workspace} {d : Document} (h : ∀ id, d.graphs ≠ [id]) :
    drawingSections w d = .ofTexts (some .title) [d.header] ::
      (tiledSections w d.layout 0 d.graphs ++ [.ofTexts none ["unset multiplot"]]) := by
  unfold drawingSections
  split
  · rename_i id hid
    exact absurd hid (h id)
  · rfl

theorem lines_tiledSections (w : Workspace) {l : Layout} {start : Nat} {ids : List GraphId}
    {pairs : List (List String)} (hlength : pairs.length = ids.length)
    (hpairs : Document.TilePairs l start pairs) :
    (tiledSections w l start ids).flatMap Section.lines =
      (Document.blocks w pairs ids).map .text := by
  induction ids generalizing start pairs with
  | nil =>
    obtain rfl := List.eq_nil_of_length_eq_zero hlength
    rfl
  | cons id rest ih =>
    obtain ⟨pair, pairs, rfl⟩ := List.exists_cons_of_length_eq_add_one hlength
    obtain ⟨hpair, hpairs⟩ := Document.tilePairs_cons.mp hpairs
    have htile : tileText l start = pair := by rw [tileText, hpair]
    rw [Document.blocks_cons, List.map_append, List.map_append,
      ← ih (Nat.succ.inj hlength) hpairs, tiledSections, htile, List.append_assoc]
    rfl

theorem exists_tilePairs {l : Layout} {n : Nat}
    (h : ∀ i < n, ∃ ls, l.tileLines (.int i) = .ok ls) :
    ∃ pairs, pairs.length = n ∧ Document.TilePairs l 0 pairs := by
  refine ⟨(List.range n).map (tileText l), by simp, fun i hi => ?_⟩
  rw [List.length_map, List.length_range] at hi
  obtain ⟨ls, hls⟩ := h i hi
  simp [tileText, hls]

/-- The lines of graphs that have tiles and can be written are those of their sections. -/
theorem exists_plotLines {d : Document} (h : Tiled d) {w : Workspace} (hw : w.CanWrite d.graphs) :
    ∃ plots, (Document.plotLines w d).1 = .ok plots ∧
      (drawingSections w d).flatMap Section.lines = plots.map .text := by
  by_cases hone : ∃ id, d.graphs = [id]
  · obtain ⟨id, hid⟩ := hone
    refine ⟨w.graphLines id, ?_, ?_⟩
    · rw [Document.plotLines_single hid, Graph.written_eq_ok_iff]
      exact ⟨hw id (hid ▸ List.mem_singleton_self id), rfl⟩
    · unfold drawingSections
      rw [hid]
      exact List.append_nil _
  · have hsingle : ∀ id, d.graphs ≠ [id] := fun id hid => hone ⟨id, hid⟩
    obtain ⟨hcapacity, htiles⟩ := h hsingle
    obtain ⟨pairs, hlength, hpairs⟩ := exists_tilePairs htiles
    refine ⟨d.header :: (Document.blocks w pairs d.graphs ++ ["unset multiplot"]), ?_, ?_⟩
    · rw [Document.plotLines_of_capacity_eq hsingle hcapacity, map_eq_ok_iff]
      exact ⟨_, Document.tiledLines_eq_ok_iff.mpr ⟨hw, pairs, hlength, hpairs, rfl⟩, rfl⟩
    · rw [drawingSections_of_ne hsingle, List.flatMap_cons, List.flatMap_append,
        lines_tiledSections w hlength hpairs, List.map_cons, List.map_append]
      rfl

theorem tiled_and_canWrite_of_plotLines {w : Workspace} {d : Document} {plots : List String}
    (h : (Document.plotLines w d).1 = .ok plots) : Tiled d ∧ w.CanWrite d.graphs := by
  by_cases hone : ∃ id, d.graphs = [id]
  · obtain ⟨id, hid⟩ := hone
    rw [Document.plotLines_single hid] at h
    refine ⟨fun hsingle => absurd hid (hsingle id), fun id' hid' => ?_⟩
    rw [hid] at hid'
    obtain rfl := List.mem_singleton.mp hid'
    exact (Graph.written_eq_ok_iff.mp h).1
  have hsingle : ∀ id, d.graphs ≠ [id] := fun id hid => hone ⟨id, hid⟩
  by_cases hcapacity : d.layout.capacity = d.graphs.length
  · rw [Document.plotLines_of_capacity_eq hsingle hcapacity, map_eq_ok_iff] at h
    obtain ⟨ls, hls, -⟩ := h
    obtain ⟨hwrites, pairs, hlength, hpairs, -⟩ := Document.tiledLines_eq_ok_iff.mp hls
    refine ⟨fun _ => ⟨hcapacity, fun i hi => ?_⟩, hwrites⟩
    have htile := hpairs i (hlength ▸ hi)
    rw [Nat.zero_add] at htile
    exact ⟨_, htile⟩
  · obtain ⟨f, hf⟩ := Document.plotLines_of_capacity_ne (w := w) hsingle hcapacity
    rw [hf] at h
    cases h

theorem lines_sections {t : Terminal} {plots : List String}
    (h : (drawingSections p.workspace p.document).flatMap Section.lines = plots.map .text) :
    (p.sections t).flatMap Section.lines = p.document.scriptLines t plots := by
  rw [sections, List.flatMap_append, List.flatMap_append, h]
  simp [Section.ofTexts, Document.scriptLines]

/-- **The script of a page is its sections**, one after the other. -/
theorem compile_eq_ok_iff_sections {t : Terminal} {script : String} :
    (p.compile t).1 = .ok script ↔ Tiled p.document ∧ p.workspace.CanWrite p.document.graphs ∧
      ∃ lines : List String, (p.sections t).flatMap Section.lines = lines.map .text ∧
        script = Document.joinLines lines := by
  have hcompile : ∀ {plots : List String},
      (Document.plotLines p.workspace p.document).1 = .ok plots →
      (p.compile t).1 =
        ((p.document.scriptLines t plots).mapM Document.lineText).map Document.joinLines := by
    intro plots hplots
    unfold Page.compile Document.compile
    generalize Document.plotLines p.workspace p.document = r at hplots
    obtain ⟨r, ns⟩ := r
    obtain rfl : r = .ok plots := hplots
    rfl
  constructor
  · intro h
    obtain ⟨-, -, plots', -, -, hplots', -⟩ := Document.compile_eq_ok_iff.mp h
    obtain ⟨htiled, hwrites⟩ := tiled_and_canWrite_of_plotLines hplots'
    obtain ⟨plots, hplots, hdrawing⟩ := exists_plotLines htiled hwrites
    rw [hcompile hplots, map_eq_ok_iff] at h
    obtain ⟨lines, hlines, rfl⟩ := h
    refine ⟨htiled, hwrites, lines, ?_, rfl⟩
    rw [lines_sections hdrawing, Document.mapM_lineText_eq_ok_iff.mp hlines]
  · rintro ⟨htiled, hwrites, lines, hlines, rfl⟩
    obtain ⟨plots, hplots, hdrawing⟩ := exists_plotLines htiled hwrites
    rw [lines_sections hdrawing] at hlines
    rw [hcompile hplots, map_eq_ok_iff]
    exact ⟨lines, Document.mapM_lineText_eq_ok_iff.mpr hlines, rfl⟩

/-! ### What an edit changes in the script -/

/-- The same part, and the same lines unless the part is the one that is edited. -/
def Section.Keeps (π : Part) (s s' : Section) : Prop :=
  s'.part = s.part ∧ (s.part ≠ some π → s'.lines = s.lines)

theorem Section.Keeps.refl (s : Section) : s.Keeps π s := ⟨rfl, fun _ => rfl⟩

theorem keeps_ofTexts {ρ : Part} {ls ls' : List String} (h : ρ ≠ π → ls' = ls) :
    Section.Keeps π (.ofTexts (some ρ) ls) (.ofTexts (some ρ) ls') := by
  refine ⟨rfl, fun hne => ?_⟩
  rw [Section.ofTexts, Section.ofTexts, h fun hρ => hne (congrArg some hρ)]

/-- What two pages of the same outline have in common, if they agree in a part of the lines. -/
theorem graphLines_congr (h : SameOutline p q) (hp : o.Holds p.document.graphs p.workspace)
    (hq : o.Holds q.document.graphs q.workspace) {id : GraphId} (hid : id ∈ p.document.graphs)
    (hcontent : p.content o (.graph id) = q.content o (.graph id)) :
    p.workspace.graphLines id = q.workspace.graphLines id ∧
      (p.workspace.graph id).plots = (q.workspace.graph id).plots := by
  have hsheet : o.sheet p.workspace id = o.sheet q.workspace id := hcontent
  refine ⟨?_, congrArg Sheet.plots hsheet⟩
  rw [← Holding.lines_sheet hp hid, hsheet, Holding.lines_sheet hq (h.graphs ▸ hid)]

theorem keeps_tiledSections {w w' : Workspace} {l : Layout} {start : Nat} {ids : List GraphId}
    (h : ∀ id ∈ ids, .graph id ≠ π → w'.graphLines id = w.graphLines id) :
    List.Forall₂ (Section.Keeps π) (tiledSections w l start ids)
      (tiledSections w' l start ids) := by
  induction ids generalizing start with
  | nil => exact .nil
  | cons id rest ih =>
    refine .cons (.refl _) (.cons (keeps_ofTexts (h id List.mem_cons_self)) ?_)
    exact ih fun id' hid' => h id' (List.mem_cons_of_mem id hid')

/-- **An edit changes no section of another part.** -/
theorem EditsOnly.sections (h : EditsOnly o π p q) (hp : o.Holds p.document.graphs p.workspace)
    (t : Terminal) : List.Forall₂ (Section.Keeps π) (p.sections t) (q.sections t) := by
  have hlines : ∀ id ∈ p.document.graphs, .graph id ≠ π →
      q.workspace.graphLines id = p.workspace.graphLines id := by
    intro id hid hne
    exact (graphLines_congr h.outline h.holds hp (h.outline.graphs ▸ hid)
      (h.others (.graph id) hid hne)).1
  have hdrawing : List.Forall₂ (Section.Keeps π) (drawingSections p.workspace p.document)
      (drawingSections q.workspace q.document) := by
    by_cases hone : ∃ id, p.document.graphs = [id]
    · obtain ⟨id, hid⟩ := hone
      unfold drawingSections
      rw [h.outline.graphs, hid]
      exact .cons (keeps_ofTexts (hlines id (hid ▸ List.mem_singleton_self id))) .nil
    · have hsingle : ∀ id, p.document.graphs ≠ [id] := fun id hid => hone ⟨id, hid⟩
      rw [drawingSections_of_ne hsingle, drawingSections_of_ne (h.outline.graphs ▸ hsingle),
        h.outline.graphs, h.outline.layout]
      refine .cons (keeps_ofTexts fun hne => ?_)
        (List.rel_append (keeps_tiledSections hlines) (.cons (.refl _) .nil))
      have htitle : q.document.title = p.document.title := h.others .title trivial hne
      rw [Document.header, Document.header, htitle]
  have hhook : ∀ ρ : Part, p.Has ρ → some ρ ≠ some π → q.content o ρ = p.content o ρ :=
    fun ρ hρ hne => h.others ρ hρ fun hρπ => hne (congrArg some hρπ)
  have hproperties : Part.properties ≠ π →
      q.document.properties.lines = p.document.properties.lines :=
    fun hne => congrArg Properties.lines (h.others .properties trivial hne)
  refine List.rel_append ?_ (List.rel_append hdrawing (.cons (.refl _) .nil))
  exact .cons ⟨rfl, hhook .preInit trivial⟩ (.cons (keeps_ofTexts hproperties)
    (.cons (.refl _) (.cons ⟨rfl, hhook .postInit trivial⟩ .nil)))

/-- A part that lines of the script come from.  The title is none of them on a page of one graph. -/
def Shows (p : Page) (π : Part) : Prop :=
  p.Has π ∧ (π = .title → ∀ id, p.document.graphs ≠ [id])

theorem tiledLines_congr {w w' : Workspace} {l : Layout} {start : Nat} {ids : List GraphId}
    (h : ∀ id ∈ ids, w.graphLines id = w'.graphLines id ∧
      (w.graph id).plots = (w'.graph id).plots) :
    Document.tiledLines w l start ids = Document.tiledLines w' l start ids := by
  induction ids generalizing start with
  | nil => rfl
  | cons id rest ih =>
    obtain ⟨hlines, hplots⟩ := h id List.mem_cons_self
    simp only [Document.tiledLines, hlines, Graph.written_congr hplots,
      Graph.lineNotices_congr hplots, ih fun id' hid' => h id' (List.mem_cons_of_mem id hid')]

theorem plotLines_of_ne {w : Workspace} {d : Document} (h : ∀ id, d.graphs ≠ [id]) :
    Document.plotLines w d =
      if d.layout.capacity = d.graphs.length then
        ((Document.tiledLines w d.layout 0 d.graphs).1.map
          fun ls => d.header :: (ls ++ ["unset multiplot"]),
          (Document.tiledLines w d.layout 0 d.graphs).2)
      else (do throw (.layoutMismatch (← (Value.int d.layout.capacity).plain)
        (toString d.graphs.length)), []) := by
  unfold Document.plotLines
  split
  · rename_i id hid
    exact absurd hid (h id)
  · rfl

/-- **What a page compiles to is in the parts that it shows.** -/
theorem compile_congr (h : SameOutline p q) (hp : o.Holds p.document.graphs p.workspace)
    (hq : o.Holds q.document.graphs q.workspace)
    (hcontent : ∀ π, p.Shows π → p.content o π = q.content o π) (t : Terminal) :
    p.compile t = q.compile t := by
  have hgraphs : ∀ id ∈ p.document.graphs, p.workspace.graphLines id = q.workspace.graphLines id ∧
      (p.workspace.graph id).plots = (q.workspace.graph id).plots := fun id hid =>
    graphLines_congr h hp hq hid (hcontent (.graph id) ⟨hid, nofun⟩)
  have hpre : p.document.preInit = q.document.preInit := hcontent .preInit ⟨trivial, nofun⟩
  have hpost : p.document.postInit = q.document.postInit := hcontent .postInit ⟨trivial, nofun⟩
  have hproperties : p.document.properties = q.document.properties :=
    hcontent .properties ⟨trivial, nofun⟩
  have hplots : Document.plotLines p.workspace p.document =
      Document.plotLines q.workspace q.document := by
    by_cases hone : ∃ id, p.document.graphs = [id]
    · obtain ⟨id, hid⟩ := hone
      obtain ⟨hlines, hsame⟩ := hgraphs id (hid ▸ List.mem_singleton_self id)
      unfold Document.plotLines
      rw [← h.graphs, hid]
      simp only [hlines, Graph.written_congr hsame, Graph.lineNotices_congr hsame]
    · have hsingle : ∀ id, p.document.graphs ≠ [id] := fun id hid => hone ⟨id, hid⟩
      have htitle : p.document.title = q.document.title :=
        hcontent .title ⟨trivial, fun _ => hsingle⟩
      rw [plotLines_of_ne hsingle, plotLines_of_ne (h.graphs ▸ hsingle), ← h.graphs, ← h.layout,
        tiledLines_congr hgraphs, Document.header, Document.header, htitle]
  simp only [Page.compile, Document.compile, Document.scriptLines, hplots, hpre, hpost, hproperties,
    h.graphs]

/-- The title has one line. -/
theorem lines_of_title {t : Terminal} {s : Section} (hs : s ∈ p.sections t)
    (htitle : s.part = some .title) : s.lines = [.text p.document.header] := by
  have htiled : ∀ {start : Nat} {ids : List GraphId},
      s ∉ tiledSections p.workspace p.document.layout start ids := by
    intro start ids
    induction ids generalizing start with
    | nil => exact List.not_mem_nil
    | cons id rest ih =>
      simp only [tiledSections, List.mem_cons, not_or]
      refine ⟨?_, ?_, ih⟩ <;> rintro rfl <;> cases htitle
  have hdrawing : s ∈ drawingSections p.workspace p.document →
      s = .ofTexts (some .title) [p.document.header] := by
    intro hs
    unfold drawingSections at hs
    split at hs
    · rw [List.mem_singleton.mp hs] at htitle
      cases htitle
    · simp only [List.mem_cons, List.mem_append, htiled, false_or, List.not_mem_nil, or_false] at hs
      rcases hs with hs | rfl
      · exact hs
      · cases htitle
  simp only [sections, List.mem_append, List.mem_cons, List.not_mem_nil, or_false] at hs
  rcases hs with (rfl | rfl | rfl | rfl) | hs | rfl
  any_goals cases htitle
  rw [hdrawing hs]
  rfl

/-- The script of a page is made of its sections. -/
def Consists (p : Page) (t : Terminal) : Prop :=
  ∀ script, (p.compile t).1 = .ok script ↔
    Tiled p.document ∧ p.workspace.CanWrite p.document.graphs ∧ ∃ lines : List String,
      (p.sections t).flatMap Section.lines = lines.map .text ∧ script = Document.joinLines lines

/-- What an edit of a part does to the script: it keeps the layout of the page and the lines of all
other parts, and whether the other graphs can be written.  The title has a single line if there are
several graphs, and none if there is one. -/
structure Frames (π : Part) (p q : Page) : Prop where
  consists : ∀ t, p.Consists t ∧ q.Consists t
  tiled : Tiled q.document ↔ Tiled p.document
  writable : ∀ id ∈ p.document.graphs, .graph id ≠ π →
    (q.workspace.graph id).isWritable = (p.workspace.graph id).isWritable
  sections : ∀ t, List.Forall₂ (Section.Keeps π) (p.sections t) (q.sections t)
  header : ∀ t, ∀ s ∈ p.sections t, s.part = some .title → s.lines = [.text p.document.header]
  single : π = .title → ∀ id, p.document.graphs = [id] → ∀ t, q.compile t = p.compile t

theorem EditsOnly.frames (h : EditsOnly o π p q) (hp : o.Holds p.document.graphs p.workspace) :
    Frames π p q where
  consists _ := ⟨fun _ => compile_eq_ok_iff_sections, fun _ => compile_eq_ok_iff_sections⟩
  tiled := by rw [Tiled, Tiled, h.outline.graphs, h.outline.layout]
  writable id hid hne := by
    have hplots := (graphLines_congr h.outline h.holds hp (h.outline.graphs ▸ hid)
      (h.others (.graph id) hid hne)).2
    rw [Graph.isWritable, Graph.isWritable, hplots]
  sections := h.sections hp
  header _ _ := lines_of_title
  single htitle id hid t := by
    refine compile_congr h.outline h.holds hp (fun ρ hρ => ?_) t
    refine h.others ρ ((has_congr h.outline.graphs).mp hρ.1) fun hρπ => ?_
    exact hρ.2 (hρπ.trans htitle) id (h.outline.graphs.trans hid)

/-! ### Reordered edits -/

/-- A run of edits keeps the outline of the page, and its graphs share no axis afterwards. -/
theorem runAll_keeps (h : o.Holds p.document.graphs p.workspace) (hcs : ∀ c ∈ cs, p.Edits o c) :
    SameOutline (p.runAll cs).1 p ∧
      o.Holds (p.runAll cs).1.document.graphs (p.runAll cs).1.workspace := by
  induction cs generalizing p with
  | nil => exact ⟨.refl p, h⟩
  | cons c cs ih =>
    obtain ⟨π, -, honly⟩ := (hcs c List.mem_cons_self).editsOnly h
    obtain ⟨houtline, hholds⟩ := ih honly.holds fun d hd =>
      edits_congr honly.outline.graphs.symm (hcs d (List.mem_cons_of_mem c hd))
    exact ⟨houtline.trans honly.outline, hholds⟩

theorem answersOn_of_not_has (hπ : ¬p.Has π) : p.answersOn o π cs = [] :=
  List.filter_eq_nil_iff.mpr fun _ _ hpart => hπ (has_of_part? (of_decide_eq_true hpart))

/-- **Edits of different parts do not depend on each other.**  On a page whose graphs share no axis,
two runs of the same edits that keep the order of the edits of each part give the same answers, part
by part, and pages with the same script for every terminal.  On the way, each edit changes no line
of the script that comes from another part. -/
theorem runAll_reorders (hp : p.Separate o) (hcs : ∀ c ∈ cs, p.Edits o c)
    (hds : ∀ d ∈ ds, p.Edits o d) (hreorders : p.Reorders o cs ds) :
    (∀ π, p.answersOn o π cs = p.answersOn o π ds) ∧
    (∀ t, (p.runAll cs).1.compile t = (p.runAll ds).1.compile t) ∧
    ∀ es c fs π, cs = es ++ c :: fs → p.part? o c = some π →
      Frames π (p.runAll es).1 ((p.runAll es).1.run c).state := by
  have hagrees : ∀ π, Agrees o π p p := fun π => ⟨.refl p, hp.holds, hp.holds, rfl⟩
  obtain ⟨houtline, hholds⟩ := runAll_keeps hp.holds hcs
  obtain ⟨houtline', hholds'⟩ := runAll_keeps hp.holds hds
  refine ⟨fun π => ?_, fun t => ?_, fun es c fs π hsplit hpart => ?_⟩
  · by_cases hπ : p.Has π
    · rw [((hagrees π).runAll hπ hcs).1, ((hagrees π).runAll hπ hds).1, hreorders π]
    · rw [answersOn_of_not_has hπ, answersOn_of_not_has hπ]
  · refine compile_congr (houtline.trans houtline'.symm) hholds hholds' (fun π hπ => ?_) t
    have hhas : p.Has π := (has_congr houtline.graphs).mp hπ.1
    have hcontent := ((hagrees π).runAll hhas hcs).2.content
    have hcontent' := ((hagrees π).runAll hhas hds).2.content
    rw [hcontent, hcontent', hreorders π]
  · have hes : ∀ d ∈ es, p.Edits o d := fun d hd =>
      hcs d (hsplit ▸ List.mem_append_left (c :: fs) hd)
    obtain ⟨hsame, hholdsq⟩ := runAll_keeps hp.holds hes
    have hc : p.Edits o c := hcs c (hsplit ▸ List.mem_append_right es List.mem_cons_self)
    obtain ⟨ρ, hρ, honly⟩ := (edits_congr hsame.graphs.symm hc).editsOnly hholdsq
    obtain rfl : π = ρ := Option.some.inj
      (hpart.symm.trans ((part?_congr hsame.graphs.symm c).trans hρ))
    exact honly.frames hholdsq

/-- Two graphs, of which the first has an axis: each gets an axis of the same name, in either order,
one plot finds no graph, and the title comes last or first. -/
theorem runAll_reorders_two_graphs :
    let p : Page := ⟨⟨[⟨"x", .empty⟩], [⟨false, [], [("x", 0)]⟩, .empty false]⟩,
      ⟨[0, 1], 1, "", [], [], .empty, .grid ⟨1, 2, 2, true⟩⟩⟩
    let o : Holding := ⟨1, fun _ => 0⟩
    let left : Page.Command := .axis (.text "y") (.int 0) (.setLabel (.text "left"))
    let right : Page.Command := .axis (.text "y") (.int 1) (.setLabel (.text "right"))
    let nowhere : Page.Command := .addPlot (.spec (.function (.text "x") .null .null)) (.int 2)
    let title : Page.Command := .setTitle (.text "Page")
    p.Separate o ∧ p.Reorders o [left, right, nowhere, title] [right, left, title, nowhere] ∧
      (∀ π, p.answersOn o π [left, right, nowhere, title] =
        p.answersOn o π [right, left, title, nowhere]) ∧
      Frames (.graph 1) (p.run left).state ((p.run left).state.run right).state ∧
      (((p.runAll [right, left, title, nowhere]).1.compile .standard).1.toOption = some
        ("set multiplot title \"Page\"\nset origin 0.0,0.0\nset size 0.5,1.0\n" ++
          "set ylabel \"left\"\nset origin 0.5,0.0\nset size 0.5,1.0\n" ++
          "set ylabel \"right\"\nunset multiplot\nquit\n")) := by
  intro p o left right nowhere title
  have hp : p.Separate o := by
    refine ⟨rfl, by decide, fun id hid e he => ?_⟩
    rcases List.mem_pair.mp hid with rfl | rfl
    · obtain rfl := List.mem_singleton.mp he
      decide
    · cases he
  have hleft : p.part? o left = some (.graph 0) := by decide +kernel
  have hright : p.part? o right = some (.graph 1) := by decide +kernel
  have hnowhere : p.part? o nowhere = some .nowhere := by decide +kernel
  have htitle : p.part? o title = some .title := rfl
  have hedits : ∀ c ∈ [left, right, nowhere, title], p.Edits o c := by
    intro c hc
    simp only [List.mem_cons, List.not_mem_nil, or_false] at hc
    rcases hc with rfl | rfl | rfl | rfl
    · exact ⟨⟨_, hleft⟩, trivial⟩
    · exact ⟨⟨_, hright⟩, trivial⟩
    · exact ⟨⟨_, hnowhere⟩, trivial⟩
    · exact ⟨⟨_, htitle⟩, trivial⟩
  have hedits' : ∀ c ∈ [right, left, title, nowhere], p.Edits o c := by
    intro c hc
    refine hedits c ?_
    simp only [List.mem_cons, List.not_mem_nil, or_false] at hc ⊢
    rcases hc with h | h | h | h <;> simp only [h, true_or, or_true]
  have hreorders : p.Reorders o [left, right, nowhere, title] [right, left, title, nowhere] := by
    have hgraphs : p.Reorders o [left, right, nowhere, title] [right, left, nowhere, title] :=
      Reorders.swap (by rw [hleft, hright]; decide) [] [nowhere, title]
    have hrest : p.Reorders o [right, left, nowhere, title] [right, left, title, nowhere] :=
      Reorders.swap (by rw [hnowhere, htitle]; decide) [right, left] []
    exact fun π => (hgraphs π).trans (hrest π)
  obtain ⟨hanswers, hcompile, hframes⟩ := runAll_reorders hp hedits hedits' hreorders
  refine ⟨hp, hreorders, hanswers, hframes [left] right [nowhere, title] (.graph 1) rfl hright, ?_⟩
  rw [← hcompile]
  decide +kernel

end PlotPage.Page
