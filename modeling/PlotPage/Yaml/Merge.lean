import PlotPage.Yaml.Cursor
import PlotPage.Yaml.Node

/-!
# Merged mappings

An entry whose key has the tag of a merge brings the entries of other mappings into its own.  They
take their places before the own ones, and from a list of mappings the last comes first, so that a
key has its value from the own entry if there is one and from the first mapping of the list
otherwise.  A mapping that has taken its merges has no such entry left; it stays that way wherever
else it stands, so a mapping may even be merged into itself.
-/

namespace PlotPage.Yaml.Parts

/-- The number of entries of all parts, which bounds the number of merges. -/
def entryCount (ps : Parts) : Nat :=
  ps.foldl (fun n p => match p.form with | .mapping es => n + es.length | _ => n) 0

/-- Turns keys that mark a default value into texts. -/
def settleKeys (ps : Parts) (es : List (Nat × Nat)) : Parts :=
  es.foldl (fun ps e => if ps.tag e.1 = .default then ps.setTag e.1 .text else ps) ps

/-- Lets the mapping `i` take its merges.  The entries `taken` have been taken from it already and
are not among its own until all merges are done. -/
def merge : (fuel : Nat) → (taken : List (Nat × Nat)) → Parts → Nat → Except Problem Parts
  | 0, _, _, _ => .error .malformed
  | fuel + 1, taken, ps, i => do
    let es := ps.entries i
    match es.find? fun e => ps.tag e.1 = .merge with
    | none =>
      let ps := ps.settleKeys es
      return if taken.isEmpty then ps else ps.setForm i (.mapping (taken ++ es))
    | some (_, v) =>
      let ps := ps.setForm i (.mapping (es.eraseP fun e => ps.tag e.1 = .merge))
      let (ps, more) ← match ps.form v with
        | .text _ => throw .malformed
        | .mapping _ => do
          let ps ← merge fuel [] ps v
          pure (ps, ps.entries v)
        | .sequence items => items.foldlM (fun (ps, later) item => do
            match ps.form item with
            | .mapping _ =>
              let ps ← merge fuel [] ps item
              pure (ps, ps.entries item ++ later)
            | _ => throw .malformed) (ps, [])
      merge fuel (taken ++ more) ps i

end PlotPage.Yaml.Parts
