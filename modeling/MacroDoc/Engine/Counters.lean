import MacroDoc.Fault

/-!
# Numbering counters

Numbered paragraphs carry a prefix such as `2.3`: one number per level, each counting the
paragraphs of a label at that level. The counters keep, for every level, the next number of
each label, and the labels of the last numbered paragraph. They live for the whole run,
across appended documents.

A numbered block with labels `l₀ … lₖ` first clears every level from the first label that
differs from the last numbered paragraph's labels on; a block without labels makes sure
there is a first level. Its paragraph then gets the prefix: for each label but the last,
its number at that level minus one, and then the last label's number, which moves on by
one. A number that is not yet set starts at 1. Erasing a label sets it back to 1 at every
level.

## Main definitions

* `Engine.Counters`: the numbers of the labels at each level.
* `Engine.Counters.enter`: prepare the levels for a numbered block.
* `Engine.Counters.prefixFor`: the prefix of the next numbered paragraph.
* `Engine.Counters.erase`: set a label back to its first number.
-/

namespace MacroDoc.Engine

/-- The numbers of the labels at one level. -/
abbrev Level := List (String × Int)

/-- The first number of a label. -/
def firstNumber : Int := 1

/-- The number of a label at a level. -/
def Level.get? (l : Level) (label : String) : Option Int :=
  (l.find? (·.1 == label)).map (·.2)

/-- A level with the number of a label set. -/
def Level.set (l : Level) (label : String) (n : Int) : Level :=
  if l.any (·.1 == label) then l.map (fun p => if p.1 == label then (label, n) else p)
  else l ++ [(label, n)]

/-- The numbering state. -/
structure Counters where
  levels : List Level := []
  previous : List String := []
  deriving Repr

namespace Counters

/-- Clear the level at a position: the level just past the last is added. -/
def clearLevel (levels : List Level) (i : Nat) : Except Fault (List Level) :=
  if i == levels.length then .ok (levels ++ [[]])
  else if i < levels.length then .ok (levels.set i [])
  else .error ⟨.badIndex, "list assignment index out of range"⟩

/-- Clear the levels from `start` up to, not including, `stop`. -/
def clearLevels (c : Counters) (start stop : Nat) : Except Fault Counters := do
  let levels ← (List.range' start (stop - start)).foldlM clearLevel c.levels
  return { c with levels }

/-- The first position where labels differ from the last numbered paragraph's. -/
def firstChange (c : Counters) (labels : List String) : Option Nat :=
  (labels.zipIdx.find? fun (l, i) => i == c.previous.length || c.previous[i]? != some l).map (·.2)

/-- Prepare the levels for a numbered block with labels. -/
def enter (c : Counters) (labels : List String) : Except Fault Counters := do
  let c ← if labels.isEmpty && c.levels.isEmpty then c.clearLevels 0 1 else pure c
  match c.firstChange labels with
  | none => return c
  | some i => c.clearLevels i (max c.levels.length labels.length)

/-- The number of a label at a level, set to the first number where it is missing. -/
def readNumber (levels : List Level) (i : Nat) (label : String) : Int × List Level :=
  let level := levels.getD i []
  match level.get? label with
  | some n => (n, levels)
  | none => (firstNumber, levels.set i (level.set label firstNumber))

/-- The prefix of the next paragraph numbered with labels, and the counters after it. The
labels must not be more than the levels. -/
def prefixFor (c : Counters) (labels : List String) : Except Fault (String × Counters) :=
  if labels.isEmpty || labels.length > c.levels.length then .error ⟨.failedCheck, ""⟩
  else
    let parents := labels.dropLast.zipIdx
    let (text, levels) := parents.foldl (fun (acc : String × List Level) (label, i) =>
      let (n, levels) := readNumber acc.2 i label
      (acc.1 ++ toString (n - 1) ++ ".", levels)) ("", c.levels)
    let last := labels.length - 1
    let label := labels.getLast?.getD ""
    let (n, levels) := readNumber levels last label
    let levels := levels.set last ((levels.getD last []).set label (n + 1))
    .ok (text ++ toString n, { c with levels, previous := labels })

/-- Set a label back to its first number at every level. -/
def erase (c : Counters) (label : String) : Counters :=
  { c with levels := c.levels.map (·.set label firstNumber) }

end Counters

end MacroDoc.Engine
