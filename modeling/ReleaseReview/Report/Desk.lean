import ReleaseReview.Report.Page

/-!
# A sheet and its entries

A sheet can be entered on a page while it is still worked on. The entry keeps the grade of that
moment, but goes on to show the findings that are added to the sheet, until the sheet starts on new
lists of findings. A `Desk` holds a sheet and the entries made from it.
-/

namespace ReleaseReview

/-- An entry, and whether it still follows its sheet's findings. -/
structure LiveEntry where
  entry : Entry
  follows : Bool

/-- The entry after findings were added to its sheet. -/
def LiveEntry.add (e : LiveEntry) (more : Findings) : LiveEntry :=
  if e.follows then { e with entry := { e.entry with findings := e.entry.findings ++ more } } else e

/-- A sheet and the entries made from it, in order. -/
structure Desk where
  sheet : Sheet
  entries : List LiveEntry

/-- What can be done with a sheet. -/
inductive Step where
  | add (findings : Findings)
  /-- Start on new, empty lists of findings. -/
  | clear
  | rule (ruling : Ruling)
  | evaluate
  | evaluateWith (scale : Option Number) (verdict : Json)
  /-- Enter the sheet on the page. -/
  | enter

namespace Desk

/-- A new sheet, and no entries. -/
def new (r : Rubric) : Desk := ⟨.new r, []⟩

/-- The desk after a step, if the step succeeds. -/
def attempt (d : Desk) : Step → Except Fault Desk
  | .add findings => .ok ⟨d.sheet.add findings, d.entries.map (·.add findings)⟩
  | .clear => .ok ⟨d.sheet.clear, d.entries.map fun e => { e with follows := false }⟩
  | .rule ruling => .ok { d with sheet := d.sheet.rule ruling }
  | .evaluate => do return { d with sheet := ← d.sheet.evaluate }
  | .evaluateWith scale verdict => do
    return { d with sheet := ← d.sheet.evaluateWith scale verdict }
  | .enter => .ok { d with entries := d.entries ++ [⟨.ofSheet d.sheet, true⟩] }

/-- The desk after a step; a step that fails changes nothing. -/
def step (d : Desk) (s : Step) : Desk :=
  match d.attempt s with
  | .ok after => after
  | .error _ => d

/-- The desk after steps. -/
def run (d : Desk) (steps : List Step) : Desk :=
  steps.foldl step d

/-- A page with the entries that were made at the desk. -/
def fill (d : Desk) (page : Page) : Page :=
  { page with entries := d.entries.map fun e => e.entry.toJson }

@[simp] theorem run_nil (d : Desk) : d.run [] = d := rfl

@[simp] theorem run_cons (d : Desk) (s : Step) (steps : List Step) :
    d.run (s :: steps) = (d.step s).run steps := rfl

theorem run_append (d : Desk) (a b : List Step) : d.run (a ++ b) = (d.run a).run b :=
  List.foldl_append

end Desk

end ReleaseReview
