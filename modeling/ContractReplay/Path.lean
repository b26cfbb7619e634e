import ContractReplay.Text.Quoted

/-!
# Places inside a value

A path starts at a root, which is any text, and takes steps inwards: to a field
of a record, an item of a list or an entry of a map.
-/

namespace ContractReplay

/-- A step inwards. -/
inductive Step where
  | field (name : String)
  | index (position : Nat)
  | key (name : String)
deriving DecidableEq

/-- The text of a step. -/
def Step.text : Step → String
  | .field name => "." ++ name
  | .index position => "[" ++ Nat.repr position ++ "]"
  | .key name => "[" ++ Text.quoted name ++ "]"

/-- A place inside a value: a root and the steps from there, the outermost first. -/
structure Path where
  root : String
  steps : List Step
deriving DecidableEq

namespace Path

/-- The place of the whole value. -/
def ofRoot (root : String) : Path :=
  ⟨root, []⟩

/-- The place one step further in. -/
def add (path : Path) (step : Step) : Path :=
  { path with steps := path.steps ++ [step] }

/-- The text of a path. -/
def text (path : Path) : String :=
  path.steps.foldl (fun text step => text ++ step.text) path.root

end Path

end ContractReplay
