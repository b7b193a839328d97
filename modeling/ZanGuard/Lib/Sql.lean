import Mathlib.Data.List.Basic

/-! WHERE clauses over rows with NULLs, and the numbered placeholders they read. -/

namespace Sql

/-! ### Truth values -/

/-- The value of a condition, which is unknown where it compares with NULL. -/
abbrev Truth := Option Bool

/-- A conjunction is false when one side is, and otherwise unknown when one side is. -/
def Truth.and : Truth → Truth → Truth
  | some false, _ | _, some false => some false
  | some true, other | other, some true => other
  | none, none => none

/-- A disjunction is true when one side is, and otherwise unknown when one side is. -/
def Truth.or : Truth → Truth → Truth
  | some true, _ | _, some true => some true
  | some false, other | other, some false => other
  | none, none => none

theorem Truth.and_eq_true {left right : Truth} :
    left.and right = some true ↔ left = some true ∧ right = some true := by
  -- Nine combinations, of which one is true.
  rcases left with _ | _ | _ <;> rcases right with _ | _ | _ <;> simp [Truth.and]

theorem Truth.or_eq_true {left right : Truth} :
    left.or right = some true ↔ left = some true ∨ right = some true := by
  -- Nine combinations again, of which five are true.
  rcases left with _ | _ | _ <;> rcases right with _ | _ | _ <;> simp [Truth.or]

/-! ### Conditions -/

variable {κ τ ρ : Type}

/-- A condition on a row; `κ` names the columns with texts, and `τ` those with instants. -/
inductive Condition (κ τ : Type) where
  /-- `column = $n` -/
  | equals (column : κ) (n : Nat)
  /-- `column = ''` -/
  | empty (column : κ)
  /-- `column IS NULL` -/
  | null (column : κ)
  /-- `column IS NULL` -/
  | unset (column : τ)
  /-- `column > NOW()` -/
  | later (column : τ)
  /-- `(left OR right)` -/
  | or (left right : Condition κ τ)

/-- How the columns of a row are read, where nothing stands for NULL. -/
structure Columns (κ τ ρ : Type) where
  text : ρ → κ → Option String
  instant : ρ → τ → Option Int

/-- The argument a placeholder stands for; placeholders are numbered from one. -/
def argument (args : List String) (n : Nat) : String :=
  (args[n - 1]?).getD ""

/-- The value of a condition on a row. -/
def Condition.eval (columns : Columns κ τ ρ) (now : Int) (args : List String) (row : ρ) :
    Condition κ τ → Truth
  -- A comparison with NULL is unknown.
  | .equals column n => (columns.text row column).map (· == argument args n)
  | .empty column => (columns.text row column).map (· == "")
  -- The test for NULL itself is never unknown.
  | .null column => some (columns.text row column).isNone
  | .unset column => some (columns.instant row column).isNone
  | .later column => (columns.instant row column).map fun instant => decide (instant > now)
  | .or left right => (left.eval columns now args row).or (right.eval columns now args row)

/-- The placeholders of a condition, in order. -/
def Condition.placeholders : Condition κ τ → List Nat
  | .equals _ n => [n]
  | .empty _ | .null _ | .unset _ | .later _ => []
  | .or left right => left.placeholders ++ right.placeholders

/-- Arguments behind those a condition reads do not change its value. -/
theorem Condition.eval_append {columns : Columns κ τ ρ} {now : Int} {args : List String} {row : ρ}
    {condition : Condition κ τ} (reads : ∀ n ∈ condition.placeholders, 0 < n ∧ n ≤ args.length)
    (more : List String) :
    condition.eval columns now (args ++ more) row = condition.eval columns now args row := by
  -- The induction is on the condition; only a comparison with a placeholder reads the arguments.
  induction condition with
  | equals column n =>
    obtain ⟨positive, within⟩ := reads n (List.mem_singleton_self n)
    have same : argument (args ++ more) n = argument args n := by
      unfold argument
      rw [List.getElem?_append_left (by omega)]
    simp only [Condition.eval, same]
  | or left right ihLeft ihRight =>
    have first := ihLeft fun n member => reads n (List.mem_append_left _ member)
    -- Both sides read their own placeholders.
    have second := ihRight fun n member => reads n (List.mem_append_right _ member)
    simp only [Condition.eval, first, second]
  | _ => rfl

/-! ### Queries -/

/-- The conditions that a WHERE clause joins with AND, and the arguments of the query. -/
structure Query (κ τ : Type) where
  conditions : List (Condition κ τ)
  args : List String

namespace Query

/-- The placeholders of a query, in order. -/
def placeholders (query : Query κ τ) : List Nat :=
  query.conditions.flatMap Condition.placeholders

/-- Every argument has a placeholder, and every placeholder an argument. -/
def bound (query : Query κ τ) : Bool :=
  let numbers := List.range' 1 query.args.length
  -- The driver refuses arguments that are left over as well as missing ones.
  query.placeholders.all (· ∈ numbers) && numbers.all (· ∈ query.placeholders)

/-- Whether a row is among those a query selects: the whole clause must be true. -/
def selects (query : Query κ τ) (columns : Columns κ τ ρ) (now : Int) (row : ρ) : Bool :=
  (query.conditions.foldr (fun condition rest =>
    (condition.eval columns now query.args row).and rest) (some true)) == some true

/-- The rows a query selects, unless its arguments do not fit its placeholders. -/
def run (query : Query κ τ) (columns : Columns κ τ ρ) (now : Int) (rows : List ρ) :
    Option (List ρ) :=
  if query.bound then some (rows.filter (query.selects columns now)) else none

/-- Add a comparison of a column with a new argument, under a number for its placeholder. -/
def andEquals (query : Query κ τ) (column : κ) (n : Nat) (value : String) : Query κ τ where
  conditions := query.conditions ++ [.equals column n]
  args := query.args ++ [value]

/-- Placeholders that count from one, one for each argument, are bound. -/
theorem bound_of_counted {query : Query κ τ}
    (counted : query.placeholders = List.range' 1 query.args.length) : query.bound = true := by
  -- Both directions are the same membership.
  simp only [bound, counted, Bool.and_eq_true, List.all_eq_true, decide_eq_true_eq]
  exact ⟨fun _ member => member, fun _ member => member⟩

variable {columns : Columns κ τ ρ} {now : Int} {row : ρ}

/-- A row is selected when every condition is true of it. -/
theorem selects_iff {query : Query κ τ} :
    query.selects columns now row = true ↔
      ∀ condition ∈ query.conditions, condition.eval columns now query.args row = some true := by
  unfold selects
  rw [beq_iff_eq]
  -- The induction is on the conditions, which are joined from the right.
  generalize query.conditions = conditions
  induction conditions with
  | nil => simp
  | cons condition rest ih =>
    rw [List.foldr_cons, Truth.and_eq_true, ih]
    simp

/-- A comparison with the next argument narrows a query to the rows that have it in the column. -/
theorem andEquals_selects {query : Query κ τ}
    (counted : query.placeholders = List.range' 1 query.args.length) (column : κ)
    (value : String) :
    (query.andEquals column (query.args.length + 1) value).selects columns now row = true ↔
      query.selects columns now row = true ∧ columns.text row column = some value := by
  -- The conditions that were there read arguments that were there.
  have same : ∀ condition ∈ query.conditions,
      condition.eval columns now (query.args ++ [value]) row =
        condition.eval columns now query.args row := by
    intro condition member
    refine Condition.eval_append (fun n read => ?_) [value]
    have numbered : n ∈ query.placeholders := List.mem_flatMap.mpr ⟨condition, member, read⟩
    rw [counted, List.mem_range'_1] at numbered
    omega
  -- The new condition compares with the argument that was just added.
  have own : Condition.eval columns now (query.args ++ [value]) row
      (.equals column (query.args.length + 1)) = some true ↔
        columns.text row column = some value := by
    have last : argument (query.args ++ [value]) (query.args.length + 1) = value := by
      simp [argument]
    simp [Condition.eval, last]
  rw [selects_iff, selects_iff, ← own]
  simp only [andEquals, List.mem_append, List.mem_singleton, or_imp, forall_and, forall_eq]
  refine and_congr_left' (forall₂_congr fun condition member => ?_)
  rw [same condition member]

/-- Counting goes on with the next argument. -/
theorem andEquals_counted {query : Query κ τ}
    (counted : query.placeholders = List.range' 1 query.args.length) (column : κ)
    (value : String) :
    let longer := query.andEquals column (query.args.length + 1) value
    longer.placeholders = List.range' 1 longer.args.length := by
  simp only [placeholders, andEquals, List.flatMap_append, List.length_append,
    List.length_singleton, List.range'_concat] at counted ⊢
  rw [counted]
  simp [Condition.placeholders, Nat.add_comm]

end Query

end Sql
