import ZanGuard.Proofs.Engine.Depth
import ZanGuard.Proofs.Engine.Congruence
import ZanGuard.Proofs.Engine.Alike

/-! Raising the depth limit changes no check that does not end at the limit. -/

namespace ZanGuard

variable {V P : Type}

/-- Whether an error is that of the depth limit, or wraps it. -/
def Err.isDeep : Err → Bool
  | .maxCheckDepthExceeded _ => true
  | .conditionEvaluation inner => inner.isDeep
  | _ => false

/-- Whether an outcome is an error of the depth limit. -/
def tooDeep {α : Type} (outcome : Except Err α) : Bool :=
  match outcome with
  | .error e => e.isDeep
  | .ok _ => false

/-- Two steps agree wherever the first one does not end at the depth limit. -/
def AgreesAbove {α : Type} (step deeper : WalkM α) : Prop :=
  ∀ st, tooDeep (step.from st).1 = false → deeper.from st = step.from st

/-- Everything a walk does keeps this agreement. -/
theorem agreesAbove_steps : StepRelation (fun _ => True) AgreesAbove where
  pure _ _ _ := rfl
  throw _ _ _ _ := rfl
  bind := by
    intro α β first first' next next' head tail st shallow
    -- A first part at the limit would take the whole there.
    rw [WalkM.from_bind] at shallow ⊢
    have above : tooDeep (first.from st).1 = false := by
      cases ran : first.from st with
      | mk outcome after =>
        cases outcome with
        | error e =>
          rw [ran] at shallow
          exact shallow
        | ok a => rfl
    rw [WalkM.from_bind, head st above]
    cases ran : first.from st with
    | mk outcome after =>
      rw [ran] at shallow
      cases outcome with
      | error e => rfl
      | ok a => exact tail a after shallow
  get _ _ := rfl
  mark _ _ _ := rfl
  gate := by
    intro α step deeper head st shallow
    -- The wrapped error is seen through.
    have above : tooDeep (step.from st).1 = false := by
      cases ran : step.from st with
      | mk outcome after =>
        rw [WalkM.from_adapt, ran] at shallow
        cases outcome with
        | error e => exact shallow
        | ok a => rfl
    rw [WalkM.from_adapt, WalkM.from_adapt, head st above]

/-- A step agrees with itself. -/
theorem AgreesAbove.refl {α : Type} (step : WalkM α) : AgreesAbove step step :=
  fun _ _ => rfl

/-- A store answers alike to two walks. -/
theorem Lookups.agreesAbove (store : Lookups V) (schema : CompiledSchema P)
    (subjectType subjectID : String) :
    Lookups.Related AgreesAbove schema subjectType subjectID store store where
  direct _ _ _ := .refl _
  member _ _ _ := .refl _
  subjects _ _ _ := .refl _
  related _ _ _ _ := .refl _
  objectAttrs _ _ := .refl _
  subjectAttrs := .refl _

/-- The same walk under another configuration. -/
def Walker.under (w : Walker V P) (cfg : Config) : Walker V P :=
  { w with cfg }

/-- Between two hops no walker looks at the configuration. -/
theorem Walker.alike_under (w : Walker V P) (cfg : Config) : (w.under cfg).Alike w :=
  ⟨rfl, rfl, fun _ _ => rfl⟩

/-- With more hops left a walk goes on as before, wherever it did not run out of them. -/
theorem walkPermission_agreesAbove (w : Walker V P) (cfg : Config) (subjectType subjectID : String)
    (hops : Nat) : ∀ more, hops ≤ more →
      DescentRelated AgreesAbove w.schema subjectType subjectID (walkPermission w hops)
        (walkPermission (w.under cfg) more) := by
  -- By induction on the hops; out of hops the first walk ends at the limit.
  induction hops with
  | zero =>
    intro more _ req permDef _ _ st shallow
    cases shallow
  | succ hops ih =>
    intro more le req permDef own declared
    obtain ⟨rest, rfl⟩ : ∃ rest, more = rest + 1 := ⟨more - 1, by omega⟩
    simp only [walkPermission, walkOperation_alike (w.alike_under cfg)]
    refine agreesAbove_steps.bind (agreesAbove_steps.get) fun st => ite_related _ (.refl _) ?_
    refine agreesAbove_steps.bind (agreesAbove_steps.mark _) fun _ => ?_
    exact walkOperation_related agreesAbove_steps w.mayThrow_any (w.store.agreesAbove _ _ _) own
      (ih rest (by omega)) declared

/-- The check of a walk, its gate included. -/
theorem Walker.check_agreesAbove (w : Walker V P) (cfg : Config)
    (raised : w.cfg.maxCheckDepth ≤ cfg.maxCheckDepth) (req : CheckRequest V) :
    AgreesAbove (w.check req) ((w.under cfg).check req) := by
  -- Both sides have one schema, so they walk the same permission.
  unfold Walker.check
  have schema : (w.under cfg).schema = w.schema := rfl
  rw [schema]
  cases declared : w.schema.getPermission req.objectType req.permission with
  | error e => exact .refl _
  | ok permDef =>
    have hops : w.hopsAt 0 ≤ (w.under cfg).hopsAt 0 := by
      simp only [hopsAt, under]
      omega
    have walked := walkPermission_agreesAbove w cfg req.subjectType req.subjectID _ _ hops req
      permDef ⟨rfl, rfl⟩ declared
    -- The gate reads attributes, which no limit touches.
    exact agreesAbove_steps.bind walked fun result => .refl _

/--
Raising the depth limit changes no check that does not end at the limit.

Whatever the store answers, failures included, a limit can only turn an outcome into its error.
-/
theorem raised_limit_changes_nothing (e : Engine P) (cfg : Config)
    (raised : e.cfg.maxCheckDepth ≤ cfg.maxCheckDepth) (lang : ExprLang V P) (store : Lookups V)
    (ctx : Context V) (req : CheckRequest V)
    (shallow : tooDeep (e.check lang store ctx req) = false) :
    { e with cfg }.check lang store ctx req = e.check lang store ctx req := by
  cases passes : checkTenant ctx with
  | error refused => rw [Engine.check_refused passes, Engine.check_refused passes]
  | ok tc =>
    cases ctx with
    | none => cases passes
    | some own =>
      obtain rfl := checkTenant_same passes
      -- The tenant's schema is chosen without a limit.
      have chosen : { e with cfg }.schemaForTenant tc = e.schemaForTenant tc := rfl
      cases selected : e.schemaForTenant tc with
      | error missing =>
        rw [selected] at chosen
        simp only [Engine.check, passes, selected, chosen, bind, Except.bind]
      | ok cs =>
        rw [Engine.check_eq passes selected] at shallow ⊢
        rw [selected] at chosen
        rw [Engine.check_eq passes chosen]
        have agrees := (e.walker lang store cs).check_agreesAbove cfg raised req
        exact congrArg Prod.fst (agrees .start shallow)

/-- Two folders, the outer one open to a user. -/
def nestedFolders : List (RelationTuple Bool) :=
  [fact "folder" "a" "parent" "folder" "b", fact "folder" "b" "viewer" "user" "u"]

/-- A grant one folder up is the same under a limit of one and under the default. -/
theorem raised_limit_changes_nothing_nestedFolders :
    (acmeEngine folderSchema 25).check literalLang
        ((acmeStore nestedFolders).lookups (some acme) fun _ => 0) (some acme) folderRequest =
      (acmeEngine folderSchema 1).check literalLang
        ((acmeStore nestedFolders).lookups (some acme) fun _ => 0) (some acme) folderRequest :=
  raised_limit_changes_nothing (acmeEngine folderSchema 1) defaultConfig (by decide) literalLang _
    (some acme) folderRequest rfl

end ZanGuard
