import ZanGuard.Schema.Types

/-! Conditions: the expression language is a parameter, and compiling trims its source text first. -/

namespace ZanGuard

/-- The characters Go's `unicode.IsSpace` accepts. -/
def isSpace (c : Char) : Bool :=
  -- The six ASCII spaces come first, then the Unicode ones outside ASCII.
  [0x09, 0x0A, 0x0B, 0x0C, 0x0D, 0x20, 0x85, 0xA0, 0x1680, 0x2000, 0x2001, 0x2002, 0x2003, 0x2004,
    0x2005, 0x2006, 0x2007, 0x2008, 0x2009, 0x200A, 0x2028, 0x2029, 0x202F, 0x205F,
    0x3000].contains c.toNat

/-- Go's `strings.TrimSpace`. -/
def trimSpace (s : String) : String :=
  .ofList ((s.toList.dropWhile isSpace).reverse.dropWhile isSpace).reverse

/-- The variables a condition is evaluated over. -/
structure Env (V : Type) where
  object : AnyMap V
  subject : AnyMap V
  request : AnyMap V
  deriving DecidableEq

/--
The expression library, which is not part of the repository.

Compiling may reject the text, running may fail, and a result may turn out not to be a boolean.
-/
structure ExprLang (V P : Type) where
  compile : String → Except String P
  run : P → Env V → Except String V
  /-- The boolean a value holds, or the name of the type it has instead. -/
  asBool : V → Except String Bool

variable {V P : Type}

/-- Compile a condition after trimming the white space around it. -/
def compileCondition (lang : ExprLang V P) (raw : String) : Except Err (ConditionExpr P) :=
  let cleaned := trimSpace raw
  match lang.compile cleaned with
  | .error cause => .error (.compileExpression cleaned cause)
  | .ok program => .ok { raw, compiled := some program }

/-- The name under which the engine reaches the compiler. -/
def compileConditionExpr (lang : ExprLang V P) (raw : String) : Except Err (ConditionExpr P) :=
  compileCondition lang raw

end ZanGuard
