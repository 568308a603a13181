import Menagerie.Savanna.Visitor

/-!
# The query compiler

`compile_static` writes into an `InlineString` and may be constant evaluated; `compile_dynamic` runs
at run time, writes into a `std::pmr::string` and hands its values to a `ParamSink`.
-/

namespace Menagerie.Savanna

open Beaver

/-- `CompiledStaticQuery`. -/
structure CompiledStaticQuery (maxLen : Nat) where
  sql : InlineString maxLen
  params : List FieldValue

/-- `CompiledDynamicQuery`: the text and its parameters. -/
structure CompiledDynamicQuery where
  sql : Text
  params : List FieldValue
  deriving DecidableEq


/-- `compile_static<Mode, MaxLen>`, not for `Sink`. -/
def compileStatic (evaluation : Evaluation) (mode : ParamMode) (maxLen : Nat)
    (category : ValueCategory) (expr : Expression) :
    Except Failure (CompiledStaticQuery maxLen) := do
  let (params, visitor) ← 
    (visit ⟨evaluation, mode⟩ category expr).run { sql := Appendable.empty }
  return { sql := visitor.sql, params := params }

/-- `compile_dynamic<Mode>`, not for `Tuple`. -/
def compileDynamic (mode : ParamMode) (category : ValueCategory) (expr : Expression) :
    Except Failure CompiledDynamicQuery := do
  let (_, visitor) ← (visit ⟨.runtime, mode⟩ category expr).run
    { sql := (Appendable.empty : PmrString) }
  return { sql := visitor.sql.text, params := visitor.sink }

end Menagerie.Savanna
