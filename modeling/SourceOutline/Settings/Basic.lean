/-!
What can be set about reading and outlining a source text.
-/
namespace SourceOutline

structure Settings where
  /-- How many wrappers around a definition are searched for decorators. -/
  maxDecoratorDepth : Int := 32
  /-- Whether parameters with both a type and a default value are listed. -/
  typedDefaultParameters : Bool := false
  /-- Whether nodes that the grammar engine had to put in are reported, as warnings. -/
  reportMissingNodes : Bool := false
deriving DecidableEq, Repr, Inhabited

end SourceOutline
