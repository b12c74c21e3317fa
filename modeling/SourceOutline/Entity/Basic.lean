/-!
The entities of an outline. They hold texts and line numbers only and no link to the tree that they
were read from.
-/
namespace SourceOutline.Entity

structure Parameter where
  name : String
  typeText : Option String := none
  value : Option String := none
deriving DecidableEq, Repr, Inhabited

structure Function where
  name : String
  parameters : List Parameter
  body : String
  startLine : Nat
  endLine : Nat
  isAsync : Bool := false
  decorators : List String := []
deriving DecidableEq, Repr, Inhabited

structure Class where
  name : String
  superclasses : List String
  methods : List Function
  startLine : Nat
  endLine : Nat
  decorators : List String := []
deriving DecidableEq, Repr, Inhabited

/-- An imported name and the name that it is known by afterwards, if that is another one. -/
structure ImportedName where
  name : String
  knownAs : Option String := none
deriving DecidableEq, Repr, Inhabited

/-- Whether a statement imports modules, or names out of a module. -/
inductive ImportForm where
  | direct
  | ofModule
deriving DecidableEq, Repr, Inhabited

structure Import where
  form : ImportForm
  source : String
  names : List ImportedName
  knownAs : Option String
  startLine : Nat
deriving DecidableEq, Repr, Inhabited

end SourceOutline.Entity
