import GoStub.GoType

/-! What a type needs around it: declarations of its own package, imports, and methods that are
promoted from embedded types. -/

namespace GoStub

/-- A type of the package, another package, or a type of the package that is embedded. -/
inductive Need
  | declared (name : String)
  | imported (path : String)
  | promoted (name : String)
  deriving DecidableEq

namespace Need

/-- A named type is declared if it is of the package `own`, imported otherwise. -/
def ofName (own package name : String) : Need :=
  if package = own then .declared name else .imported package

def ofLength (own : String) : ArrayLength → List Need
  | .constant package _ => if package = own then [] else [.imported package]
  | _ => []

/-- The promotion that embedding a type brings about. -/
def ofEmbedded (own : String) : GoType → List Need
  | .pointer (.named package name _) => if package = own then [.promoted name] else []
  | .named package name _ => if package = own then [.promoted name] else []
  | _ => []

end Need

mutual

/-- What a type needs, in the order in which it is met. -/
def GoType.needs (own : String) : GoType → List Need
  | .builtin _ => []
  | .param _ => []
  | .named package name args => needsOfAll own args ++ [Need.ofName own package name]
  | .pointer elem => elem.needs own
  | .slice elem => elem.needs own
  | .array length elem => Need.ofLength own length ++ elem.needs own
  | .map key value => key.needs own ++ value.needs own
  | .chan _ elem => elem.needs own
  | .func signature => signature.needs own
  | .struct fields => needsOfFields own fields
  | .interface body => body.needs own
  | .tilde elem => elem.needs own
  | .union terms => needsOfAll own terms
  | .unsupported _ => []

def needsOfAll (own : String) : List GoType → List Need
  | [] => []
  | t :: ts => t.needs own ++ needsOfAll own ts

def Signature.needs (own : String) : Signature → List Need
  | ⟨params, _, results⟩ => needsOfAll own params ++ needsOfAll own results

def needsOfFields (own : String) : List Field → List Need
  | [] => []
  | ⟨_, type, embedded, _⟩ :: rest =>
    type.needs own ++ (if embedded then Need.ofEmbedded own type else []) ++ needsOfFields own rest

def needsOfMethods (own : String) : List Method → List Need
  | [] => []
  | ⟨_, signature⟩ :: rest => signature.needs own ++ needsOfMethods own rest

def InterfaceBody.needs (own : String) : InterfaceBody → List Need
  | ⟨methods, embedded, typeSets⟩ =>
    needsOfMethods own methods ++ needsOfAll own embedded ++ needsOfAll own typeSets

end

def needsOfParams (own : String) (params : List TypeParam) : List Need :=
  params.flatMap fun p => p.constraint.needs own

end GoStub
