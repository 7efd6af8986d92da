import GoStub.ImportTable
import GoStub.GoType

/-! The shapes of symbols. -/

namespace GoStub

structure DeclaredMethod where
  name : String
  pointer : Bool
  receiverParams : List String
  signature : Signature

/-- The shape of a symbol. A constant has a basic kind, a variable a type. -/
inductive Shape
  | function (params : List TypeParam) (signature : Signature)
  | interface (params : List TypeParam) (body : InterfaceBody)
  | struct (params : List TypeParam) (fields : List Field) (methods : List DeclaredMethod)
  | named (params : List TypeParam) (underlying : GoType) (isAlias : Bool)
      (methods : List DeclaredMethod)
  | value (type : Option GoType) (constant : Bool) (basic : Option ConstantKind)

namespace Shape

def declaresType : Shape → Bool
  | .function _ _ => false
  | .value _ _ _ => false
  | _ => true

end Shape

structure Record where
  name : String
  package : String
  requested : Bool
  shape : Shape

/-- The records of a stub and the packages they refer to. -/
structure StubPlan where
  package : String
  packageName : String
  records : List Record
  imports : ImportTable

end GoStub
