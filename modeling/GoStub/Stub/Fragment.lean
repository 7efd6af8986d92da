import GoStub.Text.Basic

/-! Pieces of stub text, with the packages they refer to. -/

namespace GoStub

structure Fragment where
  text : String
  uses : List String
  deriving DecidableEq

namespace Fragment

def ofText (text : String) : Fragment :=
  ⟨text, []⟩

def append (a b : Fragment) : Fragment :=
  ⟨a.text ++ b.text, a.uses ++ b.uses⟩

instance : Append Fragment := ⟨append⟩

instance : HAppend String Fragment Fragment := ⟨fun s f => ofText s ++ f⟩

instance : HAppend Fragment String Fragment := ⟨fun f s => f ++ ofText s⟩

def concat (fragments : List Fragment) : Fragment :=
  fragments.foldr append (ofText "")

/-- All fragments with the separator between neighbours. -/
def joinWith (sep : String) : List Fragment → Fragment
  | [] => ofText ""
  | [f] => f
  | f :: g :: rest => f ++ sep ++ joinWith sep (g :: rest)

end Fragment

end GoStub
