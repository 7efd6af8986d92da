/-! Places in a source and the stretches between them. -/

namespace GoStub.Syntax

/-- A place in a source: its line, its offset, and the text from there on. -/
structure Place where
  line : Nat
  offset : Nat
  rest : List Char

/-- The place so many characters on. -/
def Place.advance (p : Place) (n : Nat) : Place :=
  ⟨p.line + (p.rest.take n).count '\n', p.offset + n, p.rest.drop n⟩

/-- What stands between two places. -/
structure Stretch where
  start : Place
  stop : Place

namespace Stretch

/-- The line a stretch starts on. -/
def line (s : Stretch) : Nat :=
  s.start.line

def length (s : Stretch) : Nat :=
  s.stop.offset - s.start.offset

def text (s : Stretch) : String :=
  String.ofList (s.start.rest.take s.length)

/-- The stretch from the start of one to the end of another. -/
def upTo (s t : Stretch) : Stretch :=
  ⟨s.start, t.stop⟩

end Stretch

instance : Inhabited Place := ⟨⟨0, 0, []⟩⟩

instance : Inhabited Stretch := ⟨⟨default, default⟩⟩

end GoStub.Syntax
