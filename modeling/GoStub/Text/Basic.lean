/-! Texts as lists of characters: blanks, affixes, pieces and lines. -/

namespace GoStub.Text

/-- Characters that count as white space (Unicode property White_Space). -/
def isBlank (c : Char) : Bool :=
  let n := c.toNat
  (9 ≤ n && n ≤ 13) || n == 32 || n == 133 || n == 160 || n == 5760 ||
    (8192 ≤ n && n ≤ 8202) || n == 8232 || n == 8233 || n == 8239 || n == 8287 || n == 12288

def dropEndWhile (p : Char → Bool) (cs : List Char) : List Char :=
  (cs.reverse.dropWhile p).reverse

def trimStart (cs : List Char) : List Char :=
  cs.dropWhile isBlank

def trimEnd (cs : List Char) : List Char :=
  dropEndWhile isBlank cs

def trim (cs : List Char) : List Char :=
  trimEnd (trimStart cs)

/-- A text without the blanks around it. -/
def strip (s : String) : String :=
  String.ofList (trim s.toList)

def dropPrefix? : (affix cs : List Char) → Option (List Char)
  | [], cs => some cs
  | _ :: _, [] => none
  | a :: affix, c :: cs => if a = c then dropPrefix? affix cs else none

def dropSuffix? (affix cs : List Char) : Option (List Char) :=
  (dropPrefix? affix.reverse cs.reverse).map List.reverse

def startsWith (affix cs : List Char) : Bool :=
  (dropPrefix? affix cs).isSome

def endsWith (affix cs : List Char) : Bool :=
  (dropSuffix? affix cs).isSome

/-- The pieces between the separators: always one more than there are separators. -/
def split (sep : Char) : List Char → List (List Char)
  | [] => [[]]
  | c :: cs =>
    if c = sep then [] :: split sep cs
    else
      match split sep cs with
      | [] => [[c]]
      | piece :: pieces => (c :: piece) :: pieces

def splitText (sep : Char) (s : String) : List String :=
  (split sep s.toList).map String.ofList

/-- The part before a carriage return that ends a line. -/
def dropReturn (line : List Char) : List Char :=
  (dropSuffix? ['\r'] line).getD line

/-- The lines of a text. A line ends at a line feed, or at a carriage return with a line feed;
the last line needs no end and is left out when it is empty. -/
def lines (cs : List Char) : List (List Char) :=
  let pieces := split '\n' cs
  let ended := pieces.dropLast.map dropReturn
  match pieces.getLast? with
  | some (c :: rest) => ended ++ [c :: rest]
  | _ => ended

/-- All texts with the separator between neighbours. -/
def joinWith (sep : String) : List String → String
  | [] => ""
  | [s] => s
  | s :: t :: rest => s ++ sep ++ joinWith sep (t :: rest)

def concat (texts : List String) : String :=
  texts.foldr (· ++ ·) ""

end GoStub.Text
