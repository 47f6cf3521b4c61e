/-!
Identifiers and values of the DOT language. A text that is an identifier or a number stands for
itself, a text between angle brackets is markup, and any other text is put between double quotes.
Between the quotes a backslash only has a meaning in front of a quote.
-/

namespace QueryFlow.Dot

def quoteMark : Char := '\x22'

def isWordStart (c : Char) : Bool := c.isAlpha || c == '_'

/-- A letter, digit or underscore of ASCII. -/
def isWordChar (c : Char) : Bool := isWordStart c || c.isDigit

def isWord : List Char → Bool
  | [] => false
  | c :: r => isWordStart c && r.all isWordChar

/-- A number without a sign. -/
def isUnsigned (cs : List Char) : Bool :=
  let whole := cs.takeWhile Char.isDigit
  match cs.drop whole.length with
  | [] => !whole.isEmpty
  | '.' :: part => part.all Char.isDigit && !(whole.isEmpty && part.isEmpty)
  | _ => false

def isNumeral : List Char → Bool
  | '-' :: r => isUnsigned r
  | cs => isUnsigned cs

/-- A text without a single line feed at its end. -/
def dropFinalLine (cs : List Char) : List Char :=
  if cs.getLast? == some '\n' then cs.dropLast else cs

/-- The text is an identifier or a number; a line feed at its end is let through. -/
def isPlain (cs : List Char) : Bool :=
  let cs := dropFinalLine cs
  isWord cs || isNumeral cs

/-- The text stands between angle brackets; a line feed at its end is let through. -/
def isMarkup (cs : List Char) : Bool :=
  cs.head? == some '<' && (dropFinalLine cs).getLast? == some '>'

/-- The words of the language, in small letters. -/
def keywords : List String := ["node", "edge", "graph", "digraph", "subgraph", "strict"]

/-- The text is a word of the language in any letter case. -/
def isKeyword (cs : List Char) : Bool := keywords.contains (String.ofList (cs.map Char.toLower))

/-- A text with a backslash in front of every quote that has none of its own. `escaped` tells
whether an odd number of backslashes stands just before. -/
def escapeQuotes (escaped : Bool) : List Char → List Char
  | [] => []
  | c :: r =>
    if c == quoteMark then
      if escaped then c :: escapeQuotes false r else '\\' :: c :: escapeQuotes false r
    else c :: escapeQuotes (c == '\\' && !escaped) r

/-- The characters of a text as an identifier or a value. -/
def quoteChars (cs : List Char) : List Char :=
  if isMarkup cs then cs
  else if isPlain cs && !isKeyword cs then cs
  else quoteMark :: escapeQuotes false cs ++ [quoteMark]

def quote (s : String) : String := String.ofList (quoteChars s.toList)

/-- A text up to its first colon, and what stands behind that colon. -/
def splitColon (cs : List Char) : List Char × List Char :=
  (cs.takeWhile (· != ':'), (cs.dropWhile (· != ':')).drop 1)

/-- A text as the end of an edge: a node, its port, and a point of the compass, parted by colons.
The point of the compass is never quoted. -/
def quoteEndChars (cs : List Char) : List Char :=
  let (node, rest) := splitColon cs
  if rest.isEmpty then quoteChars node
  else
    let (port, compass) := splitColon rest
    let both := quoteChars node ++ ':' :: quoteChars port
    if compass.isEmpty then both else both ++ ':' :: compass

def quoteEnd (s : String) : String := String.ofList (quoteEndChars s.toList)

end QueryFlow.Dot
