/-
The text of a document before it is cut into tokens: which characters it
may hold, which of them are blanks, line breaks and indicators, and where
in the text a character stands.
-/
namespace PermScript.Yaml

/-- The next-line character, a line break like the line feed. -/
def nextLine : Char := '\x85'

/-- The line separator, a line break that folding keeps. -/
def lineSeparator : Char := '\u2028'

/-- The paragraph separator, a line break that folding keeps. -/
def paragraphSeparator : Char := '\u2029'

/-- The mark that may open a line and means nothing. -/
def byteOrderMark : Char := '\ufeff'

/-- Whether a document may hold the character at all. -/
def isAllowed (c : Char) : Bool :=
  let n := c.toNat
  n == 0x9 || n == 0xA || n == 0xD || (0x20 ≤ n && n ≤ 0x7E) || n == 0x85 ||
    (0xA0 ≤ n && n ≤ 0xD7FF) || (0xE000 ≤ n && n ≤ 0xFFFD) || 0x10000 ≤ n

/-- Line breaks reduced to three: the line feed stands for every common one. -/
def normalizeBreaks : List Char → List Char
  | [] => []
  | '\r' :: '\n' :: rest => '\n' :: normalizeBreaks rest
  | c :: rest => (if c == '\r' || c == nextLine then '\n' else c) :: normalizeBreaks rest

/-- A text ready for scanning; `none` if it holds a character that no
document may hold. -/
def readable? (text : String) : Option (List Char) :=
  if text.toList.all isAllowed then some (normalizeBreaks text.toList) else none

/-! ## Classes of characters -/

/-- A space or a tab. -/
def isBlank (c : Char) : Bool := c == ' ' || c == '\t'

/-- A line break, once breaks are normalized. -/
def isBreak (c : Char) : Bool := c == '\n' || c == lineSeparator || c == paragraphSeparator

/-- Whether a list begins with a blank, a line break or its end. -/
def startsBlank : List Char → Bool
  | [] => true
  | c :: _ => isBlank c || isBreak c

/-- The characters of anchors, tag handles and directive names. -/
def isWord (c : Char) : Bool := c.isAlphanum || c == '_' || c == '-'

/-- The characters that cut flow collections. -/
def isFlowIndicator (c : Char) : Bool := ",[]\x7b\x7d".toList.contains c

/-- The characters that no plain scalar starts with. -/
def isIndicator (c : Char) : Bool := "-?:,[]\x7b\x7d#&*!|>'\"%@\x60".toList.contains c

/-- The characters of a tag; in a verbatim tag or a directive, `wide`, also
those that cut flow collections. -/
def isTagChar (wide : Bool) (c : Char) : Bool :=
  isWord c || ";/?:@&=+$.%!~*'()".toList.contains c || (wide && ",[]".toList.contains c)

/-- The value of a hexadecimal digit. -/
def hexValue? (c : Char) : Option Nat :=
  if c.isDigit then some (c.toNat - '0'.toNat)
  else if 'a' ≤ c ∧ c ≤ 'f' then some (c.toNat - 'a'.toNat + 10)
  else if 'A' ≤ c ∧ c ≤ 'F' then some (c.toNat - 'A'.toNat + 10)
  else none

/-! ## Places -/

/-- Where a character stands, counted from zero. -/
structure Place where
  line : Nat
  column : Nat
  deriving DecidableEq, Repr, Inhabited

/-- The place after a character at this place. -/
def Place.after (p : Place) (c : Char) : Place :=
  if isBreak c then ⟨p.line + 1, 0⟩ else ⟨p.line, p.column + 1⟩

/-- The place `n` characters further on the line. -/
def Place.right (p : Place) (n : Nat) : Place := { p with column := p.column + n }

/-- Whether `---` or `...` stands here alone at the start of a line. -/
def atDocumentMark (p : Place) : List Char → Bool
  | '-' :: '-' :: '-' :: rest => p.column == 0 && startsBlank rest
  | '.' :: '.' :: '.' :: rest => p.column == 0 && startsBlank rest
  | _ => false

/-! ## Gaps between words -/

/-- What separates two words of a scalar: blanks on one line, or the first
line break and those after it. -/
inductive Gap
  | blanks (cs : List Char)
  | lines (first more : List Char)
  deriving DecidableEq, Repr

/-- No gap. -/
def Gap.none : Gap := .blanks []

/-- Whether there is a gap at all. -/
def Gap.isOpen : Gap → Bool
  | .blanks cs => !cs.isEmpty
  | .lines .. => true

/-- Whether the gap goes over the end of a line. -/
def Gap.crossesLine : Gap → Bool
  | .blanks _ => false
  | .lines .. => true

/-- A gap with one more blank; past a line break blanks do not count. -/
def Gap.addBlank (c : Char) : Gap → Gap
  | .blanks cs => .blanks (cs ++ [c])
  | g => g

/-- A gap with one more line break; blanks before the first are dropped. -/
def Gap.addBreak (c : Char) : Gap → Gap
  | .blanks _ => .lines [c] []
  | .lines first more => .lines first (more ++ [c])

/-- What a gap reads as: blanks as they are; a single line feed as a space;
more than one line break without the first, unless that one is kept. -/
def Gap.text : Gap → List Char
  | .blanks cs => cs
  | .lines ['\n'] [] => [' ']
  | .lines ['\n'] more => more
  | .lines first more => first ++ more

end PermScript.Yaml
