import IndexExplorer.Text.Blank

/-!
Splitting text into lines and into words.
-/
namespace IndexExplorer.Text

/-- The lines of a file: they end with a line feed, a carriage return, or both. -/
def fileLines : List Char → List (List Char)
  | [] => []
  | '\r' :: '\n' :: cs => [] :: fileLines cs
  | c :: cs =>
    if c = '\n' || c = '\r' then [] :: fileLines cs
    else match fileLines cs with
      | line :: lines => (c :: line) :: lines
      | [] => [[c]]

/-- A character that ends a line in running text. -/
def endsLine (c : Char) : Bool :=
  let n := c.toNat
  (0x0a ≤ n && n ≤ 0x0d) || (0x1c ≤ n && n ≤ 0x1e) || n == 0x85 || n == 0x2028 || n == 0x2029

/-- The parts between line ends, of which some may be empty. -/
def textLines : List Char → List (List Char)
  | [] => [[]]
  | c :: cs =>
    if endsLine c then [] :: textLines cs
    else match textLines cs with
      | line :: lines => (c :: line) :: lines
      | [] => [[c]]

/-- Where a reader of words stands: between words, inside one, inside quotes, or behind an escape,
which remembers the quotes it is in. -/
inductive WordState where
  | between
  | inside
  | quotes (mark : Char)
  | escape (mark : Option Char)

/-- A blank between words. -/
def isWordGap (c : Char) : Bool := c = ' ' || c = '\t' || c = '\r' || c = '\n'

/-- What a text lacks at its end to be words: the closing quote, or the character behind an
escape. -/
inductive WordFault where
  | openQuote
  | openEscape
deriving DecidableEq, Repr

/-- The words from a state on. `word` holds the characters of the word begun, the last first.
Single quotes keep all they hold; double quotes know the backslash before themselves and another
backslash. -/
def wordsFrom : WordState → List Char → List Char → Except WordFault (List (List Char))
  | .between, _, [] => .ok []
  | .inside, word, [] => .ok [word.reverse]
  | .quotes _, _, [] => .error .openQuote
  | .escape _, _, [] => .error .openEscape
  | .between, _, c :: cs =>
    if isWordGap c then wordsFrom .between [] cs
    else if c = '\\' then wordsFrom (.escape none) [] cs
    else if c = '\'' || c = '"' then wordsFrom (.quotes c) [] cs
    else wordsFrom .inside [c] cs
  | .inside, word, c :: cs =>
    if isWordGap c then (wordsFrom .between [] cs).map (word.reverse :: ·)
    else if c = '\\' then wordsFrom (.escape none) word cs
    else if c = '\'' || c = '"' then wordsFrom (.quotes c) word cs
    else wordsFrom .inside (c :: word) cs
  | .quotes mark, word, c :: cs =>
    if c = mark then wordsFrom .inside word cs
    else if c = '\\' && mark = '"' then wordsFrom (.escape (some mark)) word cs
    else wordsFrom (.quotes mark) (c :: word) cs
  | .escape mark, word, c :: cs =>
    match mark with
    | some m =>
      if c = '\\' || c = m then wordsFrom (.quotes m) (c :: word) cs
      else wordsFrom (.quotes m) (c :: '\\' :: word) cs
    | none => wordsFrom .inside (c :: word) cs

/-- The words of a text as a shell reads them. -/
def words (s : String) : Except WordFault (List String) :=
  (wordsFrom .between [] s.toList).map (·.map String.ofList)

end IndexExplorer.Text
