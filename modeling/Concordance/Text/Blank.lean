/-! Blank characters of running text, trimming, and the words between blanks. -/

namespace Concordance.Text

/-- Tabs, line ends, information separators and every space of Unicode are blank. -/
def isBlank (c : Char) : Bool :=
  let n := c.toNat
  (0x9 ≤ n && n ≤ 0xD) || (0x1C ≤ n && n ≤ 0x20) || n == 0x85 || n == 0xA0 || n == 0x1680 ||
    (0x2000 ≤ n && n ≤ 0x200A) || n == 0x2028 || n == 0x2029 || n == 0x202F || n == 0x205F ||
    n == 0x3000

def isSpacing (c : Char) : Bool :=
  c == ' ' || c == '\t' || c == '\r' || c == '\n' || c == '\x0c'

def skip (cs : List Char) : List Char := cs.dropWhile isSpacing

def trimEnd (p : Char → Bool) (cs : List Char) : List Char := (cs.reverse.dropWhile p).reverse

def trimBy (p : Char → Bool) (cs : List Char) : List Char := trimEnd p (cs.dropWhile p)

def trim : List Char → List Char := trimBy isBlank

def trimmed (s : String) : String := String.ofList (trim s.toList)

def words : List Char → List (List Char)
  | [] => []
  | c :: cs =>
    if isBlank c then words cs
    else match cs with
      | [] => [[c]]
      | d :: _ => if isBlank d then [c] :: words cs else (words cs).modifyHead (c :: ·)

def nonEmpty? (s : Option String) : Option String := s.filter (!·.isEmpty)

theorem words_blank (c : Char) (cs : List Char) (h : isBlank c) : words (c :: cs) = words cs := by
  simp [words, h]

end Concordance.Text
