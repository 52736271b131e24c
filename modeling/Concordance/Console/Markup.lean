import Concordance.Console.Action
import Concordance.Console.Emoji
import Concordance.Console.Style
import Concordance.Text.Blank
import Concordance.Text.Pieces

/-! Markup of console text. A tag in brackets opens a style and a tag with a slash closes one; a
backslash before the bracket makes a tag plain text. Only the text is kept here. -/

namespace Concordance.Console.Markup

def isTagStart (c : Char) : Bool := ('a' ≤ c && c ≤ 'z') || c == '#' || c == '/' || c == '@'

def tag? : List Char → Option (List Char × List Char)
  | c :: r =>
    if isTagStart c then
      match r.span fun d => d != ']' && d != '[' with
      | (body, ']' :: rest) => some (c :: body, rest)
      | _ => none
    else none
  | [] => none

inductive Piece
  | text (cs : List Char)
  | tag (cs : List Char)
  deriving DecidableEq, Repr

/-- A text and the tags in it, after what has been read of it, backwards. Of the backslashes before
a tag every two are one backslash. -/
def pieces : Nat → List Char → List Char → List Piece
  | 0, before, cs => [.text (before.reverse ++ cs)]
  | n + 1, before, cs =>
    let (slashes, r) := cs.span (· == '\\')
    match r with
    | [] => [.text (before.reverse ++ slashes)]
    | c :: r =>
      match if c = '[' then tag? r else none with
      | none => pieces n (c :: (slashes ++ before)) r
      | some (t, rest) =>
        let kept := List.replicate (slashes.length / 2) '\\'
        let found := if slashes.length % 2 = 0 then Piece.tag t else .text ('[' :: t ++ [']'])
        .text before.reverse :: .text kept :: found :: pieces n [] rest

/-- A backslash before a bracket that opens no tag is dropped. -/
def unescape : List Char → List Char
  | '\\' :: '[' :: r => '[' :: unescape r
  | c :: r => c :: unescape r
  | [] => []

def isShown (c : Char) : Bool :=
  let n := c.toNat
  !(n == 7 || n == 8 || n == 0xB || n == 0xC || n == 0xD)

structure Open where
  style : List Char
  argument : Option (List Char)
  deriving DecidableEq, Repr

def close? (style : List Char) : List Open → Option (Open × List Open)
  | [] => none
  | t :: ts =>
    if t.style = style then some (t, ts)
    else (close? style ts).map fun (found, ts) => (found, t :: ts)

/-- Closing a tag with an action takes an action that can be read. -/
def Open.canClose (t : Open) : Bool :=
  t.style.head? != some '@' || (t.argument.getD []).isEmpty || t.argument.all Action.isReadable

/-- The open tags after one more tag. A tag that closes none of them is an error. -/
def after? (tags : List Open) (tag : List Char) : Option (List Open) := do
  let (name, argument) := Text.cut '=' tag
  match name with
  | '/' :: name =>
    let (closed, tags) ←
      match Text.trim name, tags with
      | [], [] => none
      | [], t :: ts => some (t, ts)
      | name, tags => (Style.canonical? name).bind (close? · tags)
    if closed.canClose then some tags else none
  | name => some (⟨← Style.canonical? name, argument⟩ :: tags)

def textOf? : List Open → List Piece → Option (List Char)
  | _, [] => some []
  | tags, .text cs :: ps =>
    (textOf? tags ps).map ((Emoji.replace (unescape cs)).filter isShown ++ ·)
  | tags, .tag t :: ps => (after? tags t).bind (textOf? · ps)

def shown? (markup : String) : Option String :=
  let cs := markup.toList
  (textOf? [] (pieces (cs.length + 1) [] cs)).map String.ofList

def escapeTags : Nat → List Char → List Char
  | 0, cs => cs
  | n + 1, cs =>
    let (slashes, r) := cs.span (· == '\\')
    match r with
    | [] => slashes
    | c :: r =>
      match if c = '[' then tag? r else none with
      | none => slashes ++ c :: escapeTags n r
      | some (t, rest) =>
        slashes ++ slashes ++ '\\' :: '[' :: t ++ ']' :: escapeTags n rest

/-- A text as markup that shows it. A single backslash at the end is doubled. -/
def escape (text : String) : String :=
  let cs := text.toList
  let escaped := escapeTags (cs.length + 1) cs
  let single := (escaped.reverse.takeWhile (· == '\\')).length == 1
  String.ofList (escaped ++ if single then ['\\'] else [])

end Concordance.Console.Markup
