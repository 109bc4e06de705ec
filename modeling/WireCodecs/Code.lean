import WireCodecs.Text.Blank
import WireCodecs.Text.Lines

/-! Indented source text. A piece of code is a tree of lines, comments and blocks; writing it puts
every line on a page at the current depth. A `fail` in the tree ends the writing there: what stands
before it is on the page, nothing after it is, and the blocks around it stay open. -/

namespace WireCodecs

inductive Code (ε : Type) where
  | empty
  | seq (first second : Code ε)
  /-- A line, or several if the text has line feeds. -/
  | line (text : String)
  | blank
  /-- The lines of a text, each behind a lead. -/
  | comment (lead text : String)
  | indented (body : Code ε)
  /-- The header with an opening brace, the body one level deeper, and the closing line. -/
  | block (header close : String) (body : Code ε)
  | fail (error : ε)
  deriving Repr

/-- What is written so far and how deep the next line is. -/
structure Page where
  depth : Nat
  text : String
  deriving DecidableEq, Repr

namespace Page

def indentation (indent : String) : Nat → String
  | 0 => ""
  | depth + 1 => indent ++ indentation indent depth

/-- A line of its own; a line of white space alone becomes empty. -/
def addPiece (indent : String) (page : Page) (piece : String) : Page :=
  if Text.isBlankText piece then { page with text := page.text ++ "\n" }
  else { page with text := page.text ++ indentation indent page.depth ++ piece ++ "\n" }

def addLine (indent : String) (page : Page) (text : String) : Page :=
  (Text.splitOn '\n' text).foldl (addPiece indent) page

def addComment (indent lead : String) (page : Page) (text : String) : Page :=
  (Text.lines text).foldl
    (fun page line =>
      page.addLine indent (if Text.isBlankText line then Text.trimEnd lead else lead ++ line))
    page

end Page

namespace Code

variable {ε : Type}

instance : Append (Code ε) := ⟨seq⟩

def all : List (Code ε) → Code ε
  | [] => empty
  | code :: codes => code ++ all codes

/-- The page after writing, and the error that ended it. -/
def write (indent : String) : Code ε → Page → Page × Option ε
  | empty, page => (page, none)
  | seq first second, page =>
    match write indent first page with
    | (page, none) => write indent second page
    | failed => failed
  | line text, page => (page.addLine indent text, none)
  | blank, page => ({ page with text := page.text ++ "\n" }, none)
  | comment lead text, page => (page.addComment indent lead text, none)
  | indented body, page =>
    let (inner, error) := write indent body { page with depth := page.depth + 1 }
    ({ inner with depth := inner.depth - 1 }, error)
  | block header close body, page =>
    let opened := page.addLine indent (header ++ " \x7b")
    match write indent body { opened with depth := opened.depth + 1 } with
    | (inner, none) => (({ inner with depth := inner.depth - 1 } : Page).addLine indent close, none)
    | (inner, some error) => ({ inner with depth := inner.depth - 1 }, some error)
  | fail error, page => (page, some error)

/-- The text of code that cannot fail. -/
def render (indent : String) (code : Code Empty) : String :=
  (write indent code ⟨0, ""⟩).1.text

/-- A block that ends with a brace. -/
def braces (header : String) (body : List (Code ε)) : Code ε := block header "\x7d" (all body)

end Code

end WireCodecs
