/-!
Styled text: lines of spans, each plain or in one style. On a terminal a span in a style is
written between the sequence that begins the style and the one that ends every style; elsewhere
styles are left out. Spans do not nest, so a style that is begun ends before another one begins.
-/

namespace Remedy.Report

inductive Style where
  | bold
  | dim
  | red
  | green
  | yellow
  | cyan
  deriving Repr, DecidableEq

namespace Style

def code : Style → String
  | bold => "1"
  | dim => "2"
  | red => "91"
  | green => "92"
  | yellow => "93"
  | cyan => "96"

def opening (style : Style) : String :=
  "\x1b[" ++ style.code ++ "m"

def closing : String := "\x1b[0m"

end Style

structure Span where
  style : Option Style
  text : String
  deriving Repr, DecidableEq

namespace Span

def plain (text : String) : Span := ⟨none, text⟩

def styled (style : Style) (text : String) : Span := ⟨some style, text⟩

def render (colored : Bool) (span : Span) : String :=
  match colored, span.style with
  | true, some style => style.opening ++ span.text ++ Style.closing
  | _, _ => span.text

end Span

abbrev StyledLine := List Span

def StyledLine.render (colored : Bool) (line : StyledLine) : String :=
  String.join (line.map (Span.render colored))

def renderLines (colored : Bool) (lines : List StyledLine) : String :=
  "\n".intercalate (lines.map (StyledLine.render colored))

end Remedy.Report
