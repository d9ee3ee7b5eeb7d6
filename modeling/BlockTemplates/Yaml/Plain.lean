import BlockTemplates.Yaml.Folding

/-! Texts without quotes. Such a text ends at a colon before a blank, at a comment, at a line that
is not indented enough, and between brackets at a comma or a bracket. -/

namespace BlockTemplates.Yaml

def isFlowMark (c : Char) : Bool := c = ',' || c = '[' || c = ']' || c = '{' || c = '}'

def isIndicator (c : Char) : Bool :=
  c = '-' || c = '?' || c = ':' || isFlowMark c || c = '#' || c = '&' || c = '*' || c = '!' || c = '|'
    || c = '>' || c = '\'' || c = '"' || c = '%' || c = '@' || c = '\x60'

def startsPlain (inFlow : Bool) : List Glyph → Bool
  | [] => false
  | g :: rest =>
    !(isGap g.char || isBreak g.char || isIndicator g.char)
      || (g.char = '-' && !starts isGap rest)
      || (!inFlow && (g.char = '?' || g.char = ':') && !endsWord rest)

/-- A text without quotes as it is read: the text, the gap after it, and what follows that gap. -/
structure Plain where
  text : List Char
  gap : Gap
  rest : List Glyph
  deriving Repr, DecidableEq, Inhabited

/-- The text without quotes that goes on after a gap. `indent` is the least column at which its
further lines may start, where it is not in brackets. -/
def plain? (inFlow : Bool) (indent : Int) (gap : Gap) : List Glyph → Option Plain
  | [] => some ⟨[], gap, []⟩
  | g :: rest =>
    let c := g.char
    if isGap c || isBreak c then
      if c = '\t' && gap.hasLines && (g.column : Int) < indent then none
      else plain? inFlow indent (gap.add c) rest
    else if (!inFlow && gap.hasLines && (g.column : Int) < indent) || isDocumentMarker (g :: rest)
        || (c = '#' && !gap.isEmpty) then
      some ⟨[], gap, g :: rest⟩
    else if inFlow && c = ':' && starts (fun d => isFlowMark d || d = '?') rest then none
    else if (c = ':' && endsWord rest) || (inFlow && isFlowMark c) then some ⟨[], gap, g :: rest⟩
    else (plain? inFlow indent .empty rest).map (fun read => { read with text := gap.text ++ c :: read.text })

end BlockTemplates.Yaml
