import Ligature.Dispatch.Matcher

/-!
# Printed tables and spans
-/
namespace Ligature.Dispatch

def formatTable (t : Rules.Table) : String :=
  let mode := t.mode
  let count := t.size
  s!"mode '{mode}': {count} leading characters\n" ++
    String.ofList (t.toList.flatMap fun (c, p) => c :: '\t' :: p.render ++ ['\n'])

def Span.line (s : Span) : List Char :=
  Nat.toDigits 10 s.start ++ '+' :: Nat.toDigits 10 s.length ++ '\t' :: s.text ++ ['\n']

def formatSpans (spans : List Span) : List Char := spans.flatMap Span.line

end Ligature.Dispatch
