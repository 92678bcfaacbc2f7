/-!
Lines of toned text.
-/

namespace RecordDesk

inductive Tone where
  | normal
  | header
  | selected
  | marked
  | dim
  | error
  | notice
  | hint
  deriving DecidableEq

namespace Tone

def all : List Tone := [normal, header, selected, marked, dim, error, notice, hint]

def name : Tone → String
  | normal => "normal"
  | header => "header"
  | selected => "selected"
  | marked => "marked"
  | dim => "dim"
  | error => "error"
  | notice => "notice"
  | hint => "hint"

def ofName? (s : String) : Option Tone := all.find? (·.name == s)

end Tone

structure Span where
  text : String
  tone : Tone
  deriving DecidableEq

/-- Spans side by side, none of them empty when the line is built with `push`. -/
structure Line where
  spans : List Span
  deriving DecidableEq

namespace Line

def empty : Line := ⟨[]⟩

def push (l : Line) (text : String) (tone : Tone) : Line :=
  if text.isEmpty then l else ⟨l.spans ++ [⟨text, tone⟩]⟩

def toned (text : String) (tone : Tone) : Line := empty.push text tone

def plain (text : String) : Line := toned text .normal

def text (l : Line) : String := .join (l.spans.map Span.text)

/-- The spans of the first `width` characters. -/
def cutSpans : Nat → List Span → List Span
  | _, [] => []
  | 0, _ => []
  | width, s :: ss =>
    let cs := s.text.toList
    ⟨.ofList (cs.take width), s.tone⟩ :: cutSpans (width - cs.length) ss

def cut (l : Line) (width : Nat) : Line := ⟨cutSpans width l.spans⟩

end Line

end RecordDesk
