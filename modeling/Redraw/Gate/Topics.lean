/-!
# Redraw topics

A topic is an aspect of a chart whose change asks for a redraw. A set of topics is kept as the bits
of one byte; the last bit belongs to no topic.
-/

namespace Redraw

/-- An aspect of a chart whose change asks for a redraw. -/
inductive RedrawTopic where
  | queryResult
  | annotations
  | width
  | height
  | forceRender
  | colorScheme
  | cacheBuster
deriving DecidableEq, Repr

namespace RedrawTopic

/-- All topics in their order. -/
def all : List RedrawTopic :=
  [queryResult, annotations, width, height, forceRender, colorScheme, cacheBuster]

/-- The bit that stands for a topic. -/
def bit : RedrawTopic → UInt8
  | queryResult => 1
  | annotations => 2
  | width => 4
  | height => 8
  | forceRender => 16
  | colorScheme => 32
  | cacheBuster => 64

end RedrawTopic

/-- A set of topics. -/
structure RedrawTopics where
  bits : UInt8
deriving DecidableEq, Repr

namespace RedrawTopics

/-- No topic. -/
def none : RedrawTopics := ⟨0⟩

/-- One topic. -/
def single (t : RedrawTopic) : RedrawTopics := ⟨t.bit⟩

/-- The topics of both sets. -/
def union (a b : RedrawTopics) : RedrawTopics := ⟨a.bits ||| b.bits⟩

/-- The set with one topic more. -/
def add (s : RedrawTopics) (t : RedrawTopic) : RedrawTopics := ⟨s.bits ||| t.bit⟩

/-- The set with one topic more if that has changed. -/
def addIf (s : RedrawTopics) (t : RedrawTopic) (changed : Bool) : RedrawTopics :=
  if changed then s.add t else s

/-- The topic belongs to the set. -/
def contains (s : RedrawTopics) (t : RedrawTopic) : Bool := s.bits &&& t.bit != 0

/-- The set has no bit. -/
def isNone (s : RedrawTopics) : Bool := s.bits = 0

/-- Something has changed, but not the query result. -/
def isCosmetic (s : RedrawTopics) : Bool := !s.isNone && !s.contains .queryResult

/-- The topics of the set in their order. -/
def toList (s : RedrawTopics) : List RedrawTopic := RedrawTopic.all.filter s.contains

end RedrawTopics

end Redraw
