import Redraw.Gate.Decision
import Redraw.Wire.Variants

/-!
# Gate decisions as JSON

A set of topics is written as its byte. A decision is an object whose `decision` says which it is; the
topics of a change stand beside it. The topics may come first, and then they are held until the
decision is known; what is held has to be readable throughout. An array gives the decision's name
and its topics by position.
-/

namespace Redraw

/-- The name of a topic. -/
def RedrawTopic.name : RedrawTopic → String
  | queryResult => "query_result"
  | annotations => "annotations"
  | width => "width"
  | height => "height"
  | forceRender => "force_render"
  | colorScheme => "color_scheme"
  | cacheBuster => "cache_buster"

/-- The topics by name. -/
def RedrawTopic.variants : List (Variant RedrawTopic) :=
  RedrawTopic.all.map fun t => .unit t.name t

instance : Wire RedrawTopic where
  encode t := .str t.name
  decode := Variant.decode RedrawTopic.variants

/-- The fields of a set of topics. -/
def RedrawTopics.fields : Fields RedrawTopics :=
  RedrawTopics.mk <$> .required "bits" Decoder.uint8

instance : Wire RedrawTopics where
  encode s := .obj [("bits", Json.ofUInt8 s.bits)]
  decode := RedrawTopics.fields.record "RedrawTopics"

namespace RedrawDecision

/-- Which decision it is, without the topics of a change. -/
inductive Tag where
  | typeOverride
  | notReady
  | changed
  | unchanged

/-- The decisions by name. -/
def Tag.variants : List (Variant Tag) :=
  [.unit "type_override" .typeOverride, .unit "not_ready" .notReady, .unit "changed" .changed,
   .unit "unchanged" .unchanged]

/-- A decision that has no topics tolerates null in their place. -/
def bareContent (decision : RedrawDecision) (wanted : String) : Decoder RedrawDecision
  | .null => .ok decision
  | j => Decoder.mismatch ("unit variant RedrawDecision::" ++ wanted) j

/-- The decision of a tag with its content. -/
def withContent (held : Bool) : Tag → Decoder RedrawDecision
  | .typeOverride => bareContent .typeOverride "TypeOverride"
  | .notReady => bareContent .notReady "NotReady"
  | .unchanged => bareContent .unchanged "Unchanged"
  | .changed => fun j => (RedrawTopics.fields.decode "struct RedrawTopics" held j).map .changed

/-- The decision of a tag without content. -/
def withoutContent : Tag → Except DecodeError RedrawDecision
  | .typeOverride => .ok .typeOverride
  | .notReady => .ok .notReady
  | .unchanged => .ok .unchanged
  | .changed => .error (.missingField "topics")

/-- What a decision is called in messages. -/
def wanted : String := "adjacently tagged enum RedrawDecision"

/-- A decision that is already complete is not contradicted by further members. -/
def unlessRepeated (decision : RedrawDecision) :
    List (String × Json) → Except DecodeError RedrawDecision
  | [] => .ok decision
  | (name, _) :: _ => .error (.duplicateField name)

/-- A decision from the members that matter to it, in their order. -/
def ofMembers : List (String × Json) → Except DecodeError RedrawDecision
  | [] => .error (.missingField "decision")
  | ("decision", tag) :: rest => do
    let tag ← Variant.decode Tag.variants tag
    match rest with
    | [] => withoutContent tag
    | ("decision", _) :: _ => .error (.duplicateField "decision")
    | (_, content) :: rest => do unlessRepeated (← withContent false tag content) rest
  | (_, content) :: rest =>
    match rest with
    | [] => .error (.missingField "decision")
    | ("decision", tag) :: rest => do
      if !content.readable then .error .unexpected
      let tag ← Variant.decode Tag.variants tag
      unlessRepeated (← withContent true tag content) rest
    | _ => .error (.duplicateField "topics")

/-- A decision from the items of an array: the name of the tag and its content. -/
def ofItems : List Json → Except DecodeError RedrawDecision
  | [] => .error (.invalidLength 0 wanted)
  | tag :: rest => do
    let tag ← Variant.decodeName Tag.variants tag
    match rest with
    | [] => .error (.invalidLength 1 wanted)
    | content :: rest => do
      let decision ← withContent false tag content
      if rest.isEmpty then .ok decision else .error .unexpected

/-- A decision from an object or an array. -/
def decode : Decoder RedrawDecision
  | .obj members => ofMembers (members.filter fun (name, _) => name = "decision" || name = "topics")
  | .arr items => ofItems items
  | j => Decoder.mismatch wanted j

end RedrawDecision

instance : Wire RedrawDecision where
  encode
    | .typeOverride => .obj [("decision", .str "type_override")]
    | .notReady => .obj [("decision", .str "not_ready")]
    | .unchanged => .obj [("decision", .str "unchanged")]
    | .changed topics => .obj [("decision", .str "changed"), ("topics", Wire.encode topics)]
  decode := RedrawDecision.decode

end Redraw
