import Kmip.Shape.Write

/-!
# Calls of a writer

The steps that a writer offers, and how they are called one after the other. A call that fails does
not keep the next one from being made, on the sink that it has left.
-/

namespace Kmip.Write

/-- A call of one of the steps that a writer offers. -/
inductive Call where
  /-- A value of a scalar type under a tag. -/
  | typed (type : ScalarType) (tag : Tag) (value : type.Content)
  /-- An item under its own tag. -/
  | item (held : Item)
  /-- A value of any kind under a tag. -/
  | valueAs (tag : Tag) (value : Value)
  /-- A structure under a tag, around what these calls write, up to the first that fails. -/
  | structured (tag : Tag) (content : List Call)
  /-- A field under a tag, which may be absent. -/
  | field (tag : Tag) (presence : Presence) (shape : Shape) (value : presence.Val shape.Val)
  /-- Fields of one kind under one tag. -/
  | repeated (tag : Tag) (presence : Presence) (shape : Shape)
      (values : List (presence.Val shape.Val))
  /-- The fields of a record, without a structure around them. -/
  | embedded (record : Record) (value : record.Val)

namespace Call

mutual

/-- The step that is called. -/
def step : Call → Write
  | typed type tag value => scalar type tag value
  | item held => held.write
  | valueAs tag value => value.write tag
  | structured tag content => Write.structured tag (steps content)
  | field tag presence shape value => presence.write (shape.write tag) value
  | repeated tag presence shape values => list (presence.write (shape.write tag)) values
  | embedded record value => record.fields.write record.name value

/-- Makes calls one after the other, up to the first that fails. -/
def steps : List Call → Write
  | [] => pure ()
  | first :: rest => do
    first.step
    steps rest

end

end Call

/-- How a step ends, and the sink that it leaves. -/
def run (step : Write) (sink : Sink) : Except Fault Unit × Sink :=
  match step sink with
  | .ok _ next => (.ok (), next)
  | .error fault next => (.error fault, next)

/-- Makes steps one after the other, whether or not those before have failed: how each of them ends,
and the sink that they leave. -/
def runEach : List Write → Sink → List (Except Fault Unit) × Sink
  | [], sink => ([], sink)
  | step :: rest, sink =>
    let (result, next) := step.run sink
    let (results, last) := runEach rest next
    (result :: results, last)

end Kmip.Write
