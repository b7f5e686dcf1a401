import NumberingPlan.Storage.Path
import NumberingPlan.Wire.Writer

/-! The parts of a collection: every territory becomes a collection of its own, under its output
key. -/
namespace NumberingPlan

/-- One part of a collection. -/
structure Part where
  key : String
  payload : List UInt8
  deriving DecidableEq, Repr

/-- The bytes of a territory by itself. -/
abbrev Encoder (ε : Type) := Territory → Except ε (List UInt8)

/-- The encoder of the wire format: a collection of one territory. -/
def wireEncoder : Encoder Wire.Error := fun t => Wire.encode [t]

def Part.ofTerritory {ε : Type} (encoder : Encoder ε) (t : Territory) : Except ε Part :=
  (encoder t).map fun payload => ⟨t.outputKey, payload⟩

/-- The parts of a collection in order, up to the first territory that cannot be encoded. -/
def parts {ε : Type} (encoder : Encoder ε) : List Territory → List Part × Option ε
  | [] => ([], none)
  | t :: rest =>
    match Part.ofTerritory encoder t with
    | .error e => ([], some e)
    | .ok part =>
      let (more, fault) := parts encoder rest
      (part :: more, fault)

/-- Where a part is stored, given the path that all parts of a collection begin with. -/
def partPath (start : Storage.Path) (key : String) : Storage.Path :=
  Storage.Path.ofString (start.toString ++ "_" ++ key)

end NumberingPlan
