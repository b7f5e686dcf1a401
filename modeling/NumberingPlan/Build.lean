import NumberingPlan.Partition
import NumberingPlan.Session
import NumberingPlan.Source.Accessor
import NumberingPlan.Source.Unit
import NumberingPlan.Wire.Reader
import NumberingPlan.Xml.Document

/-! Builds. A collection is loaded, every territory of it is stored in a file of its own, and the
lookup from calling codes to regions is written as source text. -/
namespace NumberingPlan.Build

open Session

/-- What a build is told. -/
structure Options where
  inputFile : Option Storage.Path := none
  outputDir : Storage.Path
  dataPrefix : String
  mappingClass : String
  copyrightYear : Int
  lite : Bool := false
  bundled : Bool := false
  deriving Repr

/-- What a build has made: the files of the territories, the file of the lookup, and its shape. -/
structure Outcome where
  territoryFiles : List Storage.Path
  mappingFile : Storage.Path
  shape : Shape
  deriving Repr

/-- How a truth value is logged. -/
def shownFlag (b : Bool) : String := if b then "True" else "False"

/-- The failure of reading markup from a path. -/
def markupFailure (path : String) : Xml.Fault → Failure
  | .badCharset fault => .badCharset fault
  | _ => .malformedMarkup path

/-- The territories of a document. -/
def loadFile (path : Storage.Path) (lite : Bool) : Session (List Territory) := do
  let bytes ← bytesAt path
  let root ← lift (markupFailure path.toString) (Xml.parse bytes)
  let territories ← lift .markup (Territory.ofDocument lite root)
  log ⟨.info, "phonemeta.core.xml_source",
    s!"Loaded {territories.length} territories from " ++ path.toString ++ " (lite_build=" ++
      shownFlag lite ++ ")", none, false⟩
  return territories

/-- The territories of a registry that a request names. -/
def loadRegistry (registry : Registry) (regions : Option (List String))
    (codes : Option (List Int)) (lite : Bool) : Session (List Territory) := do
  let territories ← lift .missingEntry (registry.load regions codes lite)
  log ⟨.info, "phonemeta.core.bundled",
    s!"Loaded {territories.length} records from bundled phonenumbers metadata", none, false⟩
  return territories

/-- Who logs what happens to parts. -/
def partLogger : String := "phonemeta.core.partition"

/-- Stores a part. A key that was seen before is warned of, and its file is replaced. -/
def writePart (start : Storage.Path) (seen : List String) (part : Part) :
    Session Storage.Path := do
  let path := partPath start part.key
  if seen.contains part.key then
    log ⟨.warning, partLogger, "Output key " ++ part.key ++
      " appears more than once; overwriting " ++ path.toString, none, false⟩
  store path part.payload
  log ⟨.debug, partLogger, s!"Wrote {part.payload.length} bytes to " ++ path.toString,
    some part.key, false⟩
  return path

/-- Stores the parts of territories one by one, each as soon as it is encoded. -/
def writeEach (encoder : Encoder Failure) (start : Storage.Path) (seen : List String) :
    List Territory → Session (List Storage.Path)
  | [] => return []
  | t :: rest => do
    let part ← lift id (Part.ofTerritory encoder t)
    let path ← writePart start seen part
    return path :: (← writeEach encoder start (part.key :: seen) rest)

/-- Stores every territory in a file of its own. -/
def writeParts (encoder : Encoder Failure) (start : Storage.Path) (territories : List Territory) :
    Session (List Storage.Path) := do
  makeDirectories start.parent
  let paths ← writeEach encoder start [] territories
  log ⟨.info, partLogger, s!"Wrote {paths.length} metadata files with prefix " ++ start.toString,
    none, false⟩
  return paths

/-- Reads back the territories that a file holds in the wire format. -/
def readTerritories (path : Storage.Path) : Session (List Territory) := do
  lift .wire (Wire.decode (← bytesAt path))

/-- Writes source text. -/
def writeSource (path : Storage.Path) (text : String) : Session Storage.Path := do
  store path (Utf8.encode text)
  log ⟨.info, "phonemeta.io.source_writer", "Wrote generated source " ++ path.toString, none, false⟩
  return path

def sourceText (shape : Shape) (header : Source.Header) : Except Source.Fault String :=
  match (do Source.emit shape; Source.compose header : Source.Drafting String).run {} with
  | .ok text _ => .ok text
  | .error fault _ => .error fault

/-- Writes the lookup of regions under their codes, and says where and in which shape. -/
def writeMapping (codes : RegionsByCode) (outputDir : Storage.Path) (mappingClass : String)
    (copyrightYear : Int) (settings : Settings) : Session (Storage.Path × Shape) := do
  let shape := Shape.select codes
  log ⟨.info, "phonemeta.core.shape",
    "Selected " ++ shape.name ++
      s!" shape with {shape.entryCount} entries (capacity {shape.capacity})",
    none, false⟩
  let text ← lift .source (sourceText shape
    ⟨mappingClass, settings.javaPackage, settings.generatorName, copyrightYear⟩)
  let path ← writeSource (outputDir.child (mappingClass ++ "." ++ settings.sourceExtension)) text
  log ⟨.info, "phonemeta.build", "Generated " ++ mappingClass ++ "." ++
    Source.accessorName shape ++ "()", none, false⟩
  return (path, shape)

/-- The encoder of the wire format. -/
def wire : Encoder Failure := fun t => (wireEncoder t).mapError .wire

/-- Makes everything from a loaded collection. -/
def fromTerritories (territories : List Territory) (options : Options) (settings : Settings) :
    Session Outcome := do
  makeDirectories options.outputDir
  let files ← writeParts wire (options.outputDir.child options.dataPrefix) territories
  let (mappingFile, shape) ← writeMapping (RegionsByCode.ofTerritories territories)
    options.outputDir options.mappingClass options.copyrightYear settings
  return ⟨files, mappingFile, shape⟩

/-- Loads what the options name: the registry, or the input file. -/
def loadInput (registry : Registry) (options : Options) : Session (List Territory) :=
  if options.bundled then loadRegistry registry none none options.lite
  else
    match options.inputFile with
    | none => throw .noInput
    | some path => loadFile path options.lite

def run (registry : Registry) (options : Options) (settings : Settings) : Session Outcome := do
  fromTerritories (← loadInput registry options) options settings

end NumberingPlan.Build
