import Jp2Render.Backend.Basic
import Jp2Render.Picture.Linear

/-!
The backend that draws up a rendering graph. A handle is a chain of nodes to be rendered later, with
the dimensions that rendering will give. Rendering takes the picture into levels, runs the nodes in
their order, and brings the levels back into eight bits.
-/

namespace Jp2Render

inductive RenderNode where
  | scale (target : Dimensions)
  | mirror
  | rotate (degrees : Binary64)
  | gray
  | bitonal
deriving DecidableEq, Repr

namespace RenderNode

def name : RenderNode → String
  | .scale _ => "scale"
  | .mirror => "mirror"
  | .rotate _ => "rotate"
  | .gray => "gray"
  | .bitonal => "bitonal"

def parameters : RenderNode → String
  | .scale target =>
    "'width': " ++ toString target.width ++ ", 'height': " ++ toString target.height
  | .rotate degrees => "'degrees': " ++ degrees.text
  | _ => ""

def record (node : RenderNode) : Record :=
  ⟨.debug, .graph, "Rendering " ++ node.name ++ " \x7b" ++ node.parameters ++ "\x7d"⟩

end RenderNode

/-- What nodes work on: levels in one band or three, or bits. -/
inductive RenderArray where
  | levels (grid : Grid)
  | bits (grid : Grid)
deriving Repr

namespace RenderArray

def grid : RenderArray → Grid
  | .levels grid => grid
  | .bits grid => grid

def dimensions (array : RenderArray) : Dimensions := array.grid.dimensions

def ofPicture (picture : Picture) : RenderArray := .levels (picture.grid.mapSamples Level.ofByte)

def toPicture : RenderArray → Picture
  | .levels grid =>
    { mode := if grid.bands = 1 then .gray else .rgb, grid := grid.mapSamples Level.toByte }
  | .bits grid => { mode := .bilevel, grid := grid.mapSamples (· * 255) }

def shrinks (grid : Grid) (target : Dimensions) : Bool :=
  target.width < grid.width || target.height < grid.height

def scale (libraries : Libraries) (target : Dimensions) :
    RenderArray → Except PictureFault RenderArray
  | .levels grid => do
    libraries.arrays.ask (.scale target) grid
    if ¬ target.IsPositive then throw .noArea
    return .levels (Linear.resize grid target.width.toNat target.height.toNat)
  | .bits grid =>
    if shrinks grid target then .error .bilevelSmoothing else .error .bilevelInterpolation

def mirror : RenderArray → RenderArray
  | .levels grid => .levels grid.mirrored
  | .bits grid => .bits grid.mirrored

def rotate (libraries : Libraries) (degrees : Binary64) (array : RenderArray) :
    Except PictureFault RenderArray := do
  let (canvas, map) ←
    (Rotation.canvasAndMap array.dimensions degrees .centre).mapError .arithmetic
  match array with
  | .levels grid =>
    libraries.arrays.ask (.turn canvas) grid
    return .levels (Linear.transform grid canvas.width.toNat canvas.height.toNat map)
  | .bits _ => throw .bilevelInterpolation

/-- Colours become their light; what has one band already stays. -/
def gray : RenderArray → RenderArray
  | .levels grid =>
    .levels (if grid.bands = 1 then grid
      else grid.merge fun bands => Level.luma (bands 0) (bands 1) (bands 2))
  | .bits grid => .bits grid

def bitonal (array : RenderArray) : RenderArray :=
  match array.gray with
  | .levels grid => .bits (grid.mapSamples fun level => if Level.isBright level then 1 else 0)
  | .bits grid => .bits grid

/-- What a node makes of an array. Mirroring only looks at it the other way round, so that is never
refused. -/
def run (libraries : Libraries) : RenderNode → RenderArray → Except PictureFault RenderArray
  | .scale target, array => array.scale libraries target
  | .mirror, array => .ok array.mirror
  | .rotate degrees, array => array.rotate libraries degrees
  | .gray, array => do
    libraries.arrays.ask .gray array.grid
    return array.gray
  | .bitonal, array => do
    libraries.arrays.ask .bitonal array.grid
    return array.bitonal

end RenderArray

structure RenderGraph where
  dimensions : Dimensions
  nodes : List RenderNode := []
deriving DecidableEq, Repr

namespace RenderGraph

def andThen (graph : RenderGraph) (node : RenderNode) (dimensions : Dimensions) : RenderGraph :=
  { dimensions, nodes := graph.nodes ++ [node] }

def operations (graph : RenderGraph) : List String := graph.nodes.map RenderNode.name

structure Rendering where
  result : Except PictureFault RenderArray
  journal : Journal

def runNodes (libraries : Libraries) (array : RenderArray) : List RenderNode → Rendering
  | [] => ⟨.ok array, []⟩
  | node :: nodes =>
    match array.run libraries node with
    | .error fault => ⟨.error fault, [node.record]⟩
    | .ok array =>
      let rest := runNodes libraries array nodes
      { rest with journal := node.record :: rest.journal }

def load (libraries : Libraries) (source : HeldPicture) : Except PictureFault RenderArray := do
  let picture ← source.content
  libraries.arrays.ask .load picture.grid
  return .ofPicture picture

def render (graph : RenderGraph) (source : HeldPicture) (libraries : Libraries := .willing) :
    Rendering :=
  match load libraries source with
  | .error fault => ⟨.error fault, []⟩
  | .ok array => runNodes libraries array graph.nodes

def scale (target : Dimensions) (graph : RenderGraph) :
    Except (StepFault RenderGraph) RenderGraph :=
  .ok (if graph.dimensions = target then graph else graph.andThen (.scale target) target)

def turn (degrees : Binary64) (graph : RenderGraph) : Except PictureFault RenderGraph :=
  if degrees.isZero then .ok graph
  else
    ((Rotation.boundingBox graph.dimensions degrees).mapError .arithmetic).map
      (graph.andThen (.rotate degrees))

def rotate (rotation : Rotation) (graph : RenderGraph) :
    Except (StepFault RenderGraph) RenderGraph :=
  let mirrored := if rotation.mirror then graph.andThen .mirror graph.dimensions else graph
  (turn rotation.normalized mirrored).mapError (⟨·, graph⟩)

def filter (quality : Quality) (graph : RenderGraph) :
    Except (StepFault RenderGraph) RenderGraph :=
  .ok (match quality with
    | .gray => graph.andThen .gray graph.dimensions
    | .bitonal => graph.andThen .bitonal graph.dimensions
    | .color | .default => graph)

def operationsText (graph : RenderGraph) : String :=
  if graph.nodes.isEmpty then "(identity)" else String.intercalate " -> " graph.operations

def encodeArray (libraries : Libraries) (array : RenderArray) (format : OutputFormat)
    (quality : Int) : EncodingReport :=
  match libraries.arrays.ask .show array.grid with
  | .error fault => { result := .error fault, journal := [] }
  | .ok _ => Backend.encodePicture libraries array.toPicture format quality

def encode (libraries : Libraries) (source : HeldPicture) (format : OutputFormat) (quality : Int)
    (graph : RenderGraph) : EncodingReport :=
  let rendering := graph.render source libraries
  let journal := ⟨.debug, .graph, "Evaluating render graph: " ++ graph.operationsText⟩ ::
    rendering.journal
  match rendering.result with
  | .error fault => { result := .error fault, journal }
  | .ok array =>
    let report := encodeArray libraries array format quality
    { report with journal := journal ++ report.journal }

end RenderGraph

def graphBackend (libraries : Libraries := .willing) : Backend RenderGraph where
  name := "graph"
  start := fun source => .ok { dimensions := source.dimensions }
  scale := RenderGraph.scale
  rotate := RenderGraph.rotate
  filter := RenderGraph.filter
  encode := RenderGraph.encode libraries
  release := id
  dimensions := RenderGraph.dimensions

end Jp2Render
