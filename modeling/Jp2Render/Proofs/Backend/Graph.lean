import Jp2Render.Backend.Graph
import Jp2Render.Proofs.Backend.Changes

/-!
Dimensions in the backend that draws up a graph. They are stated in advance. That whatever the graph
renders will have them is an invariant of drawing it up: a node that is added makes of the stated
dimensions what it will make of an array that has them.
-/

namespace Jp2Render

/-! A node, too, has dimensions to give that depend on those before it alone. -/

def RenderNode.Takes : RenderNode → Dimensions → Dimensions → Prop
  | .scale target, _, after => after = target
  | .rotate degrees, before, after => Rotation.boundingBox before degrees = .ok after
  | .mirror, before, after => after = before
  | .gray, before, after => after = before
  | .bitonal, before, after => after = before

theorem RenderNode.takes_unique {node : RenderNode} {before first second : Dimensions}
    (taken : node.Takes before first) (taken' : node.Takes before second) : first = second := by
  cases node with
  | rotate degrees => exact Except.ok.inj (taken.symm.trans taken')
  | _ => exact taken.trans taken'.symm

namespace RenderArray

theorem dimensions_gray (array : RenderArray) : array.gray.dimensions = array.dimensions := by
  cases array with
  | bits grid => rfl
  | levels grid =>
      unfold gray dimensions RenderArray.grid
      simp only
      split <;> rfl

theorem dimensions_bitonal (array : RenderArray) : array.bitonal.dimensions = array.dimensions := by
  have light := dimensions_gray array
  unfold bitonal
  split
  · next same =>
    rw [same] at light
    exact light
  · next same =>
    rw [same] at light
    exact light

variable {libraries : Libraries}

theorem scale_takes {target : Dimensions} {before after : RenderArray}
    (scaled : before.scale libraries target = .ok after) : after.dimensions = target := by
  cases before with
  | levels grid =>
      obtain ⟨_, -, scaled⟩ := bind_eq_ok_iff.mp scaled
      split at scaled
      · cases scaled
      · next positive =>
        rw [← pure_eq_ok_iff.mp scaled]
        exact Dimensions.ofNat_toNat (not_not.mp positive)
  | bits grid =>
      rw [scale] at scaled
      split at scaled <;> cases scaled

theorem rotate_takes {degrees : Binary64} {before after : RenderArray}
    (rotated : before.rotate libraries degrees = .ok after) :
    Rotation.boundingBox before.dimensions degrees = .ok after.dimensions := by
  rw [rotate, bind_eq_ok_iff] at rotated
  obtain ⟨⟨canvas, map⟩, drawn, rotated⟩ := rotated
  have bounded := Rotation.boundingBox_of_canvasAndMap (mapError_eq_ok_iff.mp drawn)
  rw [bounded]
  cases before with
  | levels grid =>
      obtain ⟨_, -, rotated⟩ := bind_eq_ok_iff.mp rotated
      rw [← pure_eq_ok_iff.mp rotated]
      exact congrArg _ (Dimensions.ofNat_toNat (Rotation.isPositive_boundingBox bounded)).symm
  | bits grid => cases rotated

theorem run_takes {node : RenderNode} {before after : RenderArray}
    (run : before.run libraries node = .ok after) : node.Takes before.dimensions after.dimensions := by
  cases node with
  | scale target => exact scale_takes run
  | rotate degrees => exact rotate_takes run
  | mirror =>
      rw [← Except.ok.inj run]
      cases before <;> rfl
  | gray =>
      obtain ⟨_, -, run⟩ := bind_eq_ok_iff.mp run
      rw [← pure_eq_ok_iff.mp run]
      exact dimensions_gray before
  | bitonal =>
      obtain ⟨_, -, run⟩ := bind_eq_ok_iff.mp run
      rw [← pure_eq_ok_iff.mp run]
      exact dimensions_bitonal before

end RenderArray

namespace RenderGraph

variable (libraries : Libraries)

theorem result_runNodes_cons (array : RenderArray) (node : RenderNode) (nodes : List RenderNode) :
    (runNodes libraries array (node :: nodes)).result =
      (array.run libraries node >>= fun rendered => (runNodes libraries rendered nodes).result) := by
  rw [runNodes]
  cases array.run libraries node <;> rfl

theorem result_runNodes_append (array : RenderArray) (nodes : List RenderNode) (node : RenderNode) :
    (runNodes libraries array (nodes ++ [node])).result =
      ((runNodes libraries array nodes).result >>= fun rendered => rendered.run libraries node) := by
  induction nodes generalizing array with
  | nil =>
      rw [List.nil_append, result_runNodes_cons]
      show _ = array.run libraries node
      cases array.run libraries node <;> rfl
  | cons first nodes ih =>
      rw [List.cons_append, result_runNodes_cons, result_runNodes_cons]
      cases array.run libraries first with
      | error fault => rfl
      | ok rendered => exact ih rendered

def Foretells (graph : RenderGraph) (source : Dimensions) : Prop :=
  ∀ before after : RenderArray, before.dimensions = source →
    (runNodes libraries before graph.nodes).result = .ok after → after.dimensions = graph.dimensions

variable {libraries}

theorem Foretells.andThen {graph : RenderGraph} {source dimensions : Dimensions}
    (foretells : graph.Foretells libraries source) {node : RenderNode}
    (taken : node.Takes graph.dimensions dimensions) :
    (graph.andThen node dimensions).Foretells libraries source := by
  intro before after same run
  rw [RenderGraph.andThen, result_runNodes_append] at run
  obtain ⟨middle, rendered, step⟩ := bind_eq_ok_iff.mp run
  have last := RenderArray.run_takes step
  rw [foretells before middle same rendered] at last
  exact RenderNode.takes_unique last taken

inductive Extends (before : RenderGraph) : RenderGraph → Prop
  | same : Extends before before
  | andThen {graph : RenderGraph} {node : RenderNode} {dimensions : Dimensions}
      (further : Extends before graph) (taken : node.Takes graph.dimensions dimensions) :
    Extends before (graph.andThen node dimensions)

variable {before after : RenderGraph} {source : Dimensions}

theorem Extends.foretells (further : before.Extends after)
    (foretells : before.Foretells libraries source) : after.Foretells libraries source := by
  induction further with
  | same => exact foretells
  | andThen _ taken ih => exact ih.andThen taken

theorem Extends.trans {middle : RenderGraph} (first : before.Extends middle)
    (second : middle.Extends after) : before.Extends after := by
  induction second with
  | same => exact first
  | andThen _ taken ih => exact ih.andThen taken

theorem scale_takes {target : Dimensions} (scaled : scale target before = .ok after) :
    after.dimensions = target ∧ before.Extends after := by
  rw [← Except.ok.inj scaled]
  split
  · exact ⟨‹_›, .same⟩
  · exact ⟨rfl, .andThen .same rfl⟩

theorem turn_takes {degrees : Binary64} (turned : turn degrees before = .ok after) :
    Rotation.Turns degrees before.dimensions after.dimensions ∧ before.Extends after := by
  unfold Rotation.Turns
  unfold turn at turned
  split at turned
  · rw [if_pos ‹_›, Except.ok.inj turned]
    exact ⟨rfl, .same⟩
  · obtain ⟨box, bounded, rfl⟩ := map_eq_ok_iff.mp turned
    have taken := mapError_eq_ok_iff.mp bounded
    rw [if_neg ‹_›]
    exact ⟨taken, .andThen .same taken⟩

theorem rotate_takes {rotation : Rotation} (rotated : rotate rotation before = .ok after) :
    Rotation.Turns rotation.normalized before.dimensions after.dimensions ∧
      before.Extends after := by
  unfold rotate at rotated
  have turned := mapError_eq_ok_iff.mp rotated
  split at turned
  · have mirrored : before.Extends (before.andThen .mirror before.dimensions) := .andThen .same rfl
    obtain ⟨taken, further⟩ := turn_takes turned
    exact ⟨taken, mirrored.trans further⟩
  · exact turn_takes turned

theorem filter_takes {quality : Quality} (filtered : filter quality before = .ok after) :
    after.dimensions = before.dimensions ∧ before.Extends after := by
  rw [← Except.ok.inj filtered]
  cases quality with
  | gray => exact ⟨rfl, .andThen .same rfl⟩
  | bitonal => exact ⟨rfl, .andThen .same rfl⟩
  | _ => exact ⟨rfl, .same⟩

theorem adjust_takes {adjustment : Adjustment}
    (adjusted : (graphBackend libraries).adjust adjustment before = .ok after) :
    adjustment.Takes before.dimensions after.dimensions ∧ before.Extends after := by
  cases adjustment with
  | scale target => exact scale_takes adjusted
  | rotate rotation => exact rotate_takes adjusted
  | filter quality => exact filter_takes adjusted

end RenderGraph

end Jp2Render
