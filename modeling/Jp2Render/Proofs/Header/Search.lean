import Jp2Render.Proofs.Escapes.Header
import Jp2Render.Proofs.Xml.Search

/-!
Where a header states a side. The code streams are gone through in the order of the document, and each
of them is searched for the side; what is found is the first element of that name which has a code
stream among its ancestors. Nothing else in a header counts: not what is outside of the code streams,
and inside them no more than the text of the two elements found.
-/

namespace Jp2Render.Header

open Xml (Element Position)

/-- The element that states a side, by searching one code stream after the other. -/
def stating? (side : String) (root : Element) : Option Element :=
  (codestreams root).findSome? (·.first? side)

theorem stating?_eq (side : String) (root : Element) :
    stating? side root = Element.firstWithin "codestream" side false root :=
  Element.searchAll_eq_firstWithin root

theorem finds_stating? (side : String) (root : Element) :
    Element.Finds (root.Counts "codestream" side) root.at? (stating? side root) := by
  rw [stating?_eq]
  exact Element.finds_firstWithin root

theorem stating?_eq_some_iff {side : String} {root element : Element} :
    stating? side root = some element ↔
      ∃ position, Position.IsFirst (root.Counts "codestream" side) position ∧
        root.at? position = some element := (finds_stating? side root).eq_some_iff

theorem stating?_eq_none_iff {side : String} {root : Element} :
    stating? side root = none ↔ ∀ position, ¬ root.Counts "codestream" side position :=
  (finds_stating? side root).eq_none_iff

theorem stating?_outermost (side : String) (root : Element) : stating? side root =
    (Element.outermost "codestream" root).findSome? (·.first? side) := by
  rw [stating?_eq, Element.firstWithin_outermost]

def readSide (side text : String) : Except HeaderTextFault Binary64 :=
  (Text.readReal (Text.trim text)).mapError fun _ => .notANumber side (Text.trim text)

/-- The number of a side that is stated by a text, if there is one. -/
def readStated (side : String) : Option String → Except HeaderTextFault (Option Binary64)
  | none => .ok none
  | some text => (readSide side text).map some

theorem firstNumber_eq (side : String) (elements : List Element) : firstNumber side elements =
    readStated side ((elements.findSome? (·.first? side)).map (·.text)) := by
  induction elements with
  | nil => rfl
  | cons element elements ih =>
      rw [firstNumber, List.findSome?_cons]
      cases found : element.first? side with
      | none => exact ih
      | some stating =>
          simp only [Option.map_some, readStated, readSide]
          cases Text.readReal (Text.trim stating.text) <;> rfl

def statedText (side : String) (root : Element) : Option String :=
  (stating? side root).map (·.text)

theorem firstNumber_codestreams (side : String) (root : Element) :
    firstNumber side (codestreams root) = readStated side (statedText side root) :=
  firstNumber_eq side (codestreams root)

theorem size_congr {root other : Element} (wide : statedText "width" root = statedText "width" other)
    (high : statedText "height" root = statedText "height" other) : size root = size other := by
  have width := firstNumber_codestreams "width" root
  have height := firstNumber_codestreams "height" root
  rw [wide, ← firstNumber_codestreams] at width
  rw [high, ← firstNumber_codestreams] at height
  unfold codestreams at width height
  unfold size
  simp only [width, height]

/-- In any document, a side is stated by the first element, in the order of the document, that has its
name and lies inside a code stream, and by none if there is no such element. So documents with the
same code streams, and those with the same two texts there, state the same size. -/
theorem stated_in_document_order (root : Element) :
    (∀ side,
      (∀ element, stating? side root = some element ↔
        ∃ position, Position.IsFirst (root.Counts "codestream" side) position ∧
          root.at? position = some element) ∧
      (stating? side root = none ↔ ∀ position, ¬ root.Counts "codestream" side position) ∧
      firstNumber side (codestreams root) = readStated side (statedText side root)) ∧
    (∀ other, Element.outermost "codestream" root = Element.outermost "codestream" other →
      (∀ side, stating? side root = stating? side other) ∧ size root = size other) ∧
    (∀ other, statedText "width" root = statedText "width" other →
      statedText "height" root = statedText "height" other → size root = size other) ∧
    (∀ bytes, Xml.readBytes true bytes = .ok root → sizeOfBytes bytes = size root) ∧
    (∀ text, Xml.readText text = .ok root → sizeOfText text = size root) := by
  refine ⟨fun side => ⟨fun element => stating?_eq_some_iff, stating?_eq_none_iff,
    firstNumber_codestreams side root⟩, fun other same => ?_, fun other wide high => ?_,
    fun bytes read => ?_, fun text read => ?_⟩
  · have found (side : String) : stating? side root = stating? side other := by
      rw [stating?_outermost, same, ← stating?_outermost]
    have texts (side : String) : statedText side root = statedText side other := by
      rw [statedText, found, statedText]
    exact ⟨found, size_congr (texts "width") (texts "height")⟩
  · exact size_congr wide high
  · rw [sizeOfBytes, read, mapError_ok, ok_bind]
  · rw [sizeOfText, read, mapError_ok, ok_bind]

def leaf (name text : String) : Element := ⟨⟨none, name⟩, text, []⟩

def branch (name : String) (children : List Element) : Element := ⟨⟨none, name⟩, "", children⟩

/-- A code stream without any side in it, and then one that has its height before a width of its own,
but after another code stream with a width. -/
def nestedStreams : List Element :=
  [branch "codestream" [],
   branch "codestream" [branch "tile" [branch "codestream" [leaf "width" " 20 "]],
     leaf "height" "10", leaf "width" "7"]]

/-- The width of the inner code stream counts, and neither what stands around the code streams nor what
else is in them does; whether the document is bytes or text makes no difference. -/
theorem stated_in_nested_streams :
    let header := branch "jp2" (leaf "width" "1" :: branch "box" [leaf "height" "2"] :: nestedStreams)
    let text := "<codestream><width>20</width><height>10</height></codestream>"
    (∃ position, Position.IsFirst (header.Counts "codestream" "width") position ∧
      header.at? position = some (leaf "width" " 20 ")) ∧
    size header = size (branch "x" nestedStreams) ∧
    size header = size (branch "codestream" [leaf "height" "10", leaf "width" " 20 "]) ∧
    (∃ root, Xml.readBytes true (Bytes.ofText text) = .ok root ∧
      sizeOfBytes (Bytes.ofText text) = size root) ∧
    ∃ root, Xml.readText text = .ok root ∧ sizeOfText text = size root := by
  intro header text
  obtain ⟨first, streams, texts, -, -⟩ := stated_in_document_order header
  have documents : (Xml.readBytes true (Bytes.ofText text)).isOk = true ∧
      (Xml.readText text).isOk = true := by
    decide +kernel
  obtain ⟨asBytes, read⟩ := exists_eq_ok documents.1
  obtain ⟨asText, read'⟩ := exists_eq_ok documents.2
  refine ⟨((first "width").1 _).mp rfl, (streams (branch "x" nestedStreams) rfl).2, texts _ rfl rfl,
    ⟨asBytes, read, (stated_in_document_order asBytes).2.2.2.1 _ read⟩,
    asText, read', (stated_in_document_order asText).2.2.2.2 _ read'⟩

end Jp2Render.Header
