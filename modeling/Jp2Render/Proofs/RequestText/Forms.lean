import Jp2Render.Proofs.Sequencing
import Jp2Render.Proofs.Text.Digits
import Jp2Render.Proofs.Text.Numerals
import Jp2Render.Shown

/-!
The forms in which sizes and rotations are stated. A size is `full`, `max`, `pct:n`, `w,`, `,h`, `w,h` or
`!w,h`; a rotation is `n` or `!n`. All of these are accepted and mean what their forms say, but they are not
all that is accepted: exclamation marks may be repeated, and may stand where they mean nothing.
-/

namespace Jp2Render

open RequestText

namespace Text

variable {first cs rest : List Char}

theorem after?_eq_some_iff : after? first cs = some rest ↔ cs = first ++ rest := by
  induction first generalizing cs with
  | nil => simp [after?]
  | cons c first ih =>
      cases cs with
      | nil => simp [after?]
      | cons d cs =>
          by_cases same : c = d
          · simp [after?, same, ih]
          · simp [after?, same, Ne.symm same]

def IsUnmarked (cs : List Char) : Prop := cs.head? ≠ some '!'

theorem AreNumeral.isUnmarked (numeral : AreNumeral cs) : IsUnmarked cs := by
  intro marked
  exact absurd (numeral '!' (List.mem_of_head? marked)) (by decide)

theorem AreNumeral.comma_notMem (numeral : AreNumeral cs) : ',' ∉ cs := by
  intro member
  exact absurd (numeral ',' member) (by decide)

theorem dropWhile_marks (unmarked : IsUnmarked rest) (count : Nat) :
    (List.replicate count '!' ++ rest).dropWhile (· = '!') = rest := by
  rw [List.dropWhile_append_of_pos (by simp)]
  cases rest with
  | nil => rfl
  | cons c rest => exact List.dropWhile_cons_of_neg (by simpa [IsUnmarked] using unmarked)

theorem head?_marks (unmarked : IsUnmarked rest) (count : Nat) :
    (List.replicate count '!' ++ rest).head? = some '!' ↔ 0 < count := by
  cases count with
  | zero => exact iff_of_false unmarked (Nat.lt_irrefl 0)
  | succ count => exact iff_of_true rfl (Nat.succ_pos count)

theorem exists_marks (cs : List Char) :
    ∃ count rest, cs = List.replicate count '!' ++ rest ∧ IsUnmarked rest := by
  refine ⟨(cs.takeWhile (· = '!')).length, cs.dropWhile (· = '!'), ?_, ?_⟩
  · have marks : cs.takeWhile (· = '!') = List.replicate (cs.takeWhile (· = '!')).length '!' := by
      rw [List.eq_replicate_iff]
      exact ⟨rfl, fun c member => of_decide_eq_true (List.all_eq_true.mp List.all_takeWhile c member)⟩
    rw [← marks, List.takeWhile_append_dropWhile]
  · intro marked
    have other := List.head?_dropWhile_not (· = '!') cs
    rw [marked] at other
    exact Bool.noConfusion other

theorem marks_succ (count : Nat) (rest : List Char) :
    List.replicate (count + 1) '!' ++ rest = List.replicate count '!' ++ '!' :: rest := by
  rw [List.replicate_succ', List.append_assoc, List.singleton_append]

theorem readInteger_nil (n : Int) : readInteger (String.ofList []) ≠ .ok n := by
  simp [readInteger, trimBy, integerOf?, takeSign, digitRun, groupedDigits]

end Text

theorem Size.stated_ofStatement {statement stated : SizeStatement} :
    (ofStatement statement).map Size.stated = .ok stated ↔
      stated = statement ∧ ∃ scaling, statement.scaling = .ok scaling := by
  rw [map_eq_ok_iff]
  unfold ofStatement
  split
  · next scaling meaning =>
    constructor
    · rintro ⟨size, made, rfl⟩
      rw [← Except.ok.inj made]
      exact ⟨rfl, scaling, meaning⟩
    · rintro ⟨rfl, -⟩
      exact ⟨_, rfl, rfl⟩
  · next fault meaning =>
    constructor
    · rintro ⟨size, made, -⟩
      cases made
    · rintro ⟨-, scaling, meaning'⟩
      rw [meaning] at meaning'
      cases meaning'

theorem RequestText.stated_sized {statement stated : SizeStatement} :
    (sized statement).map Size.stated = .ok stated ↔
      stated = statement ∧ ∃ scaling, statement.scaling = .ok scaling := by
  rw [← Size.stated_ofStatement, map_eq_ok_iff, map_eq_ok_iff]
  simp only [sized, mapError_eq_ok_iff]

theorem SizeStatement.exists_scaling_percent {x : Binary64} :
    (∃ scaling, SizeStatement.scaling ⟨.percent, none, none, some x⟩ = .ok scaling) ↔ ¬ x ≤ 0 := by
  constructor
  · rintro ⟨scaling, meaning⟩
    obtain ⟨p, accepted, -⟩ := bind_eq_ok_iff.mp meaning
    intro below
    rw [acceptedPercent] at accepted
    dsimp only at accepted
    rw [if_pos below] at accepted
    cases accepted
  · intro above
    refine ⟨.percent x, bind_eq_ok_iff.mpr ⟨x, ?_, rfl⟩⟩
    rw [acceptedPercent]
    exact if_neg above

/-- What the characters before and after a comma state; sides on both sides of it are fitted inside or
forced. -/
inductive Sides (inside : Bool) : List Char → List Char → SizeStatement → Prop
  | width {w : List Char} {width : Int} (read : Text.readInteger (String.ofList w) = .ok width)
      (positive : 0 < width) : Sides inside w [] ⟨.fitWidth, some width, none, none⟩
  | height {h : List Char} {height : Int} (read : Text.readInteger (String.ofList h) = .ok height)
      (positive : 0 < height) : Sides inside [] h ⟨.fitHeight, none, some height, none⟩
  | both {w h : List Char} {width height : Int}
      (wide : Text.readInteger (String.ofList w) = .ok width)
      (high : Text.readInteger (String.ofList h) = .ok height) (positive : 0 < width ∧ 0 < height) :
      Sides inside w h ⟨if inside then .fitInside else .forced, some width, some height, none⟩

variable {inside : Bool} {before after : List Char} {stated : SizeStatement}

theorem Sides.exists_scaling (sides : Sides inside before after stated) :
    ∃ scaling, stated.scaling = .ok scaling := by
  cases sides with
  | width _ positive => exact ⟨_, bind_eq_ok_iff.mpr ⟨_, if_pos positive, rfl⟩⟩
  | height _ positive => exact ⟨_, bind_eq_ok_iff.mpr ⟨_, if_pos positive, rfl⟩⟩
  | @both _ _ width height _ _ positive =>
      have wide : SizeStatement.positiveWidth
          ⟨if inside then .fitInside else .forced, some width, some height, none⟩ = .ok width :=
        if_pos positive.1
      have high : SizeStatement.positiveHeight
          ⟨if inside then .fitInside else .forced, some width, some height, none⟩ = .ok height :=
        if_pos positive.2
      cases inside with
      | false => exact ⟨_, bind_eq_ok_iff.mpr ⟨_, wide, bind_eq_ok_iff.mpr ⟨_, high, rfl⟩⟩⟩
      | true => exact ⟨_, bind_eq_ok_iff.mpr ⟨_, wide, bind_eq_ok_iff.mpr ⟨_, high, rfl⟩⟩⟩

namespace RequestText

theorem optionalInteger_eq_none_iff {cs : List Char} : optionalInteger cs = .ok none ↔ cs = [] := by
  unfold optionalInteger
  cases cs with
  | nil => exact iff_of_true rfl rfl
  | cons c rest =>
      refine iff_of_false ?_ (List.cons_ne_nil c rest)
      intro read
      obtain ⟨n, -, ⟨⟩⟩ := map_eq_ok_iff.mp read

theorem optionalInteger_eq_some_iff {cs : List Char} {n : Int} :
    optionalInteger cs = .ok (some n) ↔ Text.readInteger (String.ofList cs) = .ok n := by
  unfold optionalInteger
  cases cs with
  | nil => exact iff_of_false nofun (Text.readInteger_nil n)
  | cons c rest =>
      show Except.map _ _ = _ ↔ _
      rw [map_eq_ok_iff]
      constructor
      · rintro ⟨m, read, ⟨⟩⟩
        exact mapError_eq_ok_iff.mp read
      · intro read
        exact ⟨n, mapError_eq_ok_iff.mpr read, rfl⟩

theorem isNotPositive_some {n : Int} : isNotPositive (some n) = false ↔ 0 < n := by
  simp [isNotPositive]

theorem stated_widthAndHeight {text : String}
    (cut : Text.cut? ',' (text.toList.dropWhile (· = '!')) = some (before, after)) :
    (widthAndHeight text).map Size.stated = .ok stated ↔
      Sides (text.toList.head? = some '!') before after stated := by
  rw [widthAndHeight, cut]
  dsimp only
  generalize (decide (text.toList.head? = some '!') : Bool) = inside
  constructor
  · intro accepted
    obtain ⟨size, made, rfl⟩ := map_eq_ok_iff.mp accepted
    obtain ⟨width, wide, made⟩ := bind_eq_ok_iff.mp made
    obtain ⟨height, high, made⟩ := bind_eq_ok_iff.mp made
    split at made
    · cases made
    · next positive =>
      rw [Bool.or_eq_true, not_or, Bool.not_eq_true, Bool.not_eq_true] at positive
      split at made
      · cases made
      · next mode selected =>
        obtain ⟨same, -⟩ := stated_sized.mp (map_eq_ok_iff.mpr ⟨size, made, rfl⟩)
        rw [same]
        -- the mode tells which of the two numbers are there
        unfold modeOf? at selected
        split at selected
        · next width height =>
          rw [← Option.some.inj selected]
          exact .both (optionalInteger_eq_some_iff.mp wide) (optionalInteger_eq_some_iff.mp high)
            ⟨isNotPositive_some.mp positive.1, isNotPositive_some.mp positive.2⟩
        · next width =>
          rw [← Option.some.inj selected, optionalInteger_eq_none_iff.mp high]
          exact .width (optionalInteger_eq_some_iff.mp wide) (isNotPositive_some.mp positive.1)
        · next height =>
          rw [← Option.some.inj selected, optionalInteger_eq_none_iff.mp wide]
          exact .height (optionalInteger_eq_some_iff.mp high) (isNotPositive_some.mp positive.2)
        · cases selected
  · intro sides
    have scales := sides.exists_scaling
    cases sides with
    | width read positive =>
        rw [optionalInteger_eq_some_iff.mpr read, optionalInteger_eq_none_iff.mpr rfl, ok_bind, ok_bind,
          isNotPositive_some.mpr positive]
        exact stated_sized.mpr ⟨rfl, scales⟩
    | height read positive =>
        rw [optionalInteger_eq_some_iff.mpr read, optionalInteger_eq_none_iff.mpr rfl, ok_bind, ok_bind,
          isNotPositive_some.mpr positive]
        exact stated_sized.mpr ⟨rfl, scales⟩
    | both wide high positive =>
        rw [optionalInteger_eq_some_iff.mpr wide, optionalInteger_eq_some_iff.mpr high, ok_bind, ok_bind,
          isNotPositive_some.mpr positive.1, isNotPositive_some.mpr positive.2]
        exact stated_sized.mpr ⟨rfl, scales⟩

end RequestText

/-- The forms of sizes and what they state. -/
inductive SizeForm : List Char → SizeStatement → Prop
  | full : SizeForm "full".toList ⟨.full, none, none, none⟩
  | most : SizeForm "max".toList ⟨.full, none, none, none⟩
  | percent {n : List Char} {x : Binary64} (read : Text.readReal (String.ofList n) = .ok x)
      (accepted : ¬ x ≤ 0) : SizeForm (percentMark ++ n) ⟨.percent, none, none, some x⟩
  | width {w : List Char} {width : Int} (read : Text.readInteger (String.ofList w) = .ok width)
      (positive : 0 < width) : SizeForm (w ++ [',']) ⟨.fitWidth, some width, none, none⟩
  | height {h : List Char} {height : Int} (read : Text.readInteger (String.ofList h) = .ok height)
      (positive : 0 < height) : SizeForm (',' :: h) ⟨.fitHeight, none, some height, none⟩
  | forced {w h : List Char} {width height : Int}
      (wide : Text.readInteger (String.ofList w) = .ok width)
      (high : Text.readInteger (String.ofList h) = .ok height) (positive : 0 < width ∧ 0 < height) :
      SizeForm (w ++ ',' :: h) ⟨.forced, some width, some height, none⟩
  | inside {w h : List Char} {width height : Int}
      (wide : Text.readInteger (String.ofList w) = .ok width)
      (high : Text.readInteger (String.ofList h) = .ok height) (positive : 0 < width ∧ 0 < height) :
      SizeForm ('!' :: (w ++ ',' :: h)) ⟨.fitInside, some width, some height, none⟩

/-- The forms of rotations and what they state. -/
inductive RotationForm : List Char → Rotation → Prop
  | plain {n : List Char} {degrees : Binary64} (read : Text.readReal (String.ofList n) = .ok degrees) :
      RotationForm n ⟨degrees, false⟩
  | mirrored {n : List Char} {degrees : Binary64}
      (read : Text.readReal (String.ofList n) = .ok degrees) : RotationForm ('!' :: n) ⟨degrees, true⟩

/-- Exclamation marks in front of a form, beside those that belong to it. -/
def Overmarked (form : List Char → Prop) (cs : List Char) : Prop :=
  ∃ count rest, cs = List.replicate (count + 1) '!' ++ rest ∧ form rest

/-- Modes that keep the proportions of an image. -/
def ScaleMode.isFit : ScaleMode → Bool
  | .fitWidth | .fitHeight | .fitInside => true
  | .full | .forced | .percent => false

variable {text : String} {cs rest : List Char} {rotation : Rotation}

theorem Text.AreNumeral.isUnmarked_sides (numeral : Text.AreNumeral before) :
    Text.IsUnmarked (before ++ ',' :: after) := by
  cases before with
  | nil => exact fun marked => absurd (Option.some.inj marked) (by decide)
  | cons c before => exact numeral.isUnmarked

theorem Sides.form (sides : Sides false before after stated) :
    SizeForm (before ++ ',' :: after) stated := by
  cases sides with
  | width read positive => exact .width read positive
  | height read positive => exact .height read positive
  | both wide high positive => exact .forced wide high positive

theorem Sides.form_marked (sides : Sides true before after stated) (count : Nat) :
    SizeForm (List.replicate (count + 1) '!' ++ (before ++ ',' :: after)) stated ∨
      stated.mode.isFit = true ∧
        Overmarked (SizeForm · stated) (List.replicate (count + 1) '!' ++ (before ++ ',' :: after)) := by
  cases sides with
  | width read positive => exact .inr ⟨rfl, count, _, rfl, .width read positive⟩
  | height read positive => exact .inr ⟨rfl, count, _, rfl, .height read positive⟩
  | both wide high positive =>
      cases count with
      | zero => exact .inl (.inside wide high positive)
      | succ count => exact .inr ⟨rfl, count, _, Text.marks_succ _ _, .inside wide high positive⟩

namespace RequestText

theorem after?_percentMark (count : Nat) (numeral : Text.AreNumeral before) :
    Text.after? percentMark (List.replicate count '!' ++ (before ++ ',' :: after)) = none := by
  rw [Option.eq_none_iff_forall_ne_some]
  intro number found
  have begun := congrArg List.head? (Text.after?_eq_some_iff.mp found)
  cases count with
  | succ count => exact absurd (Option.some.inj begun) (by decide)
  | zero =>
      cases before with
      | nil => exact absurd (Option.some.inj begun) (by decide)
      | cons c before =>
          rw [show c = 'p' from Option.some.inj begun] at numeral
          exact absurd (numeral 'p' List.mem_cons_self) (by decide)

theorem stated_size_marked (count : Nat) (numeral : Text.AreNumeral before)
    (written : text.toList = List.replicate count '!' ++ (before ++ ',' :: after)) :
    (size text).map Size.stated = .ok stated ↔ Sides (decide (0 < count)) before after stated := by
  have unmarked : Text.IsUnmarked (before ++ ',' :: after) := numeral.isUnmarked_sides
  have named : (text = "full" || text = "max") = false := by
    have comma : ',' ∈ text.toList := by simp [written]
    rw [← Bool.not_eq_true, Bool.or_eq_true, decide_eq_true_eq, decide_eq_true_eq]
    rintro (rfl | rfl)
    · exact absurd comma (by decide)
    · exact absurd comma (by decide)
  have cut : Text.cut? ',' (text.toList.dropWhile (· = '!')) = some (before, after) := by
    rw [written, Text.dropWhile_marks unmarked, Text.cut?_append numeral.comma_notMem]
  have marked : (text.toList.head? = some '!') = (0 < count) := by
    rw [written, Text.head?_marks unmarked]
  rw [size, named, written, after?_percentMark count numeral]
  exact (stated_widthAndHeight cut).trans (by simp only [marked])

theorem stated_size_percent {n : List Char} (written : text.toList = percentMark ++ n) :
    (size text).map Size.stated = .ok stated ↔
      ∃ x, Text.readReal (String.ofList n) = .ok x ∧ ¬ x ≤ 0 ∧ stated = ⟨.percent, none, none, some x⟩ := by
  have named : (text = "full" || text = "max") = false := by
    rw [← Bool.not_eq_true, Bool.or_eq_true, decide_eq_true_eq, decide_eq_true_eq]
    rintro (rfl | rfl)
    · exact absurd (congrArg List.head? written) (by simp [percentMark])
    · exact absurd (congrArg List.head? written) (by simp [percentMark])
  rw [size, named, Text.after?_eq_some_iff.mpr written]
  show Except.map _ (_ >>= _) = _ ↔ _
  rw [map_eq_ok_iff]
  constructor
  · rintro ⟨size, made, rfl⟩
    obtain ⟨x, read, made⟩ := bind_eq_ok_iff.mp made
    obtain ⟨same, scales⟩ := stated_sized.mp (map_eq_ok_iff.mpr ⟨size, made, rfl⟩)
    exact ⟨x, mapError_eq_ok_iff.mp read, SizeStatement.exists_scaling_percent.mp scales, same⟩
  · rintro ⟨x, read, accepted, rfl⟩
    obtain ⟨size, made, same⟩ := map_eq_ok_iff.mp
      (stated_sized.mpr ⟨rfl, SizeStatement.exists_scaling_percent.mpr accepted⟩)
    exact ⟨size, bind_eq_ok_iff.mpr ⟨x, mapError_eq_ok_iff.mpr read, made⟩, same⟩

theorem stated_size_of_form (written : text.toList = cs) (form : SizeForm cs stated) :
    (size text).map Size.stated = .ok stated := by
  cases form with
  | full => rw [String.toList_inj.mp written]; rfl
  | most => rw [String.toList_inj.mp written]; rfl
  | percent read accepted => exact (stated_size_percent written).mpr ⟨_, read, accepted, rfl⟩
  | width read positive =>
      exact (stated_size_marked 0 (Text.areNumeral_of_readInteger read) written).mpr
        (.width read positive)
  | height read positive =>
      exact (stated_size_marked 0 .nil written).mpr (.height read positive)
  | forced wide high positive =>
      exact (stated_size_marked 0 (Text.areNumeral_of_readInteger wide) written).mpr
        (.both wide high positive)
  | inside wide high positive =>
      exact (stated_size_marked 1 (Text.areNumeral_of_readInteger wide) written).mpr
        (.both wide high positive)

theorem stated_size_iff : (size text).map Size.stated = .ok stated ↔
    SizeForm text.toList stated ∨
      stated.mode.isFit = true ∧ Overmarked (SizeForm · stated) text.toList := by
  constructor
  · intro accepted
    -- a percentage is told from lengths by its mark alone, so that is looked at first
    by_cases percent : ∃ n, text.toList = percentMark ++ n
    · obtain ⟨n, written⟩ := percent
      obtain ⟨x, read, above, rfl⟩ := (stated_size_percent written).mp accepted
      rw [written]
      exact .inl (.percent read above)
    · have sided : Text.after? percentMark text.toList = none := by
        rw [Option.eq_none_iff_forall_ne_some]
        exact fun n found => percent ⟨n, Text.after?_eq_some_iff.mp found⟩
      rw [size, sided] at accepted
      split at accepted
      · next named =>
        cases accepted
        rw [Bool.or_eq_true, decide_eq_true_eq, decide_eq_true_eq] at named
        rcases named with rfl | rfl
        · exact .inl .full
        · exact .inl .most
      · obtain ⟨count, rest, written, unmarked⟩ := Text.exists_marks text.toList
        have rested : text.toList.dropWhile (· = '!') = rest := by
          rw [written, Text.dropWhile_marks unmarked]
        cases cut : Text.cut? ',' rest with
        | none =>
            dsimp only at accepted
            rw [widthAndHeight, rested, cut] at accepted
            cases accepted
        | some parts =>
            have sides := (stated_widthAndHeight (by rw [rested, cut])).mp accepted
            simp only [written, Text.head?_marks unmarked] at sides
            rw [written, Text.cut?_eq_some cut]
            -- without marks the sides have their form; each further mark is one too many
            cases count with
            | zero => exact .inl sides.form
            | succ count => exact sides.form_marked count
  · rintro (form | ⟨fits, count, rest, written, form⟩)
    · exact stated_size_of_form rfl form
    · -- only forms of lengths can be marked
      cases form with
      | full => cases fits
      | most => cases fits
      | percent => cases fits
      | forced => cases fits
      | width read positive =>
          exact (stated_size_marked _ (Text.areNumeral_of_readInteger read) written).mpr
            (.width read positive)
      | height read positive =>
          exact (stated_size_marked _ (.nil : Text.AreNumeral []) written).mpr (.height read positive)
      | inside wide high positive =>
          rw [← Text.marks_succ] at written
          exact (stated_size_marked _ (Text.areNumeral_of_readInteger wide) written).mpr
            (.both wide high positive)

end RequestText

theorem SizeForm.eq_of_marked (form : SizeForm cs stated) (marked : cs.head? = some '!') :
    stated.mode = .fitInside ∧
      ∃ before after, Text.AreNumeral before ∧ cs = '!' :: (before ++ ',' :: after) := by
  cases form with
  | full => exact absurd marked (by decide)
  | most => exact absurd marked (by decide)
  | percent => exact absurd marked (by simp [percentMark])
  | width read =>
      exact absurd marked (Text.areNumeral_of_readInteger read).isUnmarked_sides
  | height => exact absurd (Option.some.inj marked) (by decide)
  | forced wide =>
      exact absurd marked (Text.areNumeral_of_readInteger wide).isUnmarked_sides
  | inside wide => exact ⟨rfl, _, _, Text.areNumeral_of_readInteger wide, rfl⟩

theorem SizeForm.marked_of_inside (form : SizeForm cs stated) (inside : stated.mode = .fitInside) :
    cs.head? = some '!' := by
  cases form with
  | inside => rfl
  | full => cases inside
  | most => cases inside
  | percent => cases inside
  | width => cases inside
  | height => cases inside
  | forced => cases inside

theorem SizeForm.not_overmarked (form : SizeForm cs stated) : ¬ Overmarked (SizeForm · stated) cs := by
  rintro ⟨count, rest, rfl, inner⟩
  obtain ⟨inside, before, after, numeral, same⟩ := form.eq_of_marked rfl
  have marked := inner.marked_of_inside inside
  -- after the mark that belongs to the form there would be another one
  have second : (List.replicate count '!' ++ rest).head? = some '!' := by
    cases count with
    | zero => exact marked
    | succ count => rfl
  have tail : List.replicate count '!' ++ rest = before ++ ',' :: after := (List.cons.inj same).2
  rw [tail] at second
  exact numeral.isUnmarked_sides second

namespace RequestText

theorem rotation_marked (count : Nat) {n : List Char} (unmarked : Text.IsUnmarked n)
    (written : text.toList = List.replicate count '!' ++ n) :
    RequestText.rotation text = .ok rotation ↔
      Text.readReal (String.ofList n) = .ok rotation.degrees ∧ rotation.mirror = decide (0 < count) := by
  rw [RequestText.rotation, written, Text.dropWhile_marks unmarked, bind_eq_ok_iff]
  simp only [Text.head?_marks unmarked]
  constructor
  · rintro ⟨degrees, read, made⟩
    rw [← pure_eq_ok_iff.mp made]
    exact ⟨mapError_eq_ok_iff.mp read, rfl⟩
  · rintro ⟨read, mirrored⟩
    refine ⟨rotation.degrees, mapError_eq_ok_iff.mpr read, pure_eq_ok_iff.mpr ?_⟩
    rw [← mirrored]

theorem rotation_iff : RequestText.rotation text = .ok rotation ↔
    RotationForm text.toList rotation ∨
      rotation.mirror = true ∧ Overmarked (RotationForm · rotation) text.toList := by
  obtain ⟨degrees, mirror⟩ := rotation
  constructor
  · intro accepted
    obtain ⟨count, n, written, unmarked⟩ := Text.exists_marks text.toList
    obtain ⟨read, mirrored⟩ := (rotation_marked _ unmarked written).mp accepted
    dsimp only at read mirrored
    rw [mirrored, written]
    -- two marks are one more than the mirrored form has
    cases count with
    | zero => exact .inl (.plain read)
    | succ count =>
        cases count with
        | zero => exact .inl (.mirrored read)
        | succ count => exact .inr ⟨rfl, count, _, Text.marks_succ _ _, .mirrored read⟩
  · rintro (form | ⟨mirrored, count, rest, written, form⟩)
    · generalize written : text.toList = cs at form
      cases form with
      | plain read =>
          exact (rotation_marked 0 (Text.areNumeral_of_readReal read).isUnmarked written).mpr
            ⟨read, rfl⟩
      | mirrored read =>
          exact (rotation_marked 1 (Text.areNumeral_of_readReal read).isUnmarked written).mpr
            ⟨read, rfl⟩
    · cases form with
      | plain read => cases mirrored
      | mirrored read =>
          rw [← Text.marks_succ] at written
          exact (rotation_marked _ (Text.areNumeral_of_readReal read).isUnmarked written).mpr
            ⟨read, rfl⟩

end RequestText

theorem RotationForm.not_overmarked (form : RotationForm cs rotation) (mirrored : rotation.mirror = true) :
    ¬ Overmarked (RotationForm · rotation) cs := by
  rintro ⟨count, rest, written, inner⟩
  cases inner with
  | plain => cases mirrored
  | @mirrored n degrees =>
      cases form with
      | @mirrored number _ read =>
          -- the mark that belongs to the inner form would stand in the numeral
          have tail : number = List.replicate count '!' ++ '!' :: n := (List.cons.inj written).2
          have numeral := Text.areNumeral_of_readReal read
          rw [tail] at numeral
          exact absurd (numeral '!' (by simp)) (by decide)

theorem only_forms_iff {α : Type} {accepted form other : α → Prop}
    (all : ∀ value, accepted value ↔ form value ∨ other value)
    (apart : ∀ value, form value → ¬ other value) :
    (∀ value, accepted value ↔ form value) ↔ ∀ value, ¬ other value := by
  constructor
  · intro only value outside
    exact apart value ((only value).mp ((all value).mpr (.inr outside))) outside
  · intro none value
    rw [all value, or_iff_left (none value)]

/-- A text is accepted as a size or as a rotation if it has one of the forms, or if there are more exclamation
marks in front of a form that fits or mirrors. So just the forms are accepted, unless there are too many marks
in this way; and whatever is not accepted is told to be a wrong value. -/
theorem RequestText.stated_in_form_unless_overmarked (text : String) :
    let sizeOvermarked (stated : SizeStatement) : Prop :=
      stated.mode.isFit = true ∧ Overmarked (SizeForm · stated) text.toList
    let rotationOvermarked (stated : Rotation) : Prop :=
      stated.mirror = true ∧ Overmarked (RotationForm · stated) text.toList
    (∀ stated, (size text).map Size.stated = .ok stated ↔
      SizeForm text.toList stated ∨ sizeOvermarked stated) ∧
    (∀ stated, RequestText.rotation text = .ok stated ↔
      RotationForm text.toList stated ∨ rotationOvermarked stated) ∧
    ((∀ stated, (size text).map Size.stated = .ok stated ↔ SizeForm text.toList stated) ↔
      ∀ stated, ¬ sizeOvermarked stated) ∧
    ((∀ stated, RequestText.rotation text = .ok stated ↔ RotationForm text.toList stated) ↔
      ∀ stated, ¬ rotationOvermarked stated) ∧
    ∀ fault, size text = .error fault ∨ RequestText.rotation text = .error fault →
      (Fault.shown fault).kind = "ValueError" := by
  intro sizeOvermarked rotationOvermarked
  have sizes : ∀ stated, (size text).map Size.stated = .ok stated ↔
      SizeForm text.toList stated ∨ sizeOvermarked stated := fun stated => stated_size_iff
  have rotations : ∀ stated, RequestText.rotation text = .ok stated ↔
      RotationForm text.toList stated ∨ rotationOvermarked stated := fun stated => rotation_iff
  refine ⟨sizes, rotations, only_forms_iff sizes ?_, only_forms_iff rotations ?_, ?_⟩
  · rintro stated form ⟨-, overmarked⟩
    exact form.not_overmarked overmarked
  · rintro stated form ⟨mirrored, overmarked⟩
    exact form.not_overmarked mirrored overmarked
  · rintro fault -
    rfl

/-- Two marks are taken for one. -/
theorem RequestText.stated_without_form_twice_marked : ¬ ∀ text stated,
    (size text).map Size.stated = .ok stated → SizeForm text.toList stated := by
  intro formed
  have wide : Text.readInteger (String.ofList ['2', '0', '0']) = .ok 200 :=
    Text.readInteger_digits (by decide) (by simp) (by decide) (by decide)
  have high : Text.readInteger (String.ofList ['1', '0', '0']) = .ok 100 :=
    Text.readInteger_digits (by decide) (by simp) (by decide) (by decide)
  have overmarked : Overmarked (SizeForm · ⟨.fitInside, some 200, some 100, none⟩) "!!200,100".toList :=
    ⟨0, _, rfl, .inside wide high (by decide)⟩
  exact (formed "!!200,100" _ (stated_size_iff.mpr (.inr ⟨rfl, overmarked⟩))).not_overmarked overmarked

end Jp2Render
