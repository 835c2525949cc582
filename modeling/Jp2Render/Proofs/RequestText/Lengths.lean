import Jp2Render.Proofs.Path
import Jp2Render.Proofs.Reduction.Plan
import Jp2Render.Proofs.RequestText.Forms

/-!
Lengths that requests state. The width and the height of a region, and what a size states, are refused if
they are zero or below. What is accepted is therefore positive, unless it is no number: that is not below
anything, and passes.
-/

namespace Jp2Render

open RequestText

theorem Binary64.not_le_zero_iff {x : Binary64} : ¬ x ≤ 0 ↔ 0 < x ∨ x = .nan := by
  rw [zero_eq]
  cases x with
  | nan => exact iff_of_true Bool.noConfusion (.inr rfl)
  | infinite negative =>
      cases negative with
      | true => exact iff_of_false (not_not_intro rfl) (by rintro (⟨⟨⟩⟩ | ⟨⟨⟩⟩))
      | false => exact iff_of_true Bool.noConfusion (.inl rfl)
  | finite negative units =>
      rw [or_iff_left (by rintro ⟨⟩)]
      show ¬ decide (signedUnits negative units ≤ 0) = true ↔ decide (0 < signedUnits negative units) = true
      rw [decide_eq_true_eq, decide_eq_true_eq, Int.not_le]

/-- The lengths of a region; the full region states none. -/
def Region.lengths : Region → List Binary64
  | .full => []
  | .pixels r | .percent r => [r.width, r.height]

def Region.IsPositive (region : Region) : Prop := ∀ length ∈ region.lengths, 0 < length

/-- Whatever is stated is above zero. -/
def SizeStatement.IsPositive (statement : SizeStatement) : Prop :=
  (∀ width ∈ statement.width, 0 < width) ∧ (∀ height ∈ statement.height, 0 < height) ∧
    ∀ percent ∈ statement.percent, 0 < percent

inductive RectangleForm : List Char → Rectangle → Prop
  | numbers {x y w h : List Char} {r : Rectangle} (left : Text.readReal (String.ofList x) = .ok r.x)
      (top : Text.readReal (String.ofList y) = .ok r.y)
      (wide : Text.readReal (String.ofList w) = .ok r.width)
      (high : Text.readReal (String.ofList h) = .ok r.height) :
      RectangleForm ([','].intercalate [x, y, w, h]) r

/-- The forms of regions and what they state. -/
inductive RegionForm : List Char → Region → Prop
  | full : RegionForm "full".toList .full
  | pixels {cs : List Char} {r : Rectangle} (numbers : RectangleForm cs r) : RegionForm cs (.pixels r)
  | percent {cs : List Char} {r : Rectangle} (numbers : RectangleForm cs r) :
      RegionForm (percentMark ++ cs) (.percent r)

variable {text : String} {cs : List Char} {r : Rectangle} {stated : Region}

theorem RectangleForm.exists_comma (form : RectangleForm cs r) :
    ∃ before after, Text.AreNumeral before ∧ cs = before ++ ',' :: after := by
  cases form with
  | @numbers x y w h _ left =>
      refine ⟨x, [','].intercalate [y, w, h], Text.areNumeral_of_readReal left, ?_⟩
      rw [List.intercalate_cons_cons, List.append_assoc]
      rfl

namespace RequestText

theorem fields_numerals {parts : List (List Char)} (some : parts ≠ [])
    (numerals : ∀ part ∈ parts, Text.AreNumeral part) :
    Text.fields ',' ([','].intercalate parts) = parts := by
  rw [Text.fields_eq_splitOn]
  exact List.splitOn_intercalate ',' (fun part member => (numerals part member).comma_notMem) some

theorem rectangle_eq_ok_iff : rectangle cs = .ok r ↔ RectangleForm cs r := by
  constructor
  · intro read
    unfold rectangle at read
    split at read
    · next x y w h parts =>
      simp only [bind_eq_ok_iff, pure_eq_ok_iff] at read
      obtain ⟨_, left, _, top, _, wide, _, high, rfl⟩ := read
      rw [Text.fields_eq_splitOn] at parts
      have joined : [','].intercalate (cs.splitOn ',') = cs := List.intercalate_splitOn ','
      rw [← joined, parts]
      exact .numbers (mapError_eq_ok_iff.mp left) (mapError_eq_ok_iff.mp top)
        (mapError_eq_ok_iff.mp wide) (mapError_eq_ok_iff.mp high)
    · cases read
  · rintro @⟨x, y, w, h, r, left, top, wide, high⟩
    -- no numeral holds a comma, so the text falls into the same four parts
    have parts : Text.fields ',' ([','].intercalate [x, y, w, h]) = [x, y, w, h] := by
      refine fields_numerals (List.cons_ne_nil _ _) ?_
      simp only [List.mem_cons, List.not_mem_nil, or_false]
      rintro part (rfl | rfl | rfl | rfl)
      · exact Text.areNumeral_of_readReal left
      · exact Text.areNumeral_of_readReal top
      · exact Text.areNumeral_of_readReal wide
      · exact Text.areNumeral_of_readReal high
    rw [rectangle, parts]
    simp only [bind_eq_ok_iff, pure_eq_ok_iff]
    exact ⟨_, mapError_eq_ok_iff.mpr left, _, mapError_eq_ok_iff.mpr top, _,
      mapError_eq_ok_iff.mpr wide, _, mapError_eq_ok_iff.mpr high, rfl⟩

theorem regionRectangle_eq_ok_iff : regionRectangle text cs = .ok r ↔
    RectangleForm cs r ∧ ¬ r.width ≤ 0 ∧ ¬ r.height ≤ 0 := by
  rw [regionRectangle, bind_eq_ok_iff]
  constructor
  · rintro ⟨read, formed, accepted⟩
    split at accepted
    · cases accepted
    · next above =>
      rw [Bool.or_eq_true, not_or, decide_eq_true_eq, decide_eq_true_eq] at above
      rw [← pure_eq_ok_iff.mp accepted]
      exact ⟨rectangle_eq_ok_iff.mp formed, above⟩
  · rintro ⟨form, wide, high⟩
    refine ⟨r, rectangle_eq_ok_iff.mpr form, ?_⟩
    rw [if_neg (by simpa using ⟨wide, high⟩)]
    rfl

theorem region_eq_ok_iff : region text = .ok stated ↔
    RegionForm text.toList stated ∧ ∀ length ∈ stated.lengths, ¬ length ≤ 0 := by
  constructor
  · intro accepted
    unfold region at accepted
    split at accepted
    · next named =>
      rw [← Except.ok.inj accepted, named]
      exact ⟨.full, by simp [Region.lengths]⟩
    · split at accepted
      · next numbers found =>
        obtain ⟨r, read, rfl⟩ := map_eq_ok_iff.mp accepted
        obtain ⟨form, above⟩ := regionRectangle_eq_ok_iff.mp read
        rw [Text.after?_eq_some_iff.mp found]
        exact ⟨.percent form, by simpa [Region.lengths] using above⟩
      · obtain ⟨r, read, rfl⟩ := map_eq_ok_iff.mp accepted
        obtain ⟨form, above⟩ := regionRectangle_eq_ok_iff.mp read
        exact ⟨.pixels form, by simpa [Region.lengths] using above⟩
  · rintro ⟨form, above⟩
    -- no form is read as another one: the numbers hold a comma, and the word and the mark do not
    generalize written : text.toList = cs at form
    cases form with
    | full =>
        rw [String.toList_inj.mp written]
        rfl
    | @pixels _ r numbers =>
        obtain ⟨before, after, numeral, begun⟩ := numbers.exists_comma
        have unnamed : text ≠ "full" := by
          rintro rfl
          have comma : ',' ∈ "full".toList := by simp [written, begun]
          exact absurd comma (by decide)
        have direct : Text.after? percentMark text.toList = none := by
          rw [written, begun]
          exact after?_percentMark 0 numeral
        rw [region, if_neg unnamed, direct]
        refine map_eq_ok_iff.mpr ⟨r, regionRectangle_eq_ok_iff.mpr ⟨?_, ?_⟩, rfl⟩
        · rwa [written]
        · simpa [Region.lengths] using above
    | @percent cs r numbers =>
        have unnamed : text ≠ "full" := by
          rintro rfl
          exact absurd (congrArg List.head? written) (by simp [percentMark])
        rw [region, if_neg unnamed, Text.after?_eq_some_iff.mpr written]
        refine map_eq_ok_iff.mpr ⟨r, regionRectangle_eq_ok_iff.mpr ⟨numbers, ?_⟩, rfl⟩
        simpa [Region.lengths] using above

end RequestText

theorem SizeForm.isPositive {statement : SizeStatement} (form : SizeForm cs statement) :
    statement.IsPositive ∨ statement = ⟨.percent, none, none, some .nan⟩ := by
  cases form with
  | percent read accepted =>
      rcases Binary64.not_le_zero_iff.mp accepted with positive | rfl
      · exact .inl (by simpa [SizeStatement.IsPositive] using positive)
      · exact .inr rfl
  | full => exact .inl (by simp [SizeStatement.IsPositive])
  | most => exact .inl (by simp [SizeStatement.IsPositive])
  | width read positive => exact .inl (by simpa [SizeStatement.IsPositive] using positive)
  | height read positive => exact .inl (by simpa [SizeStatement.IsPositive] using positive)
  | forced wide high positive => exact .inl (by simpa [SizeStatement.IsPositive] using positive)
  | inside wide high positive => exact .inl (by simpa [SizeStatement.IsPositive] using positive)

theorem Binary64.not_zero_lt_nan : ¬ (0 : Binary64) < .nan := Bool.noConfusion

namespace RequestText

theorem stated_size_isPositive {statement : SizeStatement}
    (accepted : (size text).map Size.stated = .ok statement) :
    statement.IsPositive ∨ statement = ⟨.percent, none, none, some .nan⟩ := by
  rcases stated_size_iff.mp accepted with form | ⟨-, _, _, -, form⟩
  · exact form.isPositive
  · exact form.isPositive

theorem stated_size_nan_iff : (size text).map Size.stated = .ok ⟨.percent, none, none, some .nan⟩ ↔
    ∃ n, text.toList = percentMark ++ n ∧ Text.readReal (String.ofList n) = .ok .nan := by
  constructor
  · intro accepted
    rcases stated_size_iff.mp accepted with form | ⟨⟨⟩, -⟩
    generalize written : text.toList = cs at form
    cases form with
    | percent read => exact ⟨_, rfl, read⟩
  · rintro ⟨n, written, read⟩
    exact (stated_size_percent written).mpr ⟨.nan, read, Binary64.not_le_zero_iff.mpr (.inr rfl), rfl⟩

/-- A region is accepted if it has one of the forms and its lengths are positive or no numbers; what an
accepted size states is positive, or a percentage that is no number. So what is accepted is positive,
unless a text states what is no number and nothing that is zero or below; and whatever is not accepted is told
to be a wrong value. -/
theorem lengths_positive_unless_nan (text : String) :
    (∀ stated, region text = .ok stated ↔
      RegionForm text.toList stated ∧ ∀ length ∈ stated.lengths, 0 < length ∨ length = .nan) ∧
    (∀ stated, (size text).map Size.stated = .ok stated →
      stated.IsPositive ∨ stated = ⟨.percent, none, none, some .nan⟩) ∧
    ((∀ stated, region text = .ok stated → stated.IsPositive) ↔
      ∀ stated, RegionForm text.toList stated → .nan ∈ stated.lengths →
        ∃ length ∈ stated.lengths, length ≤ 0) ∧
    ((∀ stated, (size text).map Size.stated = .ok stated → stated.IsPositive) ↔
      ∀ n, text.toList = percentMark ++ n → Text.readReal (String.ofList n) ≠ .ok .nan) ∧
    ∀ fault, region text = .error fault ∨ size text = .error fault →
      (Fault.shown fault).kind = "ValueError" := by
  have regions : ∀ stated, region text = .ok stated ↔
      RegionForm text.toList stated ∧ ∀ length ∈ stated.lengths, 0 < length ∨ length = .nan := by
    intro stated
    rw [region_eq_ok_iff]
    simp only [Binary64.not_le_zero_iff]
  refine ⟨regions, fun stated => stated_size_isPositive, ?_, ?_, ?_⟩
  · constructor
    · intro positive stated form none
      by_contra above
      have accepted := region_eq_ok_iff.mpr ⟨form, fun length member below => above ⟨length, member, below⟩⟩
      exact Binary64.not_zero_lt_nan (positive stated accepted _ none)
    · -- a length that is no number is accepted only beside one that is not refused
      intro refused stated accepted length member
      obtain ⟨form, lengths⟩ := (regions stated).mp accepted
      refine (lengths length member).resolve_right ?_
      rintro rfl
      obtain ⟨other, member, below⟩ := refused stated form member
      exact (region_eq_ok_iff.mp accepted).2 other member below
  · constructor
    · intro positive n written read
      have stated := positive _ (stated_size_nan_iff.mpr ⟨n, written, read⟩)
      exact Binary64.not_zero_lt_nan (stated.2.2 _ rfl)
    · intro numbers stated accepted
      refine (stated_size_isPositive accepted).resolve_right ?_
      rintro rfl
      obtain ⟨n, written, read⟩ := stated_size_nan_iff.mp accepted
      exact numbers n written read
  · rintro fault -
    rfl

/-- A width that is no number is accepted. -/
theorem lengths_not_positive_nan : ¬ ∀ text stated, region text = .ok stated → stated.IsPositive := by
  intro positive
  have accepted : region "0,0,nan,10" =
      .ok (.pixels ⟨.finite false 0, .finite false 0, .nan, 10⟩) := by decide +kernel
  exact Binary64.not_zero_lt_nan (positive _ _ accepted .nan (by simp [Region.lengths]))

end RequestText

end Jp2Render
