import VuePrecompiler.Proofs.ElementHeads

/-!
# Reference fields

A reference in a loop is marked among the fields of its element.  No other
field can be taken for the mark, so the mark is there exactly if the element
has a reference and stands in a loop.
-/

namespace VuePrecompiler.Render

open Template

/-- The field that marks a reference in a loop. -/
def loopMark : String := "refInFor:true"

/-- Whether a tag has a reference: `ref` as an attribute, or a value bound to it. -/
def HasRef (tag : StartTag) : Prop :=
  (∃ attr ∈ tag.attributes, attr.name = "ref") ∨ ∃ binding ∈ tag.props,
    binding.name = .fixed "ref"

/-- Fields with other labels than the mark are other fields. -/
theorem loopMark_notMem {fields labels : List String}
    (isLabelled : ∀ field ∈ fields, IsLabelled labels field)
    (others : ∀ label ∈ labels,
      ¬ label.toList <+: loopMark.toList ∧ ¬ loopMark.toList <+: label.toList) :
    loopMark ∉ fields := by
  intro member
  exact (isLabelled _ member).not_isPrefix others (List.prefix_refl _)

theorem loopMark_mem_refFields_iff (tag : StartTag) (inLoop : Bool) :
    loopMark ∈ refFields tag inLoop ↔ HasRef tag ∧ inLoop = true := by
  have bound : (∃ binding ∈ tag.props, binding.name = .fixed "ref") ↔
      (tag.prop? "ref").isSome = true := by
    simp [StartTag.prop?, List.find?_isSome]
  have plain : (∃ attr ∈ tag.attributes, attr.name = "ref") ↔
      (tag.attribute? "ref").isSome = true := by
    simp [StartTag.attribute?, List.find?_isSome]
  have notRef (code : String) : loopMark ≠ "ref:" ++ code := by
    have labelled : IsLabelled ["ref:"] ("ref:" ++ code) :=
      .of_mem (List.mem_singleton_self _) code
    intro same
    exact @IsLabelled.not_isPrefix _ _ loopMark labelled (by decide)
      ⟨[], by rw [same, List.append_nil]⟩
  have given (code : String) :
      loopMark ∈ ("ref:" ++ code) :: (if inLoop then ["refInFor:true"] else []) ↔
        inLoop = true := by
    rw [List.mem_cons, or_iff_right (notRef code)]
    cases inLoop <;> decide
  rw [HasRef, bound, plain, refFields, attributeCode?]
  cases tag.prop? "ref" <;> cases tag.attribute? "ref" <;> simp [given]

/-! ## The fields of an element -/

/-- The data of an element marks its reference exactly if there is one, in a loop. -/
theorem loopMark_mem_dataFields_iff (tag : StartTag) (inLoop : Bool)
    {scopedSlots : Option String} (ofSlots : IsSlotsCode scopedSlots) :
    loopMark ∈ dataFields tag (DirectiveData.ofTag tag) inLoop scopedSlots ↔
      HasRef tag ∧ inLoop = true := by
  have notField {isEmpty : Bool} {label content : String}
      (others : ∀ other ∈ [label],
        ¬ other.toList <+: loopMark.toList ∧ ¬ loopMark.toList <+: other.toList) :
      loopMark ∉ fieldUnless isEmpty (label ++ content) :=
    loopMark_notMem (fun _ => isLabelled_fieldUnless) others
  have notKey : loopMark ∉ keyField tag :=
    loopMark_notMem (fun _ => isLabelled_keyField) (by decide)
  have notTag :
      loopMark ∉ if (computedTag? tag).isSome then ["tag:\"component\""] else [] :=
    loopMark_notMem (fun _ => isLabelled_tagField) (by decide)
  have notAppearance : loopMark ∉ appearanceFields tag :=
    loopMark_notMem (fun _ => isLabelled_appearanceFields) (by decide)
  have notModel : loopMark ∉ (DirectiveData.ofTag tag).model.toList :=
    loopMark_notMem (fun _ => isLabelled_model) (by decide)
  rw [← loopMark_mem_refFields_iff]
  simp only [dataFields, List.mem_append, notKey, notTag, notAppearance, notModel,
    @notField _ "directives:" _ (by decide), @notField _ "attrs:" _ (by decide),
    @notField _ "domProps:" _ (by decide), @notField _ "on:" _ (by decide),
    @notField _ "nativeOn:" _ (by decide), or_false, false_or]
  refine or_iff_left ?_
  cases scopedSlots with
  | none => exact loopMark_notMem (fun _ => isLabelled_slotField) (by decide)
  | some code =>
      refine @loopMark_notMem _ ["scopedSlots:_u("]
        (fun field member => ?_) (by decide)
      exact List.mem_singleton.mp member ▸ isLabelled_slots ofSlots rfl

end VuePrecompiler.Render
