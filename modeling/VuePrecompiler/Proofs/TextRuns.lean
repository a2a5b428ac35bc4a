import Mathlib.Data.List.Chain
import VuePrecompiler.Proofs.ChildItems
import VuePrecompiler.Proofs.References

/-!
# Runs of text

Neighbouring texts and interpolations are one text of the runtime.  It is a sum
of pieces in their order: each interpolation is one, and the texts between two
of them are one literal, unless they say nothing.  Runs of blank text are
dropped at both ends of a list of children, and one space in between.
-/

namespace VuePrecompiler.Render

open Template Source Javascript

/-! ## Pieces of a run -/

/-- The nodes of texts that follow each other. -/
def textNodes (texts : List (String × Span)) : List Node :=
  texts.map fun text => .text text.1 text.2

/-- What texts say one after the other, with characters in the place of references. -/
def saidBy (texts : List (String × Span)) : String :=
  String.join (texts.map fun text => decoded text.1)

/-- How a text is given by pieces: by one literal that stands for it, or by
none if it is empty. -/
inductive GivesText (text : String) : List String → Prop where
  | empty : text = "" → GivesText text []
  | literal {code : String} :
      text ≠ "" → StringLiteral.ofSource? code = some ⟨text, '"'⟩ →
        GivesText text [code]

/-- How a run of texts and interpolations is given by pieces, in the
order of its nodes. -/
inductive GivesRun : List Node → List String → Prop where
  | texts {texts : List (String × Span)} {pieces : List String} :
      GivesText (saidBy texts) pieces → GivesRun (textNodes texts) pieces
  | interpolation {texts : List (String × Span)} {pieces others : List String}
      {expression : Code} {span : Span} {rest : List Node} :
      GivesText (saidBy texts) pieces → GivesRun rest others →
      GivesRun (textNodes texts ++ .interpolation expression span :: rest)
        (pieces ++ ("_s(" ++ expression.trimmed ++ ")") :: others)

theorem decoded_eq_empty {content : String} (empty : decoded content = "") :
    content = "" := by
  have nothing : decodeReferences content.toList = [] :=
    String.ofList_eq_empty_iff.mp empty
  cases written : content.toList with
  | nil => exact String.toList_eq_nil_iff.mp written
  | cons c rest =>
      rw [written, decodeReferences] at nothing
      split at nothing
      · split at nothing <;> contradiction
      · contradiction

theorem eq_empty_of_join {texts : List String} (empty : String.join texts = "") :
    ∀ text ∈ texts, text = "" := by
  have nothing : texts.flatMap String.toList = [] := by
    rw [← String.toList_join, empty, String.toList_empty]
  intro text member
  exact String.toList_eq_nil_iff.mp (List.flatMap_eq_nil_iff.mp nothing text member)

/-- A run that says something is given by at least one piece. -/
theorem GivesRun.ne_nil {nodes : List Node} {pieces : List String}
    (gives : GivesRun nodes pieces) (said : nodes.all isBlankNode = false) :
    pieces ≠ [] := by
  rintro rfl
  generalize empty : ([] : List String) = pieces at gives
  cases gives with
  | interpolation => simp at empty
  | texts gives =>
      subst empty
      cases gives with
      | empty nothing =>
          rename_i texts
          obtain ⟨node, member, notBlank⟩ := List.all_eq_false.mp said
          obtain ⟨text, inTexts, rfl⟩ := List.mem_map.mp member
          have part : decoded text.1 = "" :=
            eq_empty_of_join nothing _ (List.mem_map_of_mem inTexts)
          refine notBlank ?_
          rw [isBlankNode, decoded_eq_empty part]
          rfl

/-! ## Maximal runs -/

namespace ChildItem

def nodes : ChildItem → List Node
  | .run nodes => nodes
  | .single node _ => [node]

end ChildItem

/-! ## Lists of children -/

end VuePrecompiler.Render
