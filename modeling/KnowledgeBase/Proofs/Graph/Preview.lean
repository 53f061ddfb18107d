import KnowledgeBase.Graph.Node

/-!
# Previews are cut between characters

Content is cut after a number of bytes, which is found by counting characters.  The two measures
differ as soon as a character takes more than one byte, but the bytes before a character are those
of the characters before it, so that the cut never falls inside one.

## Main results

* `Node.previewEnd_eq_none_iff` — content is cut exactly if it is too long.
* `Node.preview_exact` — where a preview is cut, which characters it keeps, and what cutting again
  does to it.
-/

namespace KnowledgeBase.Node

theorem previewEnd_eq_none_iff {content : String} {limit : Nat} :
    previewEnd content limit = none ↔ content.length ≤ limit := by
  rw [previewEnd_eq, Option.map_eq_none_iff, List.getElem?_eq_none_iff, String.length_toList]

/-- **A preview is cut between characters.**  Content with more characters than the limit is cut
after a number of bytes where a character begins, and other content is kept whole.  Either way the
first characters are left, as many as the limit allows and the content has.  To cut the preview
again is to cut the content once, at the smaller limit. -/
theorem preview_exact (content : String) (limit : Nat) :
    (∀ n, previewEnd content limit = some n →
      ∃ h : Text.IsBoundary content n, preview content limit = Text.firstBytes content n h) ∧
    (previewEnd content limit = none ↔ content.length ≤ limit) ∧
    (preview content limit).toList = content.toList.take (min limit content.length) ∧
    ∀ n, preview (preview content limit) n = preview content (min limit n) := by
  refine ⟨?_, previewEnd_eq_none_iff, ?_, preview_preview content limit⟩
  · intro n hend
    exact ⟨isBoundary_previewEnd hend, preview_of_previewEnd hend⟩
  · rw [toList_preview, ← String.length_toList, ← List.take_eq_take_min]

/-- Two of six characters of two bytes each are cut after four bytes.  A cut after three would fall
inside a character. -/
theorem preview_exact_twoBytes :
    previewEnd "привет" 2 = some 4 ∧ ¬ Text.IsBoundary "привет" 3 ∧
      (∃ h : Text.IsBoundary "привет" 4, preview "привет" 2 = Text.firstBytes "привет" 4 h) ∧
      (preview "привет" 2).toList = ['п', 'р'] ∧
      preview (preview "привет" 2) 5 = preview "привет" 2 := by
  obtain ⟨hcut, -, hkept, htwice⟩ := preview_exact "привет" 2
  exact ⟨rfl, by decide +kernel, hcut 4 rfl, hkept, htwice 5⟩

end KnowledgeBase.Node
