import Mathlib
import Retouch.Element
import Retouch.Proofs.Span
import Retouch.Proofs.Step

/-!
# Locating elements

An element that is located stands at one of the places of markup in the document, and it is a
fragment only where fragments are looked for.
-/

namespace Retouch.Element

variable {document : Document} {query : Query} {element : Element}

/-- The element at a place stands there. -/
lemma place_of_ofPlace {place : Place} (h : ofPlace document place = .ok element) :
    element.place = place := by
  unfold ofPlace at h
  simp only at h
  split at h
  · cases h
    rfl
  · split at h <;>
    · rw [bind_eq_ok] at h
      obtain ⟨tag, _, h⟩ := h
      cases h
      rfl

/-- A search that succeeds has found an element that fits, at one of the places. -/
lemma search_eq_ok {scanned : Nat} {nearby : List NearbyElement} {places : List Place}
    (h : search document query scanned nearby places = .ok element) :
    element.place ∈ places ∧ ofPlace document element.place = .ok element ∧
    element.fits query = true ∧
      (element.node.isFragment = true → query.fragments = true) := by
  induction places generalizing scanned nearby with
  | nil => cases h
  | cons place places ih =>
    rw [search] at h
    split at h
    · obtain ⟨mem, rest⟩ := ih h
      exact ⟨List.mem_cons_of_mem place mem, rest⟩
    · rename_i counts
      simp only [bind_eq_ok, lift_eq_ok] at h
      obtain ⟨candidate, made, h⟩ := h
      split at h
      · rename_i fits
        cases h
        have same := place_of_ofPlace made
        refine ⟨?_, ?_, fits, ?_⟩
        · rw [same]
          exact List.mem_cons_self
        · rw [same]
          exact made
        · intro fragment
          rw [Element.node, same] at fragment
          simpa [fragment] using counts
      · obtain ⟨mem, rest⟩ := ih h
        exact ⟨List.mem_cons_of_mem place mem, rest⟩

/-- A search that fails has found nothing, or has met a place whose tag cannot be read. -/
lemma search_eq_error {scanned : Nat} {nearby : List NearbyElement} {places : List Place}
    {failure : Failure} (h : search document query scanned nearby places = .error failure) :
    failure.kind = .notFound ∨
      ∃ place ∈ places, ∃ defect, ofPlace document place = .error defect ∧
        failure = .unexpected defect := by
  induction places generalizing scanned nearby with
  | nil =>
    cases h
    exact .inl rfl
  | cons place places ih =>
    have later {scanned : Nat} {nearby : List NearbyElement}
        (h : search document query scanned nearby places = .error failure) :
          failure.kind = .notFound ∨
        ∃ other ∈ place :: places, ∃ defect, ofPlace document other = .error defect ∧
          failure = .unexpected defect := by
      rcases ih h with lost | ⟨other, mem, met⟩
      · exact .inl lost
      · exact .inr ⟨other, List.mem_cons_of_mem place mem, met⟩
    rw [search] at h
    split at h
    · exact later h
    · cases made : ofPlace document place with
      | error defect =>
        rw [made] at h
        cases h
        exact .inr ⟨place, List.mem_cons_self, defect, made, rfl⟩
      | ok candidate =>
        rw [made] at h
        simp only [lift_ok, ok_bind] at h
        split at h
        · cases h
        · exact later h

/-- The node of a located element is a node of the document, and an element or a fragment. -/
lemma node_of_locate (h : locate document query = .ok element) :
    element.node ∈ document.root.preorder ∧ element.node.kind.isMarkup = true := by
  obtain ⟨mem, _, _, _⟩ := search_eq_ok h
  obtain ⟨visited, markup⟩ := List.mem_filter.1 mem
  exact ⟨Place.node_mem_preorder visited, markup⟩

/-- An element that is located where fragments do not count has an opening tag with a name, or
closes itself. -/
lemma kind_of_locate (h : locate document query = .ok element) (plain : query.fragments = false) :
    (∃ tag, element.node.openingTag? = some tag) ∨ element.node.kind = .selfClosing := by
  obtain ⟨_, _, _, counts⟩ := search_eq_ok h
  have named : element.node.isFragment = false := by
    by_contra fragment
    rw [counts (by simpa using fragment)] at plain
    cases plain
  exact Node.kind_of_not_fragment (node_of_locate h).2 named

end Retouch.Element
