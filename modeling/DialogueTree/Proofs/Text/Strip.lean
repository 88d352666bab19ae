import DialogueTree.Text.Strip
import Mathlib.Logic.Relation

/-!
# Texts without a part

Taking a part out of a text is a loop: as long as the part occurs, one pass takes out what a search
from the left finds. A pass may put two halves of the part together, so what it leaves may have
occurrences that were not there before. The loop still ends, because each round takes out at least
one occurrence, and it ends where there is none left. A pass does nothing but delete single
occurrences, one after another; so all rounds together do no more than that.

Results:
* `deletions_removeFound`: a pass deletes single occurrences.
* `length_removeFound_lt_iff`: a pass finds something exactly if the part occurs.
* `rounds_stripChars`: the loop ends, and what it ends with is the stripped text.
* `strip_normal_form`: what is left of a text.
-/

namespace DialogueTree.Text

open Relation

variable {part cs rest : List Char} {a : Char} {as : List Char}

/-! ## Deleting one occurrence -/

/-- Whether `rest` is `cs` without one occurrence of a part. -/
def Deletes (part cs rest : List Char) : Prop :=
  ∃ before after, cs = before ++ part ++ after ∧ rest = before ++ after

theorem Deletes.cons (c : Char) (h : Deletes part cs rest) :
    Deletes part (c :: cs) (c :: rest) := by
  obtain ⟨before, after, rfl, rfl⟩ := h
  exact ⟨c :: before, after, rfl, rfl⟩

theorem deletes_drop (h : as <+: cs) : Deletes (a :: as) (a :: cs) (cs.drop as.length) := by
  refine ⟨[], cs.drop as.length, ?_, rfl⟩
  simp [List.prefix_iff_eq_append.mp h]

theorem Deletes.length_eq (h : Deletes part cs rest) : cs.length = rest.length + part.length := by
  obtain ⟨before, after, rfl, rfl⟩ := h
  simp only [List.length_append]
  omega

/-- Deletions shorten a text by a multiple of the length of the part. -/
theorem exists_length_eq_of_deletions (h : ReflTransGen (Deletes part) cs rest) :
    ∃ k, cs.length = rest.length + k * part.length := by
  induction h with
  | refl => exact ⟨0, by simp⟩
  | tail _ hlast ih =>
    obtain ⟨k, hk⟩ := ih
    exact ⟨k + 1, by rw [hk, hlast.length_eq, Nat.succ_mul]; omega⟩

/-- What is found at least once is deleted at least once. -/
theorem length_le_of_deletions (h : TransGen (Deletes part) cs rest) :
    rest.length + part.length ≤ cs.length := by
  induction h with
  | single hfirst => exact Nat.le_of_eq hfirst.length_eq.symm
  | tail _ hlast ih =>
    have hlength := hlast.length_eq
    omega

/-! ## One pass -/

/-- A pass deletes single occurrences. -/
theorem deletions_removeFound (a : Char) (as cs : List Char) :
    ReflTransGen (Deletes (a :: as)) cs (removeFound a as cs) := by
  induction cs using removeFound.induct a as with
  | case1 =>
    rw [removeFound]
  | case2 c cs hfound ih =>
    rw [removeFound, if_pos hfound]
    obtain ⟨rfl, hprefix⟩ := hfound
    exact .head (deletes_drop (List.isPrefixOf_iff_prefix.mp hprefix)) ih
  | case3 c cs hmissed ih =>
    rw [removeFound, if_neg hmissed]
    exact ReflTransGen.lift (c :: ·) (fun _ _ h => h.cons c) _ _ ih

/-- A pass over a text in which the part occurs deletes something. Occurrences that overlap one
which is found do not get in the way: the search goes on behind it, with at least one deleted. -/
theorem deletions_removeFound_of_occurs (h : a :: as <:+: cs) :
    TransGen (Deletes (a :: as)) cs (removeFound a as cs) := by
  induction cs using removeFound.induct a as with
  | case1 => simp at h
  | case2 c cs hfound _ =>
    rw [removeFound, if_pos hfound]
    obtain ⟨rfl, hprefix⟩ := hfound
    exact .head' (deletes_drop (List.isPrefixOf_iff_prefix.mp hprefix))
      (deletions_removeFound c as _)
  | case3 c cs hmissed ih =>
    rw [removeFound, if_neg hmissed]
    rcases List.infix_cons_iff.mp h with hhere | hlater
    · obtain ⟨rfl, hprefix⟩ := List.cons_prefix_cons.mp hhere
      exact absurd ⟨rfl, List.isPrefixOf_iff_prefix.mpr hprefix⟩ hmissed
    · exact TransGen.lift (c :: ·) (fun _ _ h => h.cons c) _ _ (ih hlater)

/-- A pass leaves a text alone in which the part does not occur. -/
theorem removeFound_eq_self (h : ¬a :: as <:+: cs) : removeFound a as cs = cs := by
  induction cs using removeFound.induct a as with
  | case1 => rw [removeFound]
  | case2 c cs hfound _ =>
    obtain ⟨rfl, hprefix⟩ := hfound
    have hhere : c :: as <+: c :: cs :=
      List.cons_prefix_cons.mpr ⟨rfl, List.isPrefixOf_iff_prefix.mp hprefix⟩
    exact absurd hhere.isInfix h
  | case3 c cs hmissed ih =>
    rw [removeFound, if_neg hmissed, ih fun hlater => h (List.infix_cons_iff.mpr (.inr hlater))]

/-- A pass finds something exactly if the part occurs. -/
theorem length_removeFound_lt_iff :
    (removeFound a as cs).length < cs.length ↔ a :: as <:+: cs := by
  constructor
  · intro hlt
    refine Decidable.byContradiction fun hnone => ?_
    rw [removeFound_eq_self hnone] at hlt
    exact Nat.lt_irrefl _ hlt
  · intro h
    have hle := length_le_of_deletions (deletions_removeFound_of_occurs h)
    rw [List.length_cons] at hle
    omega

/-! ## All passes -/

/-- The loop that takes a part out of a text, with the number of its rounds: as long as the part
occurs there is another pass. -/
inductive Rounds (a : Char) (as : List Char) : Nat → List Char → List Char → Prop
  | done {cs : List Char} : ¬a :: as <:+: cs → Rounds a as 0 cs cs
  | again {k : Nat} {cs rest : List Char} : a :: as <:+: cs →
      Rounds a as k (removeFound a as cs) rest → Rounds a as (k + 1) cs rest

namespace Rounds

variable {k : Nat}

theorem part_absent (h : Rounds a as k cs rest) : ¬a :: as <:+: rest := by
  induction h with
  | done hnone => exact hnone
  | again _ _ ih => exact ih

theorem deletions (h : Rounds a as k cs rest) : ReflTransGen (Deletes (a :: as)) cs rest := by
  induction h with
  | done => exact .refl
  | again _ _ ih => exact (deletions_removeFound a as _).trans ih

/-- There are no more rounds than the part fits into the text one after another. -/
theorem bounded (h : Rounds a as k cs rest) : k * (a :: as).length ≤ cs.length := by
  induction h with
  | done => omega
  | again hoccurs _ ih =>
    have hle := length_le_of_deletions (deletions_removeFound_of_occurs hoccurs)
    rw [Nat.succ_mul]
    omega

end Rounds

/-- The loop ends, and what it ends with is the stripped text. -/
theorem rounds_stripChars (a : Char) (as cs : List Char) :
    ∃ k, Rounds a as k cs (stripChars a as cs) := by
  induction cs using stripChars.induct a as with
  | case1 cs hshorter ih =>
    obtain ⟨k, hk⟩ := ih
    rw [stripChars, if_pos hshorter]
    exact ⟨k + 1, .again (length_removeFound_lt_iff.mp hshorter) hk⟩
  | case2 cs hsame =>
    rw [stripChars, if_neg hsame]
    exact ⟨0, .done fun hoccurs => hsame (length_removeFound_lt_iff.mpr hoccurs)⟩

theorem strip_empty (text : String) : strip text "" = text := rfl

theorem strip_of_cons {part : String} (h : part.toList = a :: as) (text : String) :
    strip text part = String.ofList (stripChars a as text.toList) := by
  unfold strip
  rw [h]

/-- For the empty part nothing is taken out of a text. For any other part the loop ends, after no
more rounds than the part fits into the text; the part does not occur in what is left; and what is
left comes of the text by deleting single occurrences of the part, one after another. So a text
without the part stays as it is, and any text gets shorter by a multiple of the length of the
part. -/
theorem strip_normal_form (text part : String) :
    (part = "" → strip text part = text) ∧
    ∀ a as, part.toList = a :: as →
      (∃ rounds, Rounds a as rounds text.toList (strip text part).toList ∧
        rounds * part.length ≤ text.length) ∧
      ¬part.toList <:+: (strip text part).toList ∧
      ReflTransGen (Deletes part.toList) text.toList (strip text part).toList ∧
      (¬part.toList <:+: text.toList → strip text part = text) ∧
      ∃ k, text.length = (strip text part).length + k * part.length := by
  constructor
  · rintro rfl
    exact strip_empty text
  · intro a as hpart
    obtain ⟨rounds, hrounds⟩ := rounds_stripChars a as text.toList
    obtain ⟨k, hk⟩ := exists_length_eq_of_deletions hrounds.deletions
    rw [strip_of_cons hpart, ← part.length_toList, ← text.length_toList, hpart,
      ← String.length_toList, String.toList_ofList]
    refine ⟨⟨rounds, hrounds, hrounds.bounded⟩, hrounds.part_absent, hrounds.deletions, ?_, k, hk⟩
    intro hnone
    rw [stripChars, removeFound_eq_self hnone, if_neg (Nat.lt_irrefl _), String.ofList_toList]

/-- Where one occurrence is taken out of the middle of another, a second pass takes out the one that
its halves make. -/
theorem strip_nested :
    "ab".toList = ['a', 'b'] ∧ strip "aabbx" "ab" = "x" ∧ strip "aabbx" "" = "aabbx" ∧
    (∃ rounds, Rounds 'a' ['b'] rounds "aabbx".toList "x".toList ∧ rounds * 2 ≤ 5) ∧
    ReflTransGen (Deletes "ab".toList) "aabbx".toList "x".toList := by
  have hstrip : strip "aabbx" "ab" = "x" := by decide +kernel
  obtain ⟨⟨rounds, hrounds, hbound⟩, -, hdeletions, -, -⟩ :=
    (strip_normal_form "aabbx" "ab").2 'a' ['b'] rfl
  rw [hstrip] at hrounds hdeletions
  exact ⟨rfl, hstrip, (strip_normal_form "aabbx" "").1 rfl, ⟨rounds, hrounds, hbound⟩, hdeletions⟩

end DialogueTree.Text
