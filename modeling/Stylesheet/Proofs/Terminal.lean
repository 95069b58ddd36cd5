import Stylesheet.Text.Terminal

/-!
# Texts without terminal sequences

What has no escape in it has no sequence in it, so it stays as it is. A text is cleared piece by
piece where the first piece has no escape (`dropSequences_append`), and on both sides of a character
that no sequence goes over (`dropSequences_append_cons`).
-/

namespace Stylesheet

/-- The characters that a terminal sequence is made of. -/
def isInSequence (c : Char) : Bool :=
  c = '\x1b' || c = '[' || isParameter c || isLetter c

theorem dropSequences_cons {c : Char} {s : List Char}
    (h : c = '\x1b' → s.head? ≠ some '[') : dropSequences (c :: s) = c :: dropSequences s := by
  rw [dropSequences]
  rintro rest rfl rfl
  exact h rfl rfl

theorem dropSequences_append {u : List Char} (h : '\x1b' ∉ u) (v : List Char) :
    dropSequences (u ++ v) = u ++ dropSequences v := by
  induction u with
  | nil => rfl
  | cons c u ih =>
    have hc : c ≠ '\x1b' := fun hc => h (hc ▸ List.mem_cons_self)
    rw [List.cons_append, dropSequences_cons fun he => absurd he hc,
      ih fun hu => h (List.mem_cons_of_mem _ hu), List.cons_append]

theorem dropSequences_of_notMem {u : List Char} (h : '\x1b' ∉ u) : dropSequences u = u := by
  have hu := dropSequences_append h []
  rwa [dropSequences, List.append_nil] at hu

theorem dropSequences_sequence {c : Char} {rest rest' : List Char}
    (h : rest.dropWhile isParameter = c :: rest') (hc : isLetter c = true) :
    dropSequences ('\x1b' :: '[' :: rest) = dropSequences rest' := by
  rw [dropSequences]
  split <;> rename_i hrest <;> rw [h] at hrest <;> cases hrest
  rw [if_pos hc]

theorem dropSequences_bracket {rest : List Char}
    (h : ∀ c ∈ (rest.dropWhile isParameter).head?, isLetter c = false) :
    dropSequences ('\x1b' :: '[' :: rest) = '\x1b' :: dropSequences ('[' :: rest) := by
  rw [dropSequences]
  split
  · rename_i c rest' hrest
    have hc : isLetter c = false := h c (by rw [hrest]; rfl)
    rw [if_neg (by simp [hc])]
  · rfl

theorem mem_of_mem_dropSequences {c : Char} {s : List Char} (h : c ∈ dropSequences s) : c ∈ s := by
  fun_induction dropSequences s with
  | case1 => exact h
  | case2 rest d rest' hrest hd ih =>
    have hsuffix := List.dropWhile_suffix (l := rest) isParameter
    rw [hrest] at hsuffix
    have hmem : c ∈ rest := hsuffix.subset (List.mem_cons_of_mem _ (ih h))
    exact List.mem_cons_of_mem _ (List.mem_cons_of_mem _ hmem)
  | case3 rest d rest' hrest hd ih =>
    rcases List.mem_cons.1 h with rfl | h
    · exact List.mem_cons_self
    · exact List.mem_cons_of_mem _ (ih h)
  | case4 rest hrest ih =>
    rcases List.mem_cons.1 h with rfl | h
    · exact List.mem_cons_self
    · exact List.mem_cons_of_mem _ (ih h)
  | case5 d rest hd ih =>
    rcases List.mem_cons.1 h with rfl | h
    · exact List.mem_cons_self
    · exact List.mem_cons_of_mem _ (ih h)

theorem dropSequences_append_cons {c : Char} (hc : isInSequence c = false) (u v : List Char) :
    dropSequences (u ++ c :: v) = dropSequences u ++ c :: dropSequences v := by
  simp only [isInSequence, Bool.or_eq_false_iff, decide_eq_false_iff_not] at hc
  obtain ⟨⟨⟨hescape, hbracket⟩, hparameter⟩, hletter⟩ := hc
  have hdrop (s : List Char) :
      (s ++ c :: v).dropWhile isParameter = s.dropWhile isParameter ++ c :: v := by
    rw [List.dropWhile_append]
    split
    · rename_i h
      rw [List.isEmpty_iff.1 h, List.dropWhile_cons_of_neg (by simp [hparameter]), List.nil_append]
    · rfl
  fun_induction dropSequences u with
  | case1 => exact dropSequences_cons fun he => absurd he hescape
  | case2 rest d rest' hrest hd ih =>
    have hrest' : (rest ++ c :: v).dropWhile isParameter = d :: (rest' ++ c :: v) := by
      rw [hdrop, hrest, List.cons_append]
    exact (dropSequences_sequence hrest' hd).trans ih
  | case3 rest d rest' hrest hd ih =>
    have hhead : ∀ e ∈ ((rest ++ c :: v).dropWhile isParameter).head?, isLetter e = false := by
      simpa [hdrop, hrest] using hd
    exact (dropSequences_bracket hhead).trans (congrArg _ ih)
  | case4 rest hrest ih =>
    have hhead : ∀ e ∈ ((rest ++ c :: v).dropWhile isParameter).head?, isLetter e = false := by
      simpa [hdrop, hrest] using hletter
    exact (dropSequences_bracket hhead).trans (congrArg _ ih)
  | case5 d rest hd ih =>
    have hnone : d = '\x1b' → (rest ++ c :: v).head? ≠ some '[' := by
      rintro rfl
      rcases rest with _ | ⟨e, rest⟩
      · simpa using hbracket
      · rintro he
        obtain rfl : e = '[' := by simpa using he
        exact hd rest rfl rfl
    exact (dropSequences_cons hnone).trans (congrArg _ ih)

/-! ## Strings -/

/-- A text that no sequence starts in. -/
def EscapeFree (s : String) : Prop :=
  '\x1b' ∉ s.toList

instance (s : String) : Decidable (EscapeFree s) :=
  inferInstanceAs (Decidable (¬ _))

namespace EscapeFree

theorem append {s t : String} (hs : EscapeFree s) (ht : EscapeFree t) : EscapeFree (s ++ t) := by
  rw [EscapeFree, String.toList_append, List.mem_append, not_or]
  exact ⟨hs, ht⟩

theorem join {l : List String} (h : ∀ s ∈ l, EscapeFree s) : EscapeFree (String.join l) := by
  rw [EscapeFree, String.toList_join, List.mem_flatMap]
  rintro ⟨s, hs, he⟩
  exact h s hs he

theorem plainText_eq {s : String} (h : EscapeFree s) : plainText s = s := by
  rw [plainText, dropSequences_of_notMem h, String.ofList_toList]

theorem plainText_append {s : String} (h : EscapeFree s) (t : String) :
    plainText (s ++ t) = s ++ plainText t := by
  rw [plainText, String.toList_append, dropSequences_append h, String.ofList_append,
    String.ofList_toList, plainText]

end EscapeFree

theorem plainText_append_of_head? {c : Char} {t : String} (s : String)
    (ht : t.toList.head? = some c) (hc : isInSequence c = false) :
    plainText (s ++ t) = plainText s ++ plainText t := by
  obtain ⟨v, hv⟩ := List.head?_eq_some_iff.1 ht
  have hcons : dropSequences (c :: v) = c :: dropSequences v := by
    rw [← List.nil_append (c :: v), dropSequences_append_cons hc, dropSequences, List.nil_append]
  rw [plainText, plainText, plainText, String.toList_append, hv, dropSequences_append_cons hc,
    hcons, String.ofList_append]

end Stylesheet
