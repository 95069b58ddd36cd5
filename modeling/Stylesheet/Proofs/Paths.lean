import Stylesheet.Folder
import Stylesheet.Proofs.Lines

/-!
# The last part of a path

The last part of a path starts behind a slash or with the path, and behind it there are only slashes
and points that stand for a name. Every path has just one, which is nothing if there is no name in
the path but points (`Path.lastPart_iff`).
-/

namespace Stylesheet

namespace Path

/-- Slashes and points, each point a whole name behind a slash. -/
inductive IsIdleEnd : List Char → Prop where
  | nil : IsIdleEnd []
  | slash {s : List Char} : IsIdleEnd s → IsIdleEnd ('/' :: s)
  | point {s : List Char} : IsIdleEnd s → IsIdleEnd ('/' :: '.' :: s)

/-- The part of a path that says what it leads to. -/
inductive LastPart : List Char → List Char → Prop where
  | name (front : List Char) {name back : List Char} :
    (front = [] ∨ front.getLast? = some '/') → name ≠ [] → name ≠ ['.'] → '/' ∉ name →
      IsIdleEnd back → LastPart (front ++ name ++ back) name
  | none {path : List Char} : IsIdleEnd ('/' :: path) → LastPart path []

/-! ## There is one -/

theorem LastPart.cons_slash {path name : List Char} (h : LastPart path name) :
    LastPart ('/' :: path) name := by
  cases h with
  | none h => exact .none (.slash h)
  | @name front name back hfront hne hpoint hslash hback =>
    refine .name ('/' :: front) (.inr ?_) hne hpoint hslash hback
    rcases hfront with rfl | hfront
    · rfl
    · rw [List.getLast?_cons, hfront]
      rfl

/-- A character in front belongs to the last part if that is where the path starts. -/
theorem LastPart.exists_cons {c : Char} (hc : c ≠ '/') {path name : List Char}
    (h : LastPart path name) : ∃ name', LastPart (c :: path) name' := by
  cases h with
  | none h =>
    cases h with
    | slash h =>
      by_cases hpoint : c = '.'
      · subst hpoint
        exact ⟨[], .none (.point h)⟩
      · have hne : [c] ≠ ['.'] := fun h => hpoint (List.cons.inj h).1
        have hslash : '/' ∉ [c] := by simpa using hc.symm
        exact ⟨[c], .name [] (.inl rfl) (List.cons_ne_nil c []) hne hslash h⟩
    | point h =>
      have hne : [c, '.'] ≠ ['.'] := by simp
      have hslash : '/' ∉ [c, '.'] := by simpa using hc.symm
      exact ⟨[c, '.'], .name [] (.inl rfl) (List.cons_ne_nil c ['.']) hne hslash h⟩
  | @name front name back hfront hne hpoint hslash hback =>
    rcases front with _ | ⟨d, front⟩
    · refine ⟨c :: name, .name [] (.inl rfl) (List.cons_ne_nil _ _) ?_ ?_ hback⟩
      · exact fun h => hne (List.cons.inj h).2
      · simp [hc.symm, hslash]
    · refine ⟨name, .name (c :: d :: front) (.inr ?_) hne hpoint hslash hback⟩
      rw [List.getLast?_cons_cons]
      simpa using hfront

theorem exists_lastPart : ∀ path : List Char, ∃ name, LastPart path name
  | [] => ⟨[], .none (.slash .nil)⟩
  | c :: path => by
    obtain ⟨name, h⟩ := exists_lastPart path
    by_cases hc : c = '/'
    · subst hc
      exact ⟨name, h.cons_slash⟩
    · exact h.exists_cons hc

/-! ## There is no other -/

/-- The part is a name that stays where it is. -/
theorem isIdle_ofList {part : List Char} :
    isIdle (String.ofList part) = true ↔ part = [] ∨ part = ['.'] := by
  have hofList (s : String) : String.ofList part = s ↔ part = s.toList := by
    rw [← String.toList_inj, String.toList_ofList]
  simp [isIdle, hofList]

theorem IsIdleEnd.exists_partsAt {s : List Char} (h : IsIdleEnd s) :
    ∃ parts, partsAt '/' s = [] :: parts ∧ ∀ part ∈ parts, isIdle (String.ofList part) = true := by
  induction h with
  | nil => exact ⟨[], rfl, by simp⟩
  | slash h ih =>
    obtain ⟨parts, hs, hidle⟩ := ih
    refine ⟨[] :: parts, by simp [partsAt, hs], ?_⟩
    exact List.forall_mem_cons.2 ⟨isIdle_ofList.2 (.inl rfl), hidle⟩
  | point h ih =>
    obtain ⟨parts, hs, hidle⟩ := ih
    refine ⟨['.'] :: parts, by simp [partsAt, hs], ?_⟩
    exact List.forall_mem_cons.2 ⟨isIdle_ofList.2 (.inr rfl), hidle⟩

theorem IsIdleEnd.exists_partsAt_append {name back : List Char} (h : IsIdleEnd back)
    (hslash : '/' ∉ name) :
    ∃ parts, partsAt '/' (name ++ back) = name :: parts ∧
      ∀ part ∈ parts, isIdle (String.ofList part) = true := by
  obtain ⟨parts, hparts, hidle⟩ := h.exists_partsAt
  refine ⟨parts, ?_, hidle⟩
  rcases back with _ | ⟨c, back⟩
  · cases hparts
    rw [List.append_nil, partsAt_of_notMem hslash]
  · have hc : c = '/' := by cases h <;> rfl
    subst hc
    rw [partsAt_append_cons hslash]
    simpa [partsAt] using hparts

theorem exists_partsAt_front {front : List Char}
    (h : front = [] ∨ front.getLast? = some '/') (s : List Char) :
    ∃ before, partsAt '/' (front ++ s) = before ++ partsAt '/' s := by
  rcases h with rfl | h
  · exact ⟨[], rfl⟩
  · obtain ⟨front', rfl⟩ := List.getLast?_eq_some_iff.1 h
    refine ⟨partsAt '/' front', ?_⟩
    rw [List.append_assoc, List.singleton_append, partsAt_eq_splitOn, partsAt_eq_splitOn,
      partsAt_eq_splitOn, List.splitOn_append_cons_self]

/-- The names that go anywhere. -/
theorem filter_names_of_idle {parts : List (List Char)}
    (h : ∀ part ∈ parts, isIdle (String.ofList part) = true) :
    (parts.map String.ofList).filter (fun name => !isIdle name) = [] := by
  refine List.filter_eq_nil_iff.2 fun name hname => ?_
  obtain ⟨part, hpart, rfl⟩ := List.mem_map.1 hname
  simp [h part hpart]

theorem LastPart.eq_lastName {path name : String} (h : LastPart path.toList name.toList) :
    lastName path = name := by
  unfold lastName names
  generalize path.toList = p at h
  generalize hn : name.toList = n at h
  cases h with
  | none h =>
    obtain ⟨parts, hparts, hidle⟩ := h.exists_partsAt
    have hp : partsAt '/' p = parts := by simpa [partsAt] using hparts
    rw [hp, filter_names_of_idle hidle]
    exact String.toList_inj.1 hn.symm
  | @name front n back hfront hne hpoint hslash hback =>
    obtain ⟨before, hbefore⟩ := exists_partsAt_front hfront (n ++ back)
    obtain ⟨parts, hparts, hidle⟩ := hback.exists_partsAt_append hslash
    have hgoes : isIdle (String.ofList n) = false := by
      rw [← Bool.not_eq_true, isIdle_ofList]
      exact fun h => h.elim hne hpoint
    have hkept : (String.ofList n :: parts.map String.ofList).filter (fun name => !isIdle name)
        = [name] := by
      rw [List.filter_cons, hgoes, filter_names_of_idle hidle, ← hn, String.ofList_toList]
      rfl
    rw [List.append_assoc, hbefore, hparts, List.map_append, List.map_cons, List.filter_append,
      hkept, List.getLastD_concat]

theorem lastPart_iff {path name : String} :
    LastPart path.toList name.toList ↔ lastName path = name := by
  refine ⟨LastPart.eq_lastName, ?_⟩
  rintro rfl
  obtain ⟨name, h⟩ := exists_lastPart path.toList
  have hname : LastPart path.toList (String.ofList name).toList := by rwa [String.toList_ofList]
  rw [hname.eq_lastName]
  exact hname

end Path

end Stylesheet
