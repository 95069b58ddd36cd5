import Stylesheet.Proofs.Places
import Stylesheet.Proofs.Relayout
import Stylesheet.Proofs.Utf8
import Stylesheet.Source

/-!
# Line ends in files

A text that is read from a file has line feeds for all its line ends. That lays the text out anew,
since both characters that can end a line are blanks (`relayout_unifyNewlines`), so it is parsed as
the same sheet or fails for the same cause.

If carriage returns stand only before line feeds, nobody can tell the difference but by the offset.
Then line ends are unified by leaving the carriage returns out (`unifyNewlines_eq_filter`). None of
them stands between the start of a line and a failure in it, so the column stays, and the one at the
end of the line is not shown anyway (`ReturnsPaired.lineAt_eq`).
-/

namespace Stylesheet

/-! ## Unified line ends -/

theorem unifyNewlines_cons {c : Char} (hc : c ≠ '\r') (s : List Char) :
    unifyNewlines (c :: s) = c :: unifyNewlines s := by
  rw [unifyNewlines]
  · exact fun _ h => absurd h hc
  · exact hc

theorem unifyNewlines_return {s : List Char} (hs : s.head? ≠ some '\n') :
    unifyNewlines ('\r' :: s) = '\n' :: unifyNewlines s := by
  rw [unifyNewlines]
  rintro rest rfl
  simp at hs

theorem getLast?_cons_eq_some {c d : Char} {s : List Char} (h : s.getLast? = some c) :
    (d :: s).getLast? = some c := by
  simp [List.getLast?_cons, h]

theorem unifyNewlines_append {u v : List Char}
    (h : u.getLast? = some '\r' → v.head? ≠ some '\n') :
    unifyNewlines (u ++ v) = unifyNewlines u ++ unifyNewlines v := by
  fun_induction unifyNewlines u with
  | case1 => rfl
  | case2 rest ih =>
    rw [List.cons_append, List.cons_append, unifyNewlines,
      ih fun hl => h (getLast?_cons_eq_some (getLast?_cons_eq_some hl)), List.cons_append]
  | case3 rest hrest ih =>
    -- The carriage return may be the last character in front of the cut.
    have hhead : (rest ++ v).head? ≠ some '\n' := by
      rcases rest with _ | ⟨d, rest⟩
      · exact h rfl
      · intro hd
        obtain rfl : d = '\n' := by simpa using hd
        exact hrest rest rfl
    rw [List.cons_append, unifyNewlines_return hhead, ih fun hl => h (getLast?_cons_eq_some hl),
      List.cons_append]
  | case4 c rest hc hc' ih =>
    rw [List.cons_append, unifyNewlines_cons hc', ih fun hl => h (getLast?_cons_eq_some hl),
      List.cons_append]

theorem mem_unifyNewlines {c : Char} {s : List Char} (h : c ∈ unifyNewlines s) :
    c = '\n' ∨ c ∈ s := by
  fun_induction unifyNewlines s with
  | case1 => cases h
  | case2 rest ih =>
    rcases List.mem_cons.1 h with rfl | h
    · exact .inl rfl
    · exact (ih h).imp_right fun h => List.mem_cons_of_mem _ (List.mem_cons_of_mem _ h)
  | case3 rest hrest ih =>
    rcases List.mem_cons.1 h with rfl | h
    · exact .inl rfl
    · exact (ih h).imp_right (List.mem_cons_of_mem _)
  | case4 d rest hd hd' ih =>
    rcases List.mem_cons.1 h with rfl | h
    · exact .inr List.mem_cons_self
    · exact (ih h).imp_right (List.mem_cons_of_mem _)

theorem unifyNewlines_ne_nil {s : List Char} (h : s ≠ []) : unifyNewlines s ≠ [] := by
  fun_cases unifyNewlines s with
  | case1 => exact absurd rfl h
  | case2 => exact List.cons_ne_nil _ _
  | case3 => exact List.cons_ne_nil _ _
  | case4 => exact List.cons_ne_nil _ _

theorem relayout_unifyNewlines : Relayout unifyNewlines where
  append {u v} h := by
    refine unifyNewlines_append fun hu hv => ?_
    rcases h with h | h
    · have := h '\r' (by rw [List.head?_reverse, hu]; rfl)
      cases this
    · have := h '\n' (by rw [hv]; rfl)
      cases this
  char {c} hc := by
    have hr : c ≠ '\r' := by
      rintro rfl
      cases hc
    rw [unifyNewlines_cons hr, unifyNewlines]
  blanks hw c hc := by
    rcases mem_unifyNewlines hc with rfl | hc
    · rfl
    · exact hw c hc
  ne_nil _ := unifyNewlines_ne_nil

/-! ## Carriage returns -/

/-- Carriage returns stand only before line feeds. -/
def ReturnsPaired (text : List Char) : Prop :=
  ∀ i < text.length, text[i]? = some '\r' → text[i + 1]? = some '\n'

instance (text : List Char) : Decidable (ReturnsPaired text) :=
  inferInstanceAs (Decidable (∀ i < text.length, _))

theorem returnsPaired_iff {text : List Char} :
    ReturnsPaired text ↔ ∀ u v, text = u ++ '\r' :: v → v.head? = some '\n' := by
  refine ⟨?_, fun h i hi hr => ?_⟩
  · rintro h u v rfl
    have hv := h u.length (by simp) (by simp)
    simpa [List.getElem?_append_right, List.head?_eq_getElem?] using hv
  · have hcut := List.take_append_drop i text
    rw [List.getElem?_eq_getElem hi, Option.some.injEq] at hr
    rw [List.drop_eq_getElem_cons hi, hr] at hcut
    have hhead := h _ _ hcut.symm
    rwa [List.head?_drop] at hhead

theorem ReturnsPaired.of_append {u v : List Char} (h : ReturnsPaired (u ++ v)) :
    ReturnsPaired v := by
  refine returnsPaired_iff.2 ?_
  rintro x y rfl
  exact returnsPaired_iff.1 h (u ++ x) y (by simp)

theorem ReturnsPaired.of_parted {u v : List Char} (h : ReturnsPaired (u ++ v))
    (hp : Parted u v) : ReturnsPaired u := by
  refine returnsPaired_iff.2 ?_
  rintro x y rfl
  have hhead := returnsPaired_iff.1 h x (y ++ v) (by simp)
  -- A carriage return at the cut would be parted from its line feed, and both are blanks.
  rcases y with _ | ⟨c, y⟩
  · rcases hp with hp | hp
    · have := hp '\r' (by simp)
      cases this
    · have := hp '\n' hhead
      cases this
  · exact hhead

theorem unifyNewlines_eq_filter {text : List Char} (h : ReturnsPaired text) :
    unifyNewlines text = text.filter (· ≠ '\r') := by
  fun_induction unifyNewlines text with
  | case1 => rfl
  | case2 rest ih =>
    rw [ih (h.of_append (u := ['\r', '\n']))]
    simp
  | case3 rest hrest ih =>
    obtain ⟨rest, rfl⟩ := List.head?_eq_some_iff.1 (returnsPaired_iff.1 h [] rest rfl)
    exact absurd rfl (hrest rest)
  | case4 c rest hc hc' ih =>
    rw [ih (h.of_append (u := [c])), List.filter_cons_of_pos (by simpa using hc')]

/-! ## What is shown of a line -/

theorem dropFinalReturns_of_notMem {line : List Char} (h : '\r' ∉ line) :
    dropFinalReturns line = line := by
  unfold dropFinalReturns
  rcases hr : line.reverse with _ | ⟨c, rest⟩
  · exact (List.reverse_eq_nil_iff.1 hr).symm
  · have hc : c ≠ '\r' := by
      rintro rfl
      exact h (List.mem_reverse.1 (hr ▸ List.mem_cons_self))
    rw [List.dropWhile_cons_of_neg (by simpa using hc), ← hr, List.reverse_reverse]

theorem filter_return_eq_self {s : List Char} (h : '\r' ∉ s) : s.filter (· ≠ '\r') = s := by
  refine List.filter_eq_self.2 fun c hc => ?_
  simpa using fun hr : c = '\r' => h (hr ▸ hc)

theorem dropFinalReturns_eq_filter {line : List Char}
    (h : ∀ x y, line = x ++ '\r' :: y → y = []) :
    dropFinalReturns line = line.filter (· ≠ '\r') := by
  by_cases hr : '\r' ∈ line
  · obtain ⟨x, y, rfl⟩ := List.append_of_mem hr
    obtain rfl := h x y rfl
    have hx : '\r' ∉ x := by
      intro hx
      obtain ⟨x₁, x₂, rfl⟩ := List.append_of_mem hx
      have hnil := h x₁ (x₂ ++ ['\r']) (by simp)
      simp at hnil
    have hlast : dropFinalReturns (x ++ ['\r']) = dropFinalReturns x := by
      simp [dropFinalReturns]
    rw [hlast, dropFinalReturns_of_notMem hx, List.filter_append, filter_return_eq_self hx]
    simp
  · rw [dropFinalReturns_of_notMem hr, filter_return_eq_self hr]

theorem firstLine_filter (v : List Char) :
    firstLine (v.filter (· ≠ '\r')) = (firstLine v).filter (· ≠ '\r') := by
  have hstop : (fun c : Char => !decide (c ≠ '\r') || decide (c ≠ '\n'))
      = fun c => decide (c ≠ '\n') := by
    funext c
    by_cases hc : c = '\r'
    · subst hc
      rfl
    · simp [hc]
  unfold firstLine
  rw [List.takeWhile_filter, hstop]

theorem lastLine_filter (u : List Char) :
    lastLine (u.filter (· ≠ '\r')) = (lastLine u).filter (· ≠ '\r') := by
  rw [lastLine, ← List.filter_reverse, firstLine_filter, ← List.filter_reverse, lastLine]

theorem ReturnsPaired.return_notMem_lastLine {u : List Char} (h : ReturnsPaired u) :
    '\r' ∉ lastLine u := by
  intro hr
  obtain ⟨x, y, hxy⟩ := List.append_of_mem hr
  obtain ⟨front, hu⟩ := exists_lastLine u
  have hy := returnsPaired_iff.1 h (front ++ x) y (by rw [List.append_assoc, ← hxy, ← hu])
  refine newline_notMem_lastLine u ?_
  rw [hxy]
  exact List.mem_append_right _ (List.mem_cons_of_mem _ (List.mem_of_mem_head? hy))

theorem ReturnsPaired.eq_nil_of_firstLine {v x y : List Char} (h : ReturnsPaired v)
    (hxy : firstLine v = x ++ '\r' :: y) : y = [] := by
  obtain ⟨rest, hv⟩ := exists_firstLine v
  have hy := returnsPaired_iff.1 h x (y ++ rest) (by rw [hv, hxy]; simp)
  rcases y with _ | ⟨c, y⟩
  · rfl
  · obtain rfl : c = '\n' := by simpa using hy
    exact absurd (by rw [hxy]; simp) (newline_notMem_firstLine v)

theorem ReturnsPaired.lineAt_eq {u v : List Char} (hu : ReturnsPaired u) (hv : ReturnsPaired v) :
    lineAt (unifyNewlines u ++ unifyNewlines v) (unifyNewlines u).length
      = lineAt (u ++ v) u.length := by
  have hlast := hu.return_notMem_lastLine
  have hend : ∀ x y, lastLine u ++ firstLine v = x ++ '\r' :: y → y = [] := by
    intro x y hxy
    rcases List.append_eq_append_iff.1 hxy with ⟨x', -, hx'⟩ | ⟨_ | ⟨c, z⟩, hz, hy⟩
    · exact hv.eq_nil_of_firstLine hx'
    · exact hv.eq_nil_of_firstLine (x := []) hy.symm
    · obtain ⟨rfl, -⟩ := List.cons.inj hy
      exact absurd (by rw [hz]; simp) hlast
  have hnone : '\r' ∉ (lastLine u ++ firstLine v).filter (· ≠ '\r') := by simp
  rw [lineAt_append, lineAt_append, unifyNewlines_eq_filter hu, unifyNewlines_eq_filter hv,
    lastLine_filter, firstLine_filter, ← List.filter_append, dropFinalReturns_of_notMem hnone,
    dropFinalReturns_eq_filter hend]

/-! ## Texts in files -/

theorem ReturnsPaired.length_unifyNewlines {u : List Char} (h : ReturnsPaired u) :
    (unifyNewlines u).length + u.count '\r' = u.length := by
  have hlen := (List.length_eq_countP_add_countP (l := u) (· == '\r')).symm
  rw [unifyNewlines_eq_filter h, ← List.countP_eq_length_filter, Nat.add_comm]
  simpa [List.count] using hlen

theorem ReturnsPaired.count_unifyNewlines {u : List Char} (h : ReturnsPaired u) :
    (unifyNewlines u).count '\n' = u.count '\n' := by
  rw [unifyNewlines_eq_filter h, List.count_filter (by decide)]

/-- The second report is of the same failure in a text without the carriage returns. -/
structure Report.WithoutReturns (text : List Char) (r r' : Report) : Prop where
  offset : ∃ k : Nat, r.offset = k ∧ r'.offset = k - (text.take k).count '\r'
  place : r'.place = r.place
  texts : r'.texts = r.texts

theorem Breach.At.report_unifyNewlines {b : Breach} {text : List Char} {k : Nat}
    (h : b.At text k) (ht : ReturnsPaired text) :
    (b.report text k).WithoutReturns text
      (b.report (unifyNewlines text) (unifyNewlines (text.take k)).length) := by
  obtain ⟨u, v, rfl, rfl, hp⟩ := h.exists_parted
  have hu := ht.of_parted hp
  have hv := ht.of_append
  have hlast : lastLine (unifyNewlines u) = lastLine u := by
    rw [unifyNewlines_eq_filter hu, lastLine_filter,
      filter_return_eq_self hu.return_notMem_lastLine]
  have hplace : Location.ofOffset (unifyNewlines u ++ unifyNewlines v) (unifyNewlines u).length
      = Location.ofOffset (u ++ v) u.length := by
    rw [Location.ofOffset_append, Location.ofOffset_append, hu.count_unifyNewlines, hlast]
  have hpoint : Notice.point (unifyNewlines u ++ unifyNewlines v) (unifyNewlines u).length
      b.cause.message = Notice.point (u ++ v) u.length b.cause.message := by
    simp only [Notice.point, hplace, hu.lineAt_eq hv]
  rw [relayout_unifyNewlines.append hp, List.take_left]
  refine ⟨⟨u.length, rfl, ?_⟩, ?_, ?_⟩
  · have hlen := hu.length_unifyNewlines
    rw [List.take_left]
    simp only [Breach.report]
    omega
  · exact congrArg some hplace
  · simp only [Breach.report, hpoint]

theorem readSource_encode {files : Files} {path : String} {text : List Char}
    (hfile : readBytes files path = .ok (Encoding.Utf8.encode text)) :
    readSource files path "utf-8" = .ok (unifyNewlines text) := by
  have hnull : hasNull "utf-8" = false := by decide
  have hname : Encoding.ofName "utf-8" = .ok .utf8 := rfl
  have hdecode : Encoding.utf8.decode (Encoding.Utf8.encode text) = .ok text := by
    rw [Encoding.decode, Encoding.Utf8.decode_encode, mapError_ok]
  simp only [readSource, hnull, Bool.false_eq_true, if_false, hfile, hname, mapError_ok, hdecode,
    bind, Except.bind, pure, Except.pure]

section

variable {text : List Char} (ht : ReturnsPaired text)

include ht

theorem ReturnsPaired.alike :
    Alike Eq (Report.WithoutReturns text) (Sheet.parse text) (Sheet.parse (unifyNewlines text)) :=
  relayout_unifyNewlines.alike fun h => h.report_unifyNewlines ht

theorem ReturnsPaired.sentOn_parse :
    sentOn (Sheet.parse (unifyNewlines text)) = sentOn (Sheet.parse text) := by
  rcases Sheet.exists_at text with ⟨s, hs⟩ | ⟨b, k, h⟩
  · have hs' := Sheet.parse_derives (relayout_unifyNewlines.sheet (Sheet.derives_of_parse hs))
    rw [hs, hs']
  · rw [h.parse_eq, (relayout_unifyNewlines.breach h).parse_eq]
    exact (h.report_unifyNewlines ht).texts

end

/-- Whether a text has carriage returns before its line feeds makes no difference to a file that it
is read from in UTF-8, apart from where offsets are counted. -/
theorem Sheet.runFile_encode {files : Files} {path : String} {text : List Char}
    (hfile : readBytes files path = .ok (Encoding.Utf8.encode text)) (ht : ReturnsPaired text) :
    ∃ r, Sheet.runFile files path "utf-8" = .ok r ∧ r.sent = (Sheet.run text).sent ∧
      Alike Eq (Report.WithoutReturns text) (Sheet.parse text) r.outcome := by
  refine ⟨Sheet.run (unifyNewlines text), ?_, ?_, ?_⟩
  · rw [Sheet.runFile, readSource_encode hfile, Except.map]
  · rw [Sheet.sent_run, Sheet.sent_run, ht.sentOn_parse]
  · rw [Sheet.outcome_run]
    exact ht.alike

theorem Sheet.runFile_encode_opening :
    readBytes (fun _ => .file (Encoding.Utf8.encode ['p', '\r', '\n'])) "a.css"
        = .ok (Encoding.Utf8.encode ['p', '\r', '\n']) ∧
      ReturnsPaired ['p', '\r', '\n'] ∧
      ∃ r, Sheet.runFile (fun _ => .file (Encoding.Utf8.encode ['p', '\r', '\n'])) "a.css" "utf-8"
          = .ok r ∧
        r.sent = (Sheet.run ['p', '\r', '\n']).sent ∧
        Alike Eq (Report.WithoutReturns ['p', '\r', '\n']) (Sheet.parse ['p', '\r', '\n'])
          r.outcome := by
  have hnull : hasNull (Path.normal "a.css") = false := by decide
  have hfile : readBytes (fun _ => .file (Encoding.Utf8.encode ['p', '\r', '\n'])) "a.css"
      = .ok (Encoding.Utf8.encode ['p', '\r', '\n']) := by
    simp only [readBytes, hnull, Bool.false_eq_true, if_false]
  have ht : ReturnsPaired ['p', '\r', '\n'] := by decide
  exact ⟨hfile, ht, Sheet.runFile_encode hfile ht⟩

end Stylesheet
