import Stylesheet.Proofs.Alike
import Stylesheet.Proofs.Alphabet
import Stylesheet.Proofs.NoticeText
import Stylesheet.Proofs.Terminal

/-!
# The caret under a plain line

The column of a notice is counted in the text as it is, but the line above the caret is shown
without terminal sequences. The caret still stands under the place of the failure, since no
sequence starts before it: nothing but the characters of sheets is ever passed
(`Sheet.Breaks.isPlain_take`), and an escape is none of them. What else the notice says is printed
characters, so the notice keeps its four lines.
-/

namespace Stylesheet

/-! ## Printed texts -/

/-- A text of printed characters, which has one line and no terminal sequences. -/
def IsPrinted (s : List Char) : Prop :=
  ∀ c ∈ s, isPrintableAscii c = true

instance (s : List Char) : Decidable (IsPrinted s) :=
  decidable_of_iff (s.all isPrintableAscii = true) List.all_eq_true

theorem IsPrinted.append {u v : List Char} (h : IsPrinted u) (h' : IsPrinted v) :
    IsPrinted (u ++ v) :=
  List.forall_mem_append.2 ⟨h, h'⟩

theorem IsPrinted.notMem {s : List Char} {c : Char} (h : IsPrinted s)
    (hc : isPrintableAscii c = false) : c ∉ s := by
  intro hs
  rw [h c hs] at hc
  cases hc

theorem isPrintableAscii_of_le {a b c : Char} (ha : ' ' ≤ a) (hb : b ≤ '~') (hac : a ≤ c)
    (hcb : c ≤ b) : isPrintableAscii c = true := by
  rw [isPrintableAscii, Bool.and_eq_true, decide_eq_true_iff, decide_eq_true_iff]
  exact ⟨Char.le_trans ha hac, Char.le_trans hcb hb⟩

theorem isPrintableAscii_of_isDigit {c : Char} (h : c.isDigit = true) :
    isPrintableAscii c = true := by
  obtain ⟨h₀, h₉⟩ := Bool.and_eq_true_iff.1 h
  exact isPrintableAscii_of_le (a := '0') (b := '9') (by decide) (by decide) (of_decide_eq_true h₀)
    (of_decide_eq_true h₉)

theorem isPrintableAscii_of_isLetter {c : Char} (h : isLetter c = true) :
    isPrintableAscii c = true := by
  rcases Bool.or_eq_true_iff.1 h with h | h
  · obtain ⟨hA, hZ⟩ := of_decide_eq_true h
    exact isPrintableAscii_of_le (a := 'A') (b := 'Z') (by decide) (by decide) hA hZ
  · obtain ⟨ha, hz⟩ := Bool.and_eq_true_iff.1 h
    exact isPrintableAscii_of_le (a := 'a') (b := 'z') (by decide) (by decide)
      (of_decide_eq_true ha) (of_decide_eq_true hz)

theorem isPrinted_decimal (n : Int) : IsPrinted (decimal n) := by
  intro c hc
  rcases mem_decimal hc with rfl | h
  · decide
  · exact isPrintableAscii_of_isDigit h

theorem IsWord.isPrinted {w : List Char} (hw : IsWord w) : IsPrinted w :=
  fun c hc => isPrintableAscii_of_isLetter (hw.2 c hc)

theorem Cause.isPrinted_unknownProperty {name : String} (h : IsPrinted name.toList) :
    IsPrinted (unknownProperty name).message.toList := by
  have hfront : IsPrinted "Unknown property: '".toList := by decide +kernel
  have hback : IsPrinted "'.".toList := by decide +kernel
  have hmessage : (unknownProperty name).message = "Unknown property: '" ++ name ++ "'." := rfl
  rw [hmessage, String.toList_append, String.toList_append]
  exact (hfront.append h).append hback

theorem Breach.At.isPrinted_message {b : Breach} {text : List Char} {k : Nat}
    (h : b.At text k) : IsPrinted b.cause.message.toList := by
  cases h with
  | @property u name s _ hn _ _ =>
    have hname : IsPrinted (String.ofList name).toList := by
      rw [String.toList_ofList]
      exact hn.isPrinted
    exact Cause.isPrinted_unknownProperty hname
  | _ => decide +kernel

/-! ## The line shown -/

/-- The line shown starts with what stands before the place, apart from carriage returns that the
line ends in. -/
theorem exists_lineAt (u v : List Char) :
    ∃ front back n, lineAt (u ++ v) u.length = front ++ back ∧
      front.length = min (lastLine u).length (lineAt (u ++ v) u.length).length ∧
      lastLine u = front ++ List.replicate n '\r' := by
  obtain ⟨n, hn⟩ := exists_dropFinalReturns (lastLine u ++ firstLine v)
  rw [← lineAt_append] at hn
  have htake := congrArg (List.take (lastLine u).length) hn
  rw [List.take_left, List.take_append, List.take_replicate] at htake
  exact ⟨_, _, _, (List.take_append_drop _ _).symm, List.length_take, htake⟩

/-! ## The notice -/

theorem Notice.isPrinted_header {n : Notice} (h : IsPrinted n.message.toList) :
    IsPrinted ("Error at line " ++ String.ofList (decimal n.line) ++ ", column "
      ++ String.ofList (decimal n.column) ++ ". " ++ n.message).toList := by
  have hline : IsPrinted "Error at line ".toList := by decide +kernel
  have hcolumn : IsPrinted ", column ".toList := by decide +kernel
  have hstop : IsPrinted ". ".toList := by decide +kernel
  simp only [String.toList_append, String.toList_ofList]
  exact ((((hline.append (isPrinted_decimal _)).append hcolumn).append
    (isPrinted_decimal _)).append hstop).append h

theorem isPrinted_caret (column : Nat) :
    IsPrinted (List.replicate column ' ' ++ "^ Near here.".toList) := by
  have hlabel : IsPrinted "^ Near here.".toList := by decide +kernel
  refine IsPrinted.append (fun c hc => ?_) hlabel
  rw [List.eq_of_mem_replicate hc]
  rfl

/-- If there are no sequences in the front of its line, a notice has its four lines also without
sequences, and has lost nothing but those in the back of its line. -/
theorem Notice.partsAt_plainText {n : Notice} {front back : List Char}
    (hmessage : IsPrinted n.message.toList) (hline : n.sourceLine.toList = front ++ back)
    (hfront : '\x1b' ∉ front) (hone : '\n' ∉ front ++ back) :
    partsAt '\n' (plainText n.toText).toList =
      [("Error at line " ++ String.ofList (decimal n.line) ++ ", column "
          ++ String.ofList (decimal n.column) ++ ". " ++ n.message).toList,
        [],
        front ++ dropSequences back,
        List.replicate n.column.toNat ' ' ++ "^ Near here.".toList] := by
  have hheader := Notice.isPrinted_header hmessage
  have hcaret := isPrinted_caret n.column.toNat
  have hescape : isPrintableAscii '\x1b' = false := by decide
  have hnewline : isPrintableAscii '\n' = false := by decide
  have hone' : '\n' ∉ front ++ dropSequences back := by
    intro h
    rcases List.mem_append.1 h with h | h
    · exact hone (List.mem_append_left _ h)
    · exact hone (List.mem_append_right _ (mem_of_mem_dropSequences h))
  have hplain : dropSequences n.toText.toList = ("Error at line " ++ String.ofList (decimal n.line)
        ++ ", column " ++ String.ofList (decimal n.column) ++ ". " ++ n.message).toList
      ++ '\n' :: ([] ++ '\n' :: (front ++ dropSequences back
      ++ '\n' :: (List.replicate n.column.toNat ' ' ++ "^ Near here.".toList))) := by
    have hbreak : '\n' ≠ '\x1b' := by decide
    rw [Notice.toList_toText, hline, dropSequences_append (hheader.notMem hescape),
      dropSequences_cons fun h => absurd h hbreak, dropSequences_cons fun h => absurd h hbreak,
      List.append_assoc,
      dropSequences_append hfront, dropSequences_append_cons (by decide),
      dropSequences_of_notMem (hcaret.notMem hescape), List.append_assoc, List.nil_append]
  rw [plainText, String.toList_ofList, hplain, partsAt_append_cons (hheader.notMem hnewline),
    partsAt_append_cons List.not_mem_nil, partsAt_append_cons hone',
    partsAt_of_notMem (hcaret.notMem hnewline)]

/-- A notice at this place, shown without terminal sequences, is four lines. The line of the text
may have lost something only behind `front`, which is what stands before the place. -/
structure CaretStays (text : List Char) (offset : Int) (place : Location) (message : String)
    (notice : String) (front back : List Char) : Prop where
  line : lineAt text offset = front ++ back
  length : front.length = min place.column (lineAt text offset).length
  before : ∃ n, Location.lineBefore text offset = front ++ List.replicate n '\r'
  lines : partsAt '\n' (plainText notice).toList =
    [("Error at line " ++ String.ofList (decimal place.line) ++ ", column "
        ++ String.ofList (decimal place.column) ++ ". " ++ message).toList,
      [],
      front ++ dropSequences back,
      List.replicate place.column ' ' ++ "^ Near here.".toList]

/-- What is shown of a failure without terminal sequences keeps its caret under the place of the
failure, and before that place are letters, blanks and marks only. -/
theorem Sheet.caret_stays {text : List Char} {a : Announcement}
    (ha : Sheet.parse text = .error (.failed a)) :
    ∃ (k : Nat) (place : Location) (notice : String) (front back : List Char),
      a.report.offset = k ∧ a.report.place = some place ∧ a.sent.head? = some notice ∧
      CaretStays text k place a.report.cause.message notice front back ∧
      ∀ c ∈ text.take k,
        isLetter c = true ∨ isBlank c = true ∨ c ∈ ['\x7b', '\x7d', ':', ';'] := by
  obtain ⟨b, k, h, rfl⟩ := Sheet.exists_at_of_parse ha
  have hplain := h.breaks.isPlain_take
  have hmessage := h.isPrinted_message
  obtain ⟨u, v, rfl, rfl, -⟩ := h.exists_parted
  rw [List.take_left] at hplain
  obtain ⟨front, back, n, hline, hlength, hbefore⟩ := exists_lineAt u v
  obtain ⟨rest, hu⟩ := exists_lastLine u
  have hfront : '\x1b' ∉ front := by
    intro he
    have hmem : '\x1b' ∈ u := by
      rw [hu, hbefore]
      exact List.mem_append_right _ (List.mem_append_left _ he)
    exact absurd (hplain _ hmem) (by decide)
  have hone := newline_notMem_lineAt u v
  rw [hline] at hone
  refine ⟨u.length, Location.ofOffset (u ++ v) u.length,
    (Notice.point (u ++ v) u.length b.cause.message).toText, front, back, rfl, rfl, rfl,
    ⟨hline, ?_, ⟨n, ?_⟩, ?_⟩, ?_⟩
  · rw [Location.ofOffset_append]
    exact hlength
  · rw [Location.lineBefore_append, hbefore]
  · refine Notice.partsAt_plainText hmessage ?_ hfront hone
    rw [Notice.point, String.toList_ofList, hline]
  · rw [List.take_left]
    intro c hc
    have hc' := hplain c hc
    simp only [isInner, Bool.or_eq_true, decide_eq_true_eq] at hc'
    simp only [List.mem_cons, List.not_mem_nil, or_false]
    grind

theorem Sheet.caret_stays_opening :
    ∃ a, Sheet.parse ['\n', 'p', ' ', '\x1b', '[', '1', 'm', 'x'] = .error (.failed a) ∧
      ∃ (k : Nat) (place : Location) (notice : String) (front back : List Char),
        a.report.offset = k ∧ a.report.place = some place ∧ a.sent.head? = some notice ∧
        CaretStays ['\n', 'p', ' ', '\x1b', '[', '1', 'm', 'x'] k place a.report.cause.message
          notice front back ∧
        ∀ c ∈ ['\n', 'p', ' ', '\x1b', '[', '1', 'm', 'x'].take k,
          isLetter c = true ∨ isBlank c = true ∨ c ∈ ['\x7b', '\x7d', ':', ';'] := by
  have hstart : Sheet.Derives ['\n'] ⟨[]⟩ := .mk (show IsBlanks ['\n'] by decide) .nil
  have h : Breach.opening.At ['\n', 'p', ' ', '\x1b', '[', '1', 'm', 'x'] 3 :=
    .opening (s := ['\x1b', '[', '1', 'm', 'x']) hstart (show IsWord ['p'] by decide)
      (show IsBlanks [' '] by decide) (endsRun_cons.2 (by decide)) (endsRun_cons.2 (by decide))
      (by decide)
  exact ⟨_, h.parse_eq, Sheet.caret_stays h.parse_eq⟩

end Stylesheet
