import Stylesheet.Notice
import Stylesheet.Proofs.Lines

/-!
# The text of a notice

Nothing in the text of a notice is escaped, and a message may look like any other part of it. Still
the text tells the notice, if the line of the source is one line. The numbers of the line and the
column come first and end at the first comma and at the first point behind it, since no numeral has
one. The column says what the text ends in, so that is taken off, and then the line of the source
is what stands behind the last line feed. The message is all that is left.
-/

namespace Stylesheet

/-! ## Numerals -/

theorem mem_decimal {n : Int} {c : Char} (h : c ∈ decimal n) : c = '-' ∨ c.isDigit = true := by
  have hdigit : c ∈ Nat.toDigits 10 n.natAbs → c.isDigit = true :=
    Nat.isDigit_of_mem_toDigits (by decide) (by decide)
  unfold decimal at h
  split at h
  · rcases List.mem_cons.1 h with rfl | h
    · exact .inl rfl
    · exact .inr (hdigit h)
  · exact .inr (hdigit h)

theorem notMem_decimal {c : Char} (hc : c ≠ '-') (hd : c.isDigit = false) (n : Int) :
    c ∉ decimal n := by
  intro h
  rcases mem_decimal h with rfl | h
  · exact hc rfl
  · rw [hd] at h
    cases h

theorem toDigits_injective {m n : Nat} (h : Nat.toDigits 10 m = Nat.toDigits 10 n) : m = n := by
  have hm : Nat.ofDigitChars 10 (Nat.toDigits 10 m) 0 = m := Nat.ofDigitChars_ten_toDigits
  have hn : Nat.ofDigitChars 10 (Nat.toDigits 10 n) 0 = n := Nat.ofDigitChars_ten_toDigits
  rw [← hm, h, hn]

theorem hyphen_notMem_toDigits (n : Nat) : '-' ∉ Nat.toDigits 10 n := by
  intro h
  have hdigit := Nat.isDigit_of_mem_toDigits (by decide) (by decide) h
  exact absurd hdigit (by decide)

theorem decimal_injective {m n : Int} (h : decimal m = decimal n) : m = n := by
  unfold decimal at h
  by_cases hm : m < 0 <;> by_cases hn : n < 0 <;> simp only [hm, hn, if_true, if_false] at h
  · have := toDigits_injective (List.cons.inj h).2
    omega
  · exact absurd (h ▸ List.mem_cons_self) (hyphen_notMem_toDigits n.natAbs)
  · exact absurd (h ▸ List.mem_cons_self) (hyphen_notMem_toDigits m.natAbs)
  · have := toDigits_injective h
    omega

/-! ## Parts of the text -/

namespace Notice

theorem toList_toText (n : Notice) :
    n.toText.toList = ("Error at line " ++ String.ofList (decimal n.line) ++ ", column "
        ++ String.ofList (decimal n.column) ++ ". " ++ n.message).toList
      ++ '\n' :: '\n' :: (n.sourceLine.toList
      ++ '\n' :: (List.replicate n.column.toNat ' ' ++ "^ Near here.".toList)) := by
  have hgap (s : List Char) : "\n\n".toList ++ s = '\n' :: '\n' :: s := rfl
  have hend (s : List Char) : "\n".toList ++ s = '\n' :: s := rfl
  have hspaces : (String.ofList (List.replicate n.column.toNat ' ')).toList
      = List.replicate n.column.toNat ' ' := String.toList_ofList
  unfold Notice.toText
  rw [String.toList_append, String.toList_append, String.toList_append, String.toList_append,
    String.toList_append, hspaces, List.append_assoc, List.append_assoc, List.append_assoc,
    List.append_assoc, hgap, hend]

/-- What comes behind the two numbers. -/
def body (n : Notice) : List Char :=
  n.message.toList ++ '\n' :: '\n' :: n.sourceLine.toList

/-- What the text ends in, by the column. -/
def caretLine (column : Int) : List Char :=
  '\n' :: (List.replicate column.toNat ' ' ++ "^ Near here.".toList)

theorem toList_toText_body (n : Notice) :
    n.toText.toList = "Error at line ".toList ++ (decimal n.line ++ ',' :: (" column ".toList
      ++ (decimal n.column ++ '.' :: ' ' :: (n.body ++ caretLine n.column)))) := by
  rw [toList_toText]
  simp [body, caretLine, String.toList_append]

theorem lastLine_body {n : Notice} (h : '\n' ∉ n.sourceLine.toList) :
    lastLine n.body = n.sourceLine.toList := by
  have hbody : n.body = (n.message.toList ++ ['\n']) ++ '\n' :: n.sourceLine.toList := by
    simp [body]
  rw [hbody, lastLine_newline, lastLine_of_notMem h]

/-- The last line of the body is the line of the source, and the rest of it is the message. -/
theorem body_inj {n n' : Notice} (h : '\n' ∉ n.sourceLine.toList)
    (h' : '\n' ∉ n'.sourceLine.toList) (hbody : n.body = n'.body) :
    n.message = n'.message ∧ n.sourceLine = n'.sourceLine := by
  have hline : n.sourceLine.toList = n'.sourceLine.toList := by
    rw [← lastLine_body h, ← lastLine_body h', hbody]
  unfold body at hbody
  rw [hline] at hbody
  exact ⟨String.toList_inj.1 (List.append_cancel_right hbody), String.toList_inj.1 hline⟩

theorem eq_of_toText_eq {n n' : Notice} (h : '\n' ∉ n.sourceLine.toList)
    (h' : '\n' ∉ n'.sourceLine.toList) (ht : n.toText = n'.toText) : n = n' := by
  have htext := congrArg String.toList ht
  rw [toList_toText_body, toList_toText_body] at htext
  obtain ⟨hline, hrest⟩ := append_cons_inj (notMem_decimal (by decide) (by decide) _)
    (notMem_decimal (by decide) (by decide) _) (List.append_cancel_left htext)
  obtain ⟨hcolumn, hrest⟩ := append_cons_inj (notMem_decimal (by decide) (by decide) _)
    (notMem_decimal (by decide) (by decide) _) (List.append_cancel_left hrest)
  have hline := decimal_injective hline
  have hcolumn := decimal_injective hcolumn
  -- The column is the same, so the two texts end in the same and it comes off behind.
  have hbody := (List.cons.inj hrest).2
  rw [hcolumn] at hbody
  obtain ⟨hmessage, hsource⟩ := body_inj h h' (List.append_cancel_right hbody)
  cases n
  cases n'
  simp_all

/-- A notice of a text shows one of its lines. -/
theorem newline_notMem_sourceLine {α ε : Type} {format : String → List α → Except ε String}
    {text : List Char} {offset : Int} {template : String} {arguments : List α} {n : Notice}
    (h : ofTemplate format text offset template arguments = .ok n) :
    '\n' ∉ n.sourceLine.toList := by
  have hpoint (message : String) : '\n' ∉ (point text offset message).sourceLine.toList := by
    obtain ⟨u, v, rfl, hclamp⟩ := Location.exists_cut text offset
    rw [point, String.toList_ofList, ← Location.lineAt_clamp, hclamp]
    exact newline_notMem_lineAt u v
  rw [eq_point_of_ofTemplate h]
  exact hpoint n.message

theorem toText_eq_of_display {room : Room} {n : Notice} {shown : String}
    (h : n.display room = .ok shown) : n.toText = shown := by
  unfold display at h
  split at h
  · cases h
  split at h
  · cases h
  split at h
  · cases h
  · exact Except.ok.inj h

/-- Notices of texts show one line, and two notices that do are told apart by their texts. -/
theorem toText_tells :
    (∀ (α ε : Type) (format : String → List α → Except ε String) text offset template arguments n,
        ofTemplate format text offset template arguments = .ok n →
          '\n' ∉ n.sourceLine.toList) ∧
      ∀ n n' : Notice, '\n' ∉ n.sourceLine.toList → '\n' ∉ n'.sourceLine.toList →
        (n.toText = n'.toText → n = n') ∧
          ∀ room shown, n.display room = .ok shown → n'.display room = .ok shown → n = n' := by
  refine ⟨?_, ?_⟩
  · intro α ε format text offset template arguments n
    exact newline_notMem_sourceLine
  · intro n n' h h'
    refine ⟨eq_of_toText_eq h h', ?_⟩
    intro room shown hn hn'
    exact eq_of_toText_eq h h' ((toText_eq_of_display hn).trans (toText_eq_of_display hn').symm)

/-- Below zero the column is still told, though not by the caret. -/
theorem toText_tells_below :
    '\n' ∉ "p".toList ∧ toText ⟨1, -1, "", "p"⟩ ≠ toText ⟨1, -2, "", "p"⟩ := by
  have h : '\n' ∉ "p".toList := by decide
  refine ⟨h, fun ht => ?_⟩
  have heq := (toText_tells.2 ⟨1, -1, "", "p"⟩ ⟨1, -2, "", "p"⟩ h h).1 ht
  cases heq

end Notice

end Stylesheet
