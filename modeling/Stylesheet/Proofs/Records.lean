import Stylesheet.Log
import Stylesheet.Proofs.Caret
import Stylesheet.Proofs.Filling

/-!
# What the records say

The message of a record is filled from a template. A text that was sent is taken as it is, and so
is a selector, in quotes, since nothing in a word has to be escaped (`quoted_word`). A count is
shown in decimal digits, unless there are more of them than a numeral may have.
-/

namespace Stylesheet

/-! ## Words in quotes -/

theorem Quoted.escape_letter {c : Char} (h : isLetter c = true) :
    Quoted.escape isPrintable '\'' c = [c] := by
  have hne {d : Char} (hd : isLetter d = false) : c ≠ d := by
    rintro rfl
    rw [h] at hd
    cases hd
  have hshown : isPrintable c = true := by
    rw [isPrintable, isPrintableAscii_of_isLetter h, Bool.true_or]
  simp [Quoted.escape, hshown, hne (by decide : isLetter '\'' = false),
    hne (by decide : isLetter '\\' = false), hne (by decide : isLetter '\n' = false),
    hne (by decide : isLetter '\r' = false), hne (by decide : isLetter '\t' = false)]

theorem Quoted.flatMap_letters : ∀ {w : List Char}, (∀ c ∈ w, isLetter c = true) →
    w.flatMap (Quoted.escape isPrintable '\'') = w
  | [], _ => rfl
  | c :: w, h => by
    obtain ⟨hc, hw⟩ := List.forall_mem_cons.1 h
    rw [List.flatMap_cons, escape_letter hc, flatMap_letters hw, List.singleton_append]

theorem quoted_word {w : List Char} (h : IsWord w) : quoted w = '\'' :: w ++ ['\''] := by
  have hquote : Quoted.quoteFor w = '\'' := by
    have hnone : w.contains '\'' = false := by
      rw [← Bool.not_eq_true, List.contains_iff_mem]
      exact fun hmem => absurd (h.2 _ hmem) (by decide)
    rw [Quoted.quoteFor, hnone]
    rfl
  rw [quoted, Quoted.encode, hquote, Quoted.flatMap_letters h.2]

/-! ## Counts -/

namespace Template

variable {room : Room} {size : Nat}

theorem fillFrom_count {front back : List Char} (hfront : '%' ∉ front) (hback : '%' ∉ back)
    (n : Int) :
    fillFrom room size (front ++ '%' :: 'd' :: back) [.number n]
      = if isTooLong n then .error .numberTooLong else .ok (front ++ (decimal n ++ back)) := by
  have hend : fillFrom room size back [] = .ok back := by
    rw [← List.append_nil back, fillFrom_of_notMem hback, fillFrom]
    rfl
  rw [fillFrom_of_notMem hfront, isDirective_d.fillFrom_cons fun index => convert_decimal index n,
    hend]
  cases isTooLong n <;> rfl

end Template

/-- A message with this count in it, which cannot be made if the count has more than 4300
digits. -/
def counting (count : Nat) (message : String) : Except Template.Fault String :=
  if 4300 < (Nat.toDigits 10 count).length then .error .numberTooLong else .ok message

theorem ofList_decimal (count : Nat) : String.ofList (decimal count) = toString count := by
  rw [← String.toList_inj, String.toList_ofList]
  exact (Template.Argument.toList_toString count).symm

theorem map_counting (count : Nat) (front back : String) :
    (if isTooLong count then Except.error Template.Fault.numberTooLong
      else .ok (front.toList ++ (decimal count ++ back.toList))).map String.ofList
      = counting count (front ++ toString count ++ back) := by
  have hmessage : String.ofList (front.toList ++ (decimal count ++ back.toList))
      = front ++ toString count ++ back := by
    rw [← ofList_decimal, String.ofList_append, String.ofList_append, String.ofList_toList,
      String.ofList_toList, String.append_assoc]
  by_cases hlong : 4300 < (Nat.toDigits 10 count).length
  · have htoo : isTooLong count = true := decide_eq_true hlong
    rw [counting, if_pos hlong, if_pos htoo]
    rfl
  · have htoo : ¬ isTooLong count = true := by rwa [isTooLong, decide_eq_true_iff]
    rw [counting, if_neg hlong, if_neg htoo, ← hmessage]
    rfl

/-! ## Records -/

namespace Record

theorem ofText_own (text : String) : ofText "minicss" text = ⟨40, "minicss", .ok text⟩ := by
  rw [ofText, Template.fill_plain]
  rfl

theorem ofSheet_eq (s : Sheet) :
    ofSheet s = ⟨10, "minicss", counting s.rules.length
      ("Parsed sheet with " ++ toString s.rules.length ++ " rule(s)")⟩ := by
  have htemplate : "Parsed sheet with %d rule(s)".toList
      = "Parsed sheet with ".toList ++ '%' :: 'd' :: " rule(s)".toList := by decide
  rw [ofSheet, Template.fill, htemplate, Template.fillFrom_count (by decide) (by decide),
    map_counting]
  rfl

theorem ofRule_eq {r : Rule} (h : IsWord r.selector.toList) :
    ofRule r = ⟨10, "minicss", counting r.declarations.length
      ("Parsed rule '" ++ r.selector ++ "' with " ++ toString r.declarations.length
        ++ " declaration(s)")⟩ := by
  have htemplate : "Parsed rule %r with %d declaration(s)".toList
      = "Parsed rule ".toList ++ '%' :: 'r' ::
        (" with ".toList ++ '%' :: 'd' :: " declaration(s)".toList) := by decide
  have hfront : ("Parsed rule '" ++ r.selector ++ "' with ").toList
      = "Parsed rule ".toList ++ (quoted r.selector.toList ++ " with ".toList) := by
    rw [quoted_word h, String.toList_append, String.toList_append]
    simp
  rw [ofRule, ← map_counting, hfront, Template.fill, htemplate,
    Template.fillFrom_of_notMem (by decide),
    Template.isDirective_r.fillFrom_cons fun index => Template.convert_quoted index r.selector]
  change Record.mk _ _ (((Template.fillFrom none _ _ _).map (quoted r.selector.toList ++ ·)).map
    _ |>.map _) = _
  rw [Template.fillFrom_count (by decide) (by decide)]
  cases isTooLong r.declarations.length with
  | true => rfl
  | false => simp [Except.map, Level.debug, ownLogger]

end Record

end Stylesheet
