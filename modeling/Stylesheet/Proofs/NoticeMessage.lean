import Stylesheet.Proofs.Announced

/-!
# The message of a notice

A notice is made from a template and its arguments, or from a template alone, which is then the
message as it stands. The template of a pattern gives the texts of the pattern with the arguments
between them, whatever they are made of, if there are as many arguments as places
(`Notice.ofTemplate_pattern`). Where the notice points does not depend on any of this. A number of
more than 4300 digits is not shown in any place.

The failure for an unknown property is announced by such a template, with the name as its argument,
and has its message from elsewhere. The two are the same.
-/

namespace Stylesheet

namespace Notice

/-- The failure is pointed at in one step, which shows its own message. -/
theorem ofTemplate_unknownProperty (room : Room) (text : List Char) (name : String)
    (offset : Int) :
    ∃ template arguments,
      (Failure.unknownProperty name offset).steps = [.point offset template arguments] ∧
        ofTemplate (Template.fill room) text offset template arguments
          = .ok (point text offset (Cause.unknownProperty name).message) := by
  refine ⟨_, _, rfl, ?_⟩
  change (Template.fill room "Unknown property: '%s'." [.text name]).map (point text offset) = _
  rw [fill_unknownProperty]
  rfl

/-- Arguments are put into the places of a pattern as they are, one into each, and too few or too
many are refused, as is a number of more than 4300 digits at its place. Without any arguments, the
template is the message. -/
theorem ofTemplate_pattern (room : Room) (text : List Char) (offset : Int) (p : Template.Pattern)
    (arguments : List Template.Argument) :
    let place := Location.ofOffset text offset
    let saying (message : String) : Notice :=
      ⟨place.line, place.column, message, String.ofList (lineAt text offset)⟩
    (ofTemplate (Template.fill room) text offset p.template arguments
      = if arguments = [] then .ok (saying p.template)
        else if (arguments.take p.places).any Template.Argument.isLong then .error .numberTooLong
        else if arguments.length < p.places then .error .tooFewArguments
        else if p.places < arguments.length then .error .tooManyArguments
        else .ok (saying (p.filled arguments))) ∧
      Template.Fault.message .tooFewArguments = "not enough arguments for format string" ∧
      Template.Fault.message .tooManyArguments
        = "not all arguments converted during string formatting" ∧
      Template.Fault.message .numberTooLong
        = "Exceeds the limit (4300 digits) for integer string conversion; "
          ++ "use sys.set_int_max_str_digits() to increase the limit" ∧
      (∀ template given n, ofTemplate (Template.fill room) text offset template given = .ok n →
        n = saying n.message) ∧
      ∀ name, ∃ template given,
        (Failure.unknownProperty name offset).steps = [.point offset template given] ∧
          (Failure.unknownProperty name offset).cause.message
            = "Unknown property: '" ++ name ++ "'." ∧
          ofTemplate (Template.fill room) text offset template given
            = .ok (saying ("Unknown property: '" ++ name ++ "'.")) := by
  refine ⟨?_, rfl, rfl, rfl, fun template given n h => eq_point_of_ofTemplate h, fun name => ?_⟩
  · cases arguments with
    | nil => rfl
    | cons a arguments =>
      have hne : a :: arguments ≠ [] := List.cons_ne_nil a arguments
      change (Template.fill room p.template (a :: arguments)).map (point text offset) = _
      rw [p.fill_template, Template.Pattern.map_counted, if_neg hne]
      rfl
  · obtain ⟨template, given, hsteps, hshown⟩ := ofTemplate_unknownProperty room text name offset
    exact ⟨template, given, hsteps, rfl, hshown⟩

/-- Percent signs at the seams and in an argument, and a number below zero. -/
theorem ofTemplate_pattern_percents :
    ofTemplate (Template.fill none) ['a'] 1 "100%%%s%%s%s%%" [.text "%d", .number (-7)]
        = .ok ⟨1, 1, "100%%d%s-7%", "a"⟩ ∧
      (⟨1, 1, "100%%d%s-7%", "a"⟩ : Notice)
        = point ['a'] 1 "100%%d%s-7%" := by
  have h := ofTemplate_pattern none ['a'] 1 ⟨"100%", ["%s", "%"]⟩ [.text "%d", .number (-7)]
  have hfilled : ofTemplate (Template.fill none) ['a'] 1 "100%%%s%%s%s%%"
      [.text "%d", .number (-7)] = .ok ⟨1, 1, "100%%d%s-7%", "a"⟩ := h.1
  exact ⟨hfilled, h.2.2.2.2.1 _ _ _ hfilled⟩

/-- The least number that has too many digits is not shown. A truth value is shown in words, though
it counts as a number. -/
theorem ofTemplate_long :
    ofTemplate (Template.fill none) [] 0 "%s" [.number (Nat.pow 10 4300)]
        = .error .numberTooLong ∧
      ofTemplate (Template.fill none) [] 0 "%s" [.truth true] = .ok ⟨1, 0, "True", ""⟩ := by
  have hmade (a : Template.Argument) : ofTemplate (Template.fill none) [] 0 "%s" [a]
      = if a.isLong then .error .numberTooLong else .ok ⟨1, 0, a.shown, ""⟩ := by
    change (Template.fill none "%s" [a]).map (point [] 0) = _
    rw [Template.fill_plain]
    cases a.isLong <;> rfl
  have hlong (k : Nat) (hk : 4300 ≤ k) :
      ofTemplate (Template.fill none) [] 0 "%s" [.number (Nat.pow 10 k)]
        = .error .numberTooLong :=
    (hmade _).trans (if_pos (Template.Argument.isLong_pow k hk))
  refine ⟨?_, hmade _⟩
  -- As a numeral, the exponent would be an invitation to work the power out.
  generalize hk : 4300 = k
  exact hlong k (Nat.le_of_eq hk)

end Notice

end Stylesheet
